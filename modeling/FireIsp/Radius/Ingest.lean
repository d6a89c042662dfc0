import FireIsp.Radius.Observe

/-!
# Accounting ingest

The second half of `ingestAccounting`: one transaction under the subscriber's lock. The stored row
of the session decides a `Plan`; performing it writes the session row and the usage of its day.
-/

namespace FireIsp.Radius

/-- A time as stored in a column of whole seconds. -/
def toSeconds (ms : Nat) : Nat := (ms + 500) / 1000 * 1000

/-- What identifies a session: tenant, NAS, username and Acct-Session-Id. -/
def Log.sessionKey (env : Env) (row : Log) : Nat × Option Nat × String × Option String :=
  (row.organizationId, row.nasId, env.collate row.username, row.acctSessionId.map env.collate)

def Observation.sessionKey (env : Env) (o : Observation) :
    Nat × Option Nat × String × Option String :=
  (o.organizationId, some o.nasId, env.collate o.userName, some (env.collate o.acctSessionId))

/-- The deprecated row, without an Acct-Session-Id, is of the session of the observation. -/
def Log.ofLegacySession (env : Env) (row : Log) (o : Observation) : Bool :=
  row.acctSessionId.isNone &&
    decide ((row.organizationId, row.nasId, env.collate row.username,
      row.sessionId.map env.collate) = o.sessionKey env)

/-- Row of the session last touched: `duplicateRows` and `currentRows`. -/
def currentRow (env : Env) (logs : List Log) (o : Observation) : Option Log :=
  match Table.newest Log.lastAt Log.id (logs.filter fun row =>
      row.sessionKey env = o.sessionKey env) with
  | some row => some row
  | none => Table.newest Log.eventAt Log.id (logs.filter fun row => row.ofLegacySession env o)

/-- Both values are present and differ. -/
def changed (stored sent : Option String) : Bool :=
  stored.isSome && sent.isSome && decide (stored ≠ sent)

/-- Only the sent value is present. -/
def enriched (stored sent : Option String) : Bool := stored.isNone && sent.isSome

/-- The session has not stopped. -/
def Log.isOpen (row : Log) : Bool := decide (row.eventType ≠ .stop)

def staleOpenSession (env : Env) (row : Log) (o : Observation) : Bool :=
  row.isOpen && decide (row.lastAt + env.liveness < o.observedEventAt)

def stationChanged (row : Log) (o : Observation) : Bool :=
  row.isOpen && changed row.callingStationId o.callingStationId

def identityChanged (row : Log) (o : Observation) : Bool :=
  row.isOpen && (changed row.framedIp o.framedIp ||
    changed row.framedIpv6Prefix o.framedIpv6Prefix ||
    changed row.callingStationId o.callingStationId)

def identityEnriched (row : Log) (o : Observation) : Bool :=
  row.isOpen && (enriched row.framedIp o.framedIp ||
    enriched row.framedIpv6Prefix o.framedIpv6Prefix ||
    enriched row.callingStationId o.callingStationId)

def distinctLaterStart (row : Log) (o : Observation) : Bool :=
  row.isOpen && o.hasExplicitEventTimestamp &&
    decide (row.eventAt < o.observedEventAt ∧ row.lastAt ≤ o.observedEventAt)

def newOpenLifecycle (row : Log) (o : Observation) : Bool :=
  identityChanged row o || distinctLaterStart row o

def isReplay (env : Env) (row : Log) (o : Observation) : Bool :=
  (row.isOpen && !staleOpenSession env row o && !newOpenLifecycle row o) ||
    (!row.isOpen && decide (o.observedEventAt ≤ row.lastAt))

/-- `sameFinalValue` for a counter; a stored `NULL` counts as zero. -/
def sameFinalNumber (incoming persisted : Option Nat) : Bool :=
  incoming.all fun value => value == persisted.getD 0

/-- `sameFinalValue` for a text; a stored `NULL` reads as `'null'`. -/
def sameFinalText (incoming persisted : Option String) : Bool :=
  incoming.all fun value => value == persisted.getD "null"

def sameStopPayload (row : Log) (o : Observation) : Bool :=
  decide (o.eventType = .stop) &&
    (usageFields.all fun field =>
      sameFinalNumber (o.counters.get field) (row.usageLast.get field)) &&
    sameFinalText o.terminateCause row.terminateCause && sameFinalText o.framedIp row.framedIp &&
    sameFinalText o.framedIpv6Prefix row.framedIpv6Prefix

/-- `isLaterReusedLifecycle`: the Acct-Session-Id of a stopped session is in use again. -/
def isLaterReusedLifecycle (row : Log) (o : Observation) : Bool :=
  o.hasExplicitEventTimestamp && !sameStopPayload row o &&
    decide (row.lastAt < o.observedEventAt ∧
      row.lastAt + o.counters.duration.getD 0 * 1000 ≤ o.observedEventAt)

/-- `correctedFinal`: a Stop with a larger counter or another cause. -/
def correctedFinal (row : Log) (o : Observation) : Bool :=
  decide (o.eventType = .stop) &&
    ((usageFields.any fun field =>
        (o.counters.get field).any fun value => decide ((row.usageLast.get field).getD 0 < value)) ||
      (o.terminateCause.isSome && decide (o.terminateCause ≠ row.terminateCause)))

def exactReplay (row : Log) (o : Observation) : Bool :=
  decide (o.observedEventAt = row.lastAt) && decide (row.eventType = o.eventType) &&
    (usageFields.all fun field =>
      (o.counters.get field).all fun value => (row.usageLast.get field).getD 0 == value) &&
    decide (row.terminateCause = o.terminateCause) &&
    (o.framedIp.isNone || decide (row.framedIp = o.framedIp)) &&
    (o.framedIpv6Prefix.isNone || decide (row.framedIpv6Prefix = o.framedIpv6Prefix))

/-- What becomes of an observation. -/
inductive Plan
  | ignore (current : Log)
  /-- A repeated Start fills in the identity of the open session. -/
  | enrich (duplicate : Log)
  /-- A Start opens a session; the open session under the same id is closed for the cause. -/
  | openSession (closing : Option (Log × String)) (stationMove : Bool)
  /-- A Stop corrects the final counters of a stopped session. -/
  | correctFinal (current : Log)
  /-- A Stop older than the session evidence closes the session, without its counters. -/
  | closeOutOfOrder (current : Log)
  /-- The session takes the counters of an Interim-Update or Stop. -/
  | accept (current : Log)
  /-- An Interim-Update or Stop of a session whose Start was missed. -/
  | insertLate

/-- Decision on a Start. -/
def planStart (env : Env) (logs : List Log) (o : Observation) : Except Invalid Plan :=
  match currentRow env logs o with
  | none => .ok (.openSession none false)
  | some duplicate =>
    if identityChanged duplicate o && o.hasExplicitEventTimestamp &&
        decide (o.observedEventAt < duplicate.lastAt) then
      .error ⟨"Conflicting Accounting-Start predates the current session evidence; " ++
        "the lifecycle was not mutated", []⟩
    else if isReplay env duplicate o then
      if identityEnriched duplicate o then
        if o.observedEventAt < duplicate.lastAt then
          .error ⟨"Accounting-Start enrichment predates the current session evidence; " ++
            "the lifecycle was not mutated", []⟩
        else .ok (.enrich duplicate)
      else .ok (.ignore duplicate)
    else if staleOpenSession env duplicate o || newOpenLifecycle duplicate o then
      .ok (.openSession (some (duplicate, if identityChanged duplicate o
        then "Session-Identity-Changed" else "Session-Restarted")) (stationChanged duplicate o))
    else .ok (.openSession none false)

/-- Row an Interim-Update or Stop is for: none when a stopped session's id is in use again. -/
def liveRow (env : Env) (logs : List Log) (o : Observation) : Option Log :=
  (currentRow env logs o).filter fun row => row.isOpen || !isLaterReusedLifecycle row o

/-- Decision on an Interim-Update or Stop. -/
def planUpdate (env : Env) (logs : List Log) (o : Observation) : Except Invalid Plan :=
  match liveRow env logs o with
  | none => .ok .insertLate
  | some current =>
    if !current.isOpen then
      if correctedFinal current o &&
          (!o.hasExplicitEventTimestamp || decide (current.lastAt ≤ o.observedEventAt)) then
        .ok (.correctFinal current)
      else .ok (.ignore current)
    else if o.observedEventAt < current.lastAt then
      if o.eventType = .stop then .ok (.closeOutOfOrder current) else .ok (.ignore current)
    else if changed current.framedIp o.framedIp then
      .error ⟨"Framed-IP-Address changed within one access-session lifecycle; " ++
        "start a new accounting session instead", []⟩
    else if changed current.framedIpv6Prefix o.framedIpv6Prefix then
      .error ⟨"Framed-IPv6-Prefix changed within one access-session lifecycle; " ++
        "start a new accounting session instead", []⟩
    else if exactReplay current o then .ok (.ignore current)
    else .ok (.accept current)

/-- Decision on an observation. -/
def plan (env : Env) (logs : List Log) (o : Observation) : Except Invalid Plan :=
  match o.eventType with
  | .start => planStart env logs o
  | .interimUpdate | .stop => planUpdate env logs o

/-- `currentInstanceId`. -/
def Log.instanceId (row : Log) : Nat := row.sessionInstanceId.getD row.id

/-- `COALESCE(?, usage_last_...)`. -/
def nextUsageLast (previous current : Counters) : Counters :=
  .of fun field => (current.get field).or (previous.get field)

/-- `correctedUsage` and `acceptedUsage`: what the session used since its latest event. -/
def Log.usageSince (row : Log) (o : Observation) : Usage :=
  calculateUsageDelta row.usageLast o.counters (some row.lastAt) o.observedEventAt
    row.usageAccountingComplete none false

/-- The row after an accepted Interim-Update or Stop. -/
def Log.accept (row : Log) (o : Observation) : Log :=
  { row with
    sessionInstanceId := some row.instanceId
    eventType := o.eventType
    terminateCause := o.terminateCause
    framedIp := o.framedIp.or row.framedIp
    framedIpv6Prefix := o.framedIpv6Prefix.or row.framedIpv6Prefix
    lastAccountingAt := some o.observedEventAt
    usageAccountingComplete := (row.usageSince o).nextSessionComplete
    usageAnomalyCount := row.usageAnomalyCount + (row.usageSince o).sessionAnomalyCount
    usageLast := nextUsageLast row.usageLast o.counters }

/-- The row after a corrected final; the stop keeps its time. -/
def Log.correctFinal (row : Log) (o : Observation) : Log :=
  { row with
    sessionInstanceId := some row.instanceId
    terminateCause := o.terminateCause.or row.terminateCause
    lastAccountingAt := some row.lastAt
    usageAccountingComplete := (row.usageSince o).nextSessionComplete
    usageAnomalyCount := row.usageAnomalyCount + (row.usageSince o).sessionAnomalyCount
    usageLast := nextUsageLast row.usageLast o.counters }

/-- The row after a Stop that is older than its evidence. -/
def Log.closeOutOfOrder (row : Log) (o : Observation) : Log :=
  { row with
    eventType := .stop
    terminateCause := o.terminateCause.or row.terminateCause
    lastAccountingAt := some o.observedEventAt
    usageAccountingComplete := false
    usageAnomalyCount := row.usageAnomalyCount + 1 }

/-- The row closed at the time of another session's Start. -/
def Log.close (row : Log) (o : Observation) (cause : String) : Log :=
  { row with
    eventType := .stop
    terminateCause := some cause
    lastAccountingAt := some o.observedEventAt }

/-- The row with the identity a repeated Start adds. -/
def Log.enrich (row : Log) (o : Observation) : Log :=
  { row with
    framedIp := row.framedIp.or o.framedIp
    framedIpv6Prefix := row.framedIpv6Prefix.or o.framedIpv6Prefix
    callingStationId := row.callingStationId.or o.callingStationId
    lastAccountingAt := some o.observedEventAt }

def startHasCumulativeUsage (counters : Counters) : Bool :=
  usageFields.any fun field => decide (0 < (counters.get field).getD 0)

def startUsage (o : Observation) : Usage :=
  calculateUsageDelta (.of fun _ => none) o.counters none o.observedEventAt
    (!startHasCumulativeUsage o.counters)
    (if startHasCumulativeUsage o.counters then some .nonzeroStartBaseline else none) true

def lateUsage (o : Observation) : Usage :=
  calculateUsageDelta (.of fun _ => none) o.counters none o.observedEventAt false
    (some .missingStartBaseline) true

/-- Row inserted for an observation. -/
def newLog (id : Nat) (o : Observation) (eventAt : Nat) (complete : Bool) (anomalies : Nat) :
    Log where
  id := id
  organizationId := o.organizationId
  contractId := o.contractId
  clientId := o.clientId
  nasId := some o.nasId
  username := o.userName
  acctSessionId := some o.acctSessionId
  sessionId := some o.acctSessionId
  sessionInstanceId := some id
  callingStationId := o.callingStationId
  framedIp := o.framedIp
  framedIpv6Prefix := o.framedIpv6Prefix
  eventType := o.eventType
  eventAt := toSeconds eventAt
  terminateCause := o.terminateCause
  lastAccountingAt := some o.observedEventAt
  usageAccountingComplete := complete
  usageAnomalyCount := anomalies
  usageLast := o.counters

/-- Row inserted for a Start. -/
def startLog (id : Nat) (o : Observation) : Log :=
  newLog id o o.observedEventAt (startUsage o).nextSessionComplete (startUsage o).anomalyCount

/-- Row inserted when the Start was missed; the session started its session time earlier. -/
def lateLog (id : Nat) (o : Observation) : Log :=
  newLog id o (o.observedEventAt - o.counters.duration.getD 0 * 1000) false
    (lateUsage o).sessionAnomalyCount

/-- Session the usage of a stored row belongs to. -/
def Log.subject (row : Log) : Subject where
  organizationId := row.organizationId
  sessionInstanceId := row.instanceId
  connectionLogId := row.id
  contractId := row.contractId
  clientId := row.clientId
  nasId := row.nasId
  username := row.username

/-- `UPDATE connection_logs ... WHERE id = ?`. -/
def State.putLog (state : State) (row : Log) : State :=
  { state with logs := Table.put Log.id row state.logs }

/-- `recordUsageDelta`, for the session of a row. -/
def State.record (state : State) (row : Log) (o : Observation) (usage : Usage) : State :=
  { state with usage := recordUsageDelta state.usage row.subject o.observedEventAt usage }

/-- `INSERT INTO connection_logs`, and the usage of the new session. -/
def State.insertLog (state : State) (row : Log) (o : Observation) (usage : Usage) : State :=
  { state with nextId := state.nextId + 1, logs := state.logs ++ [row] }.record row o usage

/-- `openRows`: the latest open session of the username under another session id. -/
def openRow (env : Env) (logs : List Log) (o : Observation) : Option Log :=
  Table.newest Log.eventAt (fun row => env.tieOrder row.id) (logs.filter fun row =>
    decide (env.same row.username o.userName) && decide (row.organizationId = o.organizationId) &&
      row.isOpen && row.acctSessionId.all fun id => !decide (env.same id o.acctSessionId))

/-- `macChanged || nasChanged`. -/
def moved (row : Log) (o : Observation) : Bool :=
  changed row.callingStationId o.callingStationId ||
    row.nasId.any fun nasId => decide (nasId ≠ o.nasId)

/-- The open session a Start takes the subscriber away from. -/
def movedRow (env : Env) (logs : List Log) (o : Observation) : Option Log :=
  (openRow env logs o).filter fun row => moved row o

/-- The moved session is closed and the move recorded. -/
def State.closeMoved (state : State) (env : Env) (o : Observation) : State :=
  match movedRow env state.logs o with
  | none => state
  | some row =>
    { state.putLog (row.close o "Session-Moved") with
      macMoves := state.macMoves ++ [⟨o.organizationId, o.userName, row.callingStationId,
        o.callingStationId, row.nasId, o.nasId⟩] }

/-- The session under the same id is closed. -/
def State.closeDuplicate (state : State) (o : Observation) : Option (Log × String) → State
  | none => state
  | some (row, cause) => state.putLog (row.close o cause)

/-- `action` of the answer. -/
inductive Action
  | insert
  | update
  | noop

/-- Answer of `ingestAccounting`. -/
structure Answer where
  action : Action
  id : Nat
  macMove : Bool
  sessionInstanceId : Option Nat

def perform (env : Env) (state : State) (o : Observation) : Plan → Answer × State
  | .ignore row => (⟨.noop, row.id, false, row.sessionInstanceId⟩, state)
  | .enrich row => (⟨.update, row.id, false, row.sessionInstanceId⟩, state.putLog (row.enrich o))
  | .openSession closing stationMove =>
    let closed := state.closeDuplicate o closing
    (⟨.insert, state.nextId, stationMove || (movedRow env closed.logs o).isSome,
        some state.nextId⟩,
      (closed.closeMoved env o).insertLog (startLog state.nextId o) o (startUsage o))
  | .correctFinal row => (⟨.update, row.id, false, some row.instanceId⟩,
      (state.putLog (row.correctFinal o)).record row o (row.usageSince o))
  | .closeOutOfOrder row => (⟨.update, row.id, false, row.sessionInstanceId⟩,
      state.putLog (row.closeOutOfOrder o))
  | .accept row => (⟨.update, row.id, false, some row.instanceId⟩,
      (state.putLog (row.accept o)).record row o (row.usageSince o))
  | .insertLate => (⟨.insert, state.nextId, false, some state.nextId⟩,
      state.insertLog (lateLog state.nextId o) o (lateUsage o))

/-- `ingestAccounting`, as one transaction. -/
def ingestAccounting (env : Env) (directory : Directory) (state : State) (now : Int)
    (attrs : Attrs) : Except Invalid (Answer × State) := do
  let o ← observe env directory now attrs
  let decision ← plan env state.logs o
  pure (perform env state o decision)

/-- A packet handed over at some time; a rejected one leaves the tables as they were. -/
def ingest (env : Env) (directory : Directory) (state : State) (packet : Int × Attrs) : State :=
  match ingestAccounting env directory state packet.1 packet.2 with
  | .ok (_, next) => next
  | .error _ => state

end FireIsp.Radius
