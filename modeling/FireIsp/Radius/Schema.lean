import FireIsp.Base.History
import FireIsp.Base.Table
import FireIsp.Base.Text

/-!
# Accounting tables

Rows of `connection_logs` and of `radius_accounting_usage_daily`, the directory of NAS devices
and subscribers an accounting packet is resolved against, and the attributes of a packet.
Times are milliseconds since 1970-01-01 UTC; `event_at` is stored in whole seconds.
-/

namespace FireIsp.Radius

inductive EventType
  | start
  | stop
  | interimUpdate
  deriving DecidableEq

/-- `USAGE_FIELDS`. -/
inductive UsageField
  | bytesIn
  | bytesOut
  | packetsIn
  | packetsOut
  | duration
  deriving DecidableEq

/-- One value for each usage field. -/
structure PerField (α : Type) where
  bytesIn : α
  bytesOut : α
  packetsIn : α
  packetsOut : α
  duration : α
  deriving DecidableEq

/-- Value of one field. -/
def PerField.get {α : Type} (x : PerField α) : UsageField → α
  | .bytesIn => x.bytesIn
  | .bytesOut => x.bytesOut
  | .packetsIn => x.packetsIn
  | .packetsOut => x.packetsOut
  | .duration => x.duration

/-- Values given field by field. -/
def PerField.of {α : Type} (f : UsageField → α) : PerField α :=
  ⟨f .bytesIn, f .bytesOut, f .packetsIn, f .packetsOut, f .duration⟩

@[simp] theorem PerField.get_of {α : Type} (f : UsageField → α) (field : UsageField) :
    (PerField.of f).get field = f field := by
  cases field <;> rfl

/-- Raw counters; a counter may be absent. -/
abbrev Counters := PerField (Option Nat)

/-- Row of `connection_logs`. -/
structure Log where
  id : Nat
  organizationId : Nat
  /-- Contract of the subscriber, 0 when unknown. -/
  contractId : Nat
  /-- Client of the subscriber, 0 when unknown. -/
  clientId : Nat
  nasId : Option Nat
  username : String
  /-- Acct-Session-Id; `NULL` on deprecated rows. -/
  acctSessionId : Option String
  sessionId : Option String
  /-- Lifecycle id; a random id is named after the row it is made for. -/
  sessionInstanceId : Option Nat
  callingStationId : Option String
  framedIp : Option String
  framedIpv6Prefix : Option String
  eventType : EventType
  eventAt : Nat
  terminateCause : Option String
  lastAccountingAt : Option Nat
  /-- Whether the counters have an unbroken baseline. -/
  usageAccountingComplete : Bool
  usageAnomalyCount : Nat
  usageLast : Counters
  deriving DecidableEq

/-- `COALESCE(last_accounting_at, event_at)`. -/
def Log.lastAt (row : Log) : Nat := row.lastAccountingAt.getD row.eventAt

/-- Why a usage row is an estimate. -/
inductive AnomalyReason
  | nonzeroStartBaseline
  | missingStartBaseline
  | counterReset
  | utcMonthBoundaryEstimate
  | utcDailyAllocationEstimate

/-- Row of `radius_accounting_usage_daily`. -/
structure UsageRow where
  organizationId : Nat
  usageDate : Nat
  sessionInstanceId : Nat
  connectionLogId : Nat
  contractId : Option Nat
  clientId : Option Nat
  nasId : Option Nat
  username : String
  deltas : PerField Nat
  isComplete : Bool
  anomalyCount : Nat
  anomalyReason : Option AnomalyReason
  firstEventAt : Nat
  lastEventAt : Nat

/-- `uq_radius_usage_org_day_instance`. -/
def UsageRow.key (row : UsageRow) : Nat × Nat × Nat :=
  (row.organizationId, row.usageDate, row.sessionInstanceId)

/-- Row of `mac_move_events`. -/
structure MacMove where
  organizationId : Nat
  username : String
  oldMac : Option String
  newMac : Option String
  oldNasId : Option Nat
  newNasId : Nat

/-- The accounting tables. -/
structure State where
  nextId : Nat
  logs : List Log
  usage : List UsageRow
  macMoves : List MacMove

/-- Row of `nas`. -/
structure Nas where
  id : Nat
  organizationId : Nat
  ipAddress : String
  /-- `status = 'active'` and `deleted_at IS NULL`. -/
  active : Bool

/-- Row of `radius`. -/
structure Account where
  organizationId : Nat
  username : String
  contractId : Nat
  clientId : Nat
  live : Bool

/-- NAS devices and RADIUS accounts. -/
structure Directory where
  nas : List Nas
  accounts : List Account

/-- `Event-Timestamp` as sent. -/
inductive EventTimestamp
  /-- Unix seconds, or milliseconds from 10^11 on. -/
  | number (value : Int)
  /-- Timezone-qualified ISO 8601 text, as milliseconds. -/
  | iso (ms : Int)
  | malformed
  deriving DecidableEq

/-- Attributes of a packet as the routes hand them over: an absent or empty attribute is `none`. -/
structure Attrs where
  acctStatusType : String
  userName : String
  acctSessionId : String
  nasIpAddress : String
  nasPortId : Option String
  calledStationId : Option String
  callingStationId : Option String
  framedIpAddress : Option String
  framedIpv6Prefix : Option String
  acctInputOctets : Option Nat
  acctOutputOctets : Option Nat
  acctInputGigawords : Option Nat
  acctOutputGigawords : Option Nat
  acctSessionTime : Option Nat
  acctTerminateCause : Option String
  acctInputOctetsV6 : Option Nat
  acctOutputOctetsV6 : Option Nat
  acctInputPackets : Option Nat
  acctOutputPackets : Option Nat
  eventTimestamp : Option EventTimestamp
  acctDelayTime : Option Nat
  organizationId : Nat
  nasId : Option Nat
  deriving DecidableEq

end FireIsp.Radius

/-!
## Usage deltas

`calculateUsageDelta` and `recordUsageDelta`: what one accepted observation adds to the usage of
its day, and how it marks rows whose amounts are estimates.
-/

namespace FireIsp.Radius

/-- `utcDate`: days since 1970-01-01. -/
def utcDate (ms : Nat) : Nat := ms / 86400000

/-- Year and month of a day, counted in the proleptic Gregorian calendar from 0000-03-01. -/
def monthOfDay (day : Nat) : Nat × Nat :=
  let z := day + 719468
  let era := z / 146097
  let doe := z % 146097
  let yoe := (doe - doe / 1460 + doe / 36524 - doe / 146096) / 365
  let doy := doe - (365 * yoe + yoe / 4 - yoe / 100)
  let mp := (5 * doy + 2) / 153
  let month := if mp < 10 then mp + 3 else mp - 9
  (yoe + era * 400 + (if month ≤ 2 then 1 else 0), month)

def utcMonth (ms : Nat) : Nat × Nat := monthOfDay (utcDate ms)

example : monthOfDay 0 = (1970, 1) := by decide
example : monthOfDay 20482 = (2026, 1) := by decide
example : monthOfDay 19782 = (2024, 2) ∧ monthOfDay 19783 = (2024, 3) := by decide

/-- Delta of one counter; `next < prior` is a counter reset. -/
def fieldDelta (initializeBaseline : Bool) (prior next : Option Nat) : Nat :=
  if initializeBaseline then 0
  else
    match next, prior with
    | none, _ => 0
    | some _, none => 0
    | some next, some prior => if next < prior then 0 else next - prior

/-- A counter that was reset, or an octet counter that appears after the baseline. -/
def fieldReset (initializeBaseline : Bool) (field : UsageField) (prior next : Option Nat) : Bool :=
  !initializeBaseline &&
    match next, prior with
    | none, _ => false
    | some _, none => field == .bytesIn || field == .bytesOut
    | some next, some prior => decide (next < prior)

/-- `USAGE_FIELDS` as a list. -/
def usageFields : List UsageField := [.bytesIn, .bytesOut, .packetsIn, .packetsOut, .duration]

theorem mem_usageFields (field : UsageField) : field ∈ usageFields := by
  cases field <;> decide

instance decidableForallField {P : UsageField → Prop} [∀ field, Decidable (P field)] : Decidable (∀ field, P field) :=
  decidable_of_iff (∀ field ∈ usageFields, P field)
    ⟨fun h field => h field (mem_usageFields field), fun h field _ => h field⟩

/-- Result of `calculateUsageDelta`. -/
structure Usage where
  deltas : PerField Nat
  nextSessionComplete : Bool
  rowComplete : Bool
  anomalyReason : Option AnomalyReason
  anomalyCount : Nat
  sessionAnomalyCount : Nat
  crossesUtcMonthBoundary : Bool
  previousEventAt : Option Nat

def counterReset (initializeBaseline : Bool) (previous current : Counters) : Bool :=
  usageFields.any fun field =>
    fieldReset initializeBaseline field (previous.get field) (current.get field)

/-- The interval since the previous event ends in another period. -/
def crosses {α : Type} [DecidableEq α] (period : Nat → α) (previousEventAt : Option Nat)
    (eventAt : Nat) : Bool :=
  previousEventAt.any fun previous => period previous ≠ period eventAt

def calculateUsageDelta (previous current : Counters) (previousEventAt : Option Nat)
    (eventAt : Nat) (priorComplete : Bool) (baselineReason : Option AnomalyReason)
    (initializeBaseline : Bool) : Usage :=
  let reset := counterReset initializeBaseline previous current
  let crossesDay := crosses utcDate previousEventAt eventAt
  let crossesMonth := crosses utcMonth previousEventAt eventAt
  let nextSessionComplete := priorComplete && baselineReason.isNone && !reset
  let anomalyReason :=
    match baselineReason with
    | some reason => some reason
    | none =>
      if reset then some .counterReset
      else if crossesMonth then some .utcMonthBoundaryEstimate
      else if crossesDay then some .utcDailyAllocationEstimate
      else none
  { deltas := .of fun field => fieldDelta initializeBaseline (previous.get field) (current.get field)
    nextSessionComplete := nextSessionComplete
    rowComplete := nextSessionComplete && !crossesMonth
    anomalyReason := anomalyReason
    anomalyCount := if anomalyReason.isSome then 1 else 0
    sessionAnomalyCount := if baselineReason.isSome || reset then 1 else 0
    crossesUtcMonthBoundary := crossesMonth
    previousEventAt := previousEventAt }

/-- Session an observation is recorded for. -/
structure Subject where
  organizationId : Nat
  sessionInstanceId : Nat
  connectionLogId : Nat
  contractId : Nat
  clientId : Nat
  nasId : Option Nat
  username : String

/-- `value || null` of an id. -/
def idOrNull (id : Nat) : Option Nat := if id = 0 then none else some id

/-- Row the upsert inserts. -/
def usageRow (subject : Subject) (usageDate : Nat) (deltas : PerField Nat) (complete : Bool)
    (reason : Option AnomalyReason) (anomaly eventAt : Nat) : UsageRow where
  organizationId := subject.organizationId
  usageDate := usageDate
  sessionInstanceId := subject.sessionInstanceId
  connectionLogId := subject.connectionLogId
  contractId := idOrNull subject.contractId
  clientId := idOrNull subject.clientId
  nasId := subject.nasId.bind idOrNull
  username := subject.username
  deltas := deltas
  isComplete := complete
  anomalyCount := anomaly
  anomalyReason := reason
  firstEventAt := eventAt
  lastEventAt := eventAt

/-- `ON DUPLICATE KEY UPDATE`: the values of `new` merged into the stored row. -/
def UsageRow.merge (old new : UsageRow) : UsageRow :=
  { old with
    connectionLogId := new.connectionLogId
    contractId := new.contractId.or old.contractId
    clientId := new.clientId.or old.clientId
    nasId := new.nasId.or old.nasId
    deltas := .of fun field => old.deltas.get field + new.deltas.get field
    isComplete := old.isComplete && new.isComplete
    anomalyCount := old.anomalyCount + new.anomalyCount
    anomalyReason := new.anomalyReason.or old.anomalyReason
    firstEventAt := min old.firstEventAt new.firstEventAt
    lastEventAt := max old.lastEventAt new.lastEventAt }

/-- `INSERT ... ON DUPLICATE KEY UPDATE` on the unique key. -/
def upsertUsage (rows : List UsageRow) (new : UsageRow) : List UsageRow :=
  match rows.find? fun row => row.key == new.key with
  | none => rows ++ [new]
  | some old => Table.put UsageRow.key (old.merge new) rows

/-- The observation adds nothing and notes nothing. -/
def Usage.idle (usage : Usage) : Bool :=
  (usageFields.all fun field => usage.deltas.get field == 0) && usage.anomalyReason.isNone

/-- Rows `recordUsageDelta` upserts, in order: the flag of the earlier month, then the day. -/
def usageUpserts (subject : Subject) (eventAt : Nat) (usage : Usage) : List UsageRow :=
  if usage.idle then []
  else
    (match usage.crossesUtcMonthBoundary, usage.previousEventAt with
      | true, some previous =>
        [usageRow subject (utcDate previous) (.of fun _ => 0) false
          (some .utcMonthBoundaryEstimate) 1 previous]
      | _, _ => []) ++
      [usageRow subject (utcDate eventAt) usage.deltas usage.rowComplete usage.anomalyReason
        usage.anomalyCount eventAt]

def recordUsageDelta (rows : List UsageRow) (subject : Subject) (eventAt : Nat) (usage : Usage) :
    List UsageRow :=
  (usageUpserts subject eventAt usage).foldl upsertUsage rows

end FireIsp.Radius
