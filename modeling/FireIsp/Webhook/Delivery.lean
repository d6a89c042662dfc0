import FireIsp.Base.Discipline
import FireIsp.Webhook.Statements

/-!
# Delivering webhooks

`webhookService`: the worker `deliverDurableWebhook`, the sweep `processCurrentDatabaseRetries` and
the manual `redeliverDeadLetter`, statement by statement.
-/

namespace FireIsp.Webhook

open Txn

/-- Reply of the endpoint. -/
inductive Reply
  | answered (statusCode responseTimeMs : Nat)
  /-- No response; the destination may have been found unsafe. -/
  | failed (unsafeUrl : Bool) (responseTimeMs : Nat)

/-- Questions to the world outside the tables. -/
inductive Query
  /-- Does a statement whose failure is ignored succeed? -/
  | succeeds
  | reply
  | nextRetryAt (attempt : Nat)
  /-- Is the row among the first hundred due ones? -/
  | amongFirst
  | queued
  | safeUrl (url : String)

/-- Replies from outside. -/
@[reducible] def Query.Answer : Query → Type
  | .succeeds => Bool
  | .reply => Reply
  | .nextRetryAt _ => Nat
  | .amongFirst => Bool
  | .queued => Bool
  | .safeUrl _ => Bool

/-- Programs of the service. -/
abbrev Program := Prog Stmt Stmt.Res Query Query.Answer

/-- What the service answers. -/
inductive Result
  | webhookDisabled
  | notDue
  /-- The organization is not active, or of another epoch. -/
  | organizationInactive
  | superseded
  | settled (status : Status) (attemptNumber : Nat) (nextRetryAt : Option Nat)
  /-- The sweep: jobs queued and not queued, rows given up, rows due. -/
  | swept (queued failed deadLettered total : Nat)
  | notFound
  | lifecycleChanged
  | reservedEvent
  | destinationChanged
  | unsafeDestination
  | pending

def isReservedTrapEvent (event : String) : Bool :=
  decide (Text.trim event ∈ ["device.trap", "snmp.trap"])

/-- A statement whose failure is ignored: `.catch(() => {})`. -/
def quietly (op : Stmt) (result : Result) : Program Result := do
  let succeeds ← Prog.ask .succeeds
  if succeeds then
    let _ ← Prog.send .pool op
    pure result
  else pure result

def setDurableWebhookOutcome (token : Nat) (row : Delivery) (outcome : Outcome) :
    Program Result := do
  let updated ← Prog.send .pool (Stmt.settle token outcome)
  if updated then pure (.settled outcome.status row.attemptNumber outcome.nextRetry)
  else pure .superseded

def settleFailure (token : Nat) (row : Delivery) (webhook : Registration)
    (httpStatus : Option Nat) (responseTimeMs : Nat) (terminalFailure : Bool) : Program Result :=
  if terminalFailure ∨ webhook.maxAttempts ≤ row.attemptNumber then
    setDurableWebhookOutcome token row ⟨.deadLetter, httpStatus, some responseTimeMs, none⟩
  else do
    let nextRetry ← Prog.ask (.nextRetryAt row.attemptNumber)
    setDurableWebhookOutcome token row
      ⟨.retrying, httpStatus, some responseTimeMs, some nextRetry⟩

/-- The outcome of a reply. -/
def settleReply (token : Nat) (row : Delivery) (webhook : Registration) :
    Reply → Program Result
  | .answered statusCode responseTimeMs =>
    if 200 ≤ statusCode ∧ statusCode < 300 then
      setDurableWebhookOutcome token row
        ⟨.success, some statusCode, some responseTimeMs, none⟩
    else
      settleFailure token row webhook (some statusCode) responseTimeMs
        (decide (statusCode < 500 ∧ statusCode ∉ [408, 425, 429]))
  | .failed unsafeUrl responseTimeMs =>
    settleFailure token row webhook none responseTimeMs unsafeUrl

/-- The HTTP attempt of a claimed row. -/
def attemptDelivery (token : Nat) (row : Delivery) (webhook : Registration) : Program Result :=
  if isReservedTrapEvent row.eventName then
    setDurableWebhookOutcome token row ⟨.deadLetter, none, none, none⟩
  else do
    let _ ← Prog.send .pool (Stmt.post token)
    let reply ← Prog.ask .reply
    settleReply token row webhook reply

/-- The last check of a claimed row, before any request is made. -/
def checkOwner (token : Nat) (row : Delivery) (webhook : Registration) : Program Result := do
  let owner ← Prog.send .pool Stmt.organizationState
  if owner.1 = false ∨ row.organizationEpoch ≠ owner.2 then
    let _ ← setDurableWebhookOutcome token row ⟨.deadLetter, none, none, none⟩
    pure .organizationInactive
  else attemptDelivery token row webhook

/-- `claimDurableWebhookDelivery` from the claim on, and what follows it. -/
def claimAndAttempt (organizationId epoch : Nat) : Option Nat → Program Result
  | none => quietly (.buryOtherEpoch organizationId epoch) .notDue
  | some token => do
      let claimed ← Prog.send .pool (Stmt.selectClaimed organizationId token)
      match claimed with
      | none => pure .notDue
      | some (row, webhook) => checkOwner token row webhook

def deliverDurableWebhook (webhooks : Bool) (organizationId : Nat) : Program Result :=
  if webhooks = false then pure .webhookDisabled
  else do
    let owner ← Prog.send .pool Stmt.organizationState
    if owner.1 = false then quietly (.buryInactive organizationId) .organizationInactive
    else
      let claim ← Prog.send .pool (Stmt.claim organizationId owner.2)
      claimAndAttempt organizationId owner.2 claim

/-- The part of the sweep after the row was found due. -/
def requeue (row : Delivery) (organizationId : Nat) : Program Result := do
  let owner ← Prog.send .pool Stmt.organizationState
  if owner.1 = true ∧ row.organizationEpoch = owner.2 then
    let queued ← Prog.ask .queued
    pure (.swept (if queued then 1 else 0) (if queued then 0 else 1) 0 1)
  else quietly (.buryInactive organizationId) (.swept 0 0 1 1)

/-- Rows due are looked at when they are among the first hundred. -/
def requeueDue (organizationId : Nat) : Option Delivery → Program Result
  | none => pure (.swept 0 0 0 0)
  | some row => do
      let amongFirst ← Prog.ask .amongFirst
      if amongFirst then requeue row organizationId else pure (.swept 0 0 0 0)

/-- `processCurrentDatabaseRetries`; `owner` is the organization of the row. -/
def processCurrentDatabaseRetries (owner : Nat) (organizationId : Option Nat)
    (excluded : List Nat) : Program Result := do
  let _ ← Prog.send .pool (Stmt.sweepRevoked organizationId excluded)
  let _ ← Prog.send .pool (Stmt.sweepExhausted organizationId excluded)
  let _ ← Prog.send .pool (Stmt.sweepRedirected organizationId excluded)
  let due ← Prog.send .pool (Stmt.selectDue organizationId excluded)
  requeueDue owner due

/-- The reset of a dead letter whose destination is safe. -/
def resetDeadLetter : Program Result := do
  let reset ← Prog.send .pool Stmt.reset
  if reset then
    let _ ← Prog.ask .queued
    pure .pending
  else pure .notFound

/-- The dead letter that was found is redelivered. -/
def redeliverFound (row : Delivery) (webhook : Registration) (epoch : Nat) : Program Result :=
  if row.organizationEpoch ≠ epoch then pure .lifecycleChanged
  else if isReservedTrapEvent row.eventName then quietly .buryReserved .reservedEvent
  else if row.targetUrl ≠ some webhook.url ∨ row.targetUrl = some "" then
    quietly .buryRedelivery .destinationChanged
  else do
    let safeUrl ← Prog.ask (.safeUrl webhook.url)
    if safeUrl then resetDeadLetter else quietly .buryRedelivery .unsafeDestination

/-- The dead letter is looked up and redelivered. -/
def redeliver (organizationId epoch : Nat) : Program Result := do
  let found ← Prog.send .pool (Stmt.selectDeadLetter organizationId)
  match found with
  | none => pure .notFound
  | some (row, webhook) => redeliverFound row webhook epoch

def redeliverDeadLetter (webhooks : Bool) (organizationId : Nat) : Program Result :=
  if webhooks = false then pure .webhookDisabled
  else do
    let owner ← Prog.send .pool Stmt.organizationState
    if owner.1 = false then pure .organizationInactive
    else redeliver organizationId owner.2

inductive Call
  | deliver (webhooks : Bool) (organizationId : Nat)
  | sweep (owner : Nat) (organizationId : Option Nat) (excluded : List Nat)
  | redeliver (webhooks : Bool) (organizationId : Nat)

def Call.run : Call → Program Result
  | .deliver webhooks organizationId => deliverDurableWebhook webhooks organizationId
  | .sweep owner organizationId excluded =>
    processCurrentDatabaseRetries owner organizationId excluded
  | .redeliver webhooks organizationId => redeliverDeadLetter webhooks organizationId

/-- Workers, sweeps and redeliveries on one delivery. -/
abbrev System := Sys Db Write Empty Stmt Stmt.Res Query Query.Answer Result

end FireIsp.Webhook

/-!
## What a worker may do

A worker claims once, makes at most one request under its claim, and writes one outcome, by the
token of the claim; it waits for a retry only with attempts left. Sweeps and redeliveries claim
nothing and write no outcome.
-/

namespace FireIsp.Webhook

open Txn

/-- What a session knows between two statements. -/
inductive Know
  | idle
  /-- A worker whose organization is not active. -/
  | inactive
  /-- A worker that has read the epoch of its active organization. -/
  | seen (epoch : Nat)
  | missed (epoch : Nat)
  | claimed (token : Nat)
  /-- A worker that has read the row it claimed, and may have made its request. -/
  | read (token attempt maxAttempts : Nat) (posted : Bool)
  /-- A worker that has nothing to write any more. -/
  | finished
  | other

/-- An outcome a worker writes: a retry needs an attempt left. -/
def allowed (attempt maxAttempts : Nat) (outcome : Outcome) : Bool :=
  decide (outcome.status = .success ∨ outcome.status = .deadLetter ∨
    outcome.status = .retrying ∧ attempt < maxAttempts)

/-- The statement claims nothing, writes no outcome and makes no request. -/
def Stmt.harmless : Stmt → Bool
  | .claim .. => false
  | .settle .. => false
  | .post _ => false
  | _ => true

/-- Statements a session may send, and what it knows from the reply. -/
def sent : Know → (op : Stmt) → Option (op.Res → Know)
  | .idle, .organizationState =>
    some fun owner => if owner.1 then .seen owner.2 else .inactive
  | .inactive, .buryInactive _ => some fun _ => .finished
  | .seen epoch, .claim _ epoch' =>
    if epoch' = epoch then
      some fun claim => match claim with
        | some token => .claimed token
        | none => .missed epoch
    else none
  | .missed epoch, .buryOtherEpoch _ epoch' =>
    if epoch' = epoch then some fun _ => .finished else none
  | .claimed token, .selectClaimed _ token' =>
    if token' = token then
      some fun found => match found with
        | some (row, webhook) => .read token row.attemptNumber webhook.maxAttempts false
        | none => .finished
    else none
  | .read token attempt maxAttempts posted, .organizationState =>
    some fun _ => .read token attempt maxAttempts posted
  | .read token attempt maxAttempts _, .settle token' outcome =>
    if token' = token ∧ allowed attempt maxAttempts outcome = true then some fun _ => .finished
    else none
  | .read token attempt maxAttempts false, .post token' =>
    if token' = token then some fun _ => .read token attempt maxAttempts true else none
  | .other, op => if op.harmless then some fun _ => .other else none
  | _, _ => none

/-- No session opens a transaction, and anything may be asked. -/
def discipline : Discipline Know Stmt Stmt.Res Query Query.Answer where
  started := fun _ => none
  committed := fun _ => none
  rolledBack := fun _ => none
  sent := fun know _ op => sent know op
  asked := fun know _ => some fun _ => know

abbrev Keeps (know : Know) (p : Program Result) : Prop := p.Follows discipline know fun _ _ => True

theorem keeps_quietly {know : Know} {op : Stmt} {learn : op.Res → Know}
    (h : sent know op = some learn) (result : Result) : Keeps know (quietly op result) := by
  refine ⟨fun _ => know, rfl, fun succeeds => ?_⟩
  cases succeeds with
  | true => exact ⟨learn, h, fun _ => trivial⟩
  | false => trivial

theorem keeps_settle {token attempt maxAttempts : Nat} {posted : Bool} {outcome : Outcome}
    (h : allowed attempt maxAttempts outcome = true) (row : Delivery) :
    Keeps (.read token attempt maxAttempts posted)
      (setDurableWebhookOutcome token row outcome) := by
  refine ⟨fun _ => .finished, ?_, fun updated => ?_⟩
  · cases posted <;> exact if_pos ⟨rfl, h⟩
  · cases updated <;> trivial

theorem keeps_settleFailure {token : Nat} {row : Delivery} {webhook : Registration}
    {posted : Bool} (httpStatus : Option Nat) (responseTimeMs : Nat) (terminalFailure : Bool) :
    Keeps (.read token row.attemptNumber webhook.maxAttempts posted)
      (settleFailure token row webhook httpStatus responseTimeMs terminalFailure) := by
  unfold settleFailure
  split_ifs with hterminal
  · exact keeps_settle rfl row
  · refine ⟨fun _ => _, rfl, fun nextRetry => keeps_settle ?_ row⟩
    have hleft : row.attemptNumber < webhook.maxAttempts := by
      by_contra hnot
      exact hterminal (Or.inr (Nat.le_of_not_lt hnot))
    simp [allowed, hleft]

theorem keeps_attemptDelivery (token : Nat) (row : Delivery) (webhook : Registration) :
    Keeps (.read token row.attemptNumber webhook.maxAttempts false)
      (attemptDelivery token row webhook) := by
  unfold attemptDelivery
  split_ifs with hreserved
  · exact keeps_settle rfl row
  · refine ⟨fun _ => .read token row.attemptNumber webhook.maxAttempts true, if_pos rfl,
      fun _ => ⟨fun _ => _, rfl, fun reply => ?_⟩⟩
    change Keeps _ (settleReply token row webhook reply)
    cases reply with
    | failed unsafeUrl responseTimeMs => exact keeps_settleFailure none responseTimeMs unsafeUrl
    | answered statusCode responseTimeMs =>
      simp only [settleReply]
      split_ifs with hsuccess
      · exact keeps_settle rfl row
      · exact keeps_settleFailure (some statusCode) responseTimeMs _

theorem keeps_checkOwner (token : Nat) (row : Delivery) (webhook : Registration) :
    Keeps (.read token row.attemptNumber webhook.maxAttempts false)
      (checkOwner token row webhook) := by
  refine ⟨fun _ => .read token row.attemptNumber webhook.maxAttempts false, rfl, fun owner => ?_⟩
  change Keeps _ (if owner.1 = false ∨ row.organizationEpoch ≠ owner.2 then
    (do
      let _ ← setDurableWebhookOutcome token row ⟨.deadLetter, none, none, none⟩
      pure .organizationInactive)
    else attemptDelivery token row webhook)
  split_ifs with howner
  · exact (keeps_settle rfl row).bind fun _ _ _ => trivial
  · exact keeps_attemptDelivery token row webhook

theorem keeps_deliver (webhooks : Bool) (organizationId : Nat) :
    Keeps .idle (deliverDurableWebhook webhooks organizationId) := by
  unfold deliverDurableWebhook
  split_ifs with hwebhooks
  · trivial
  · refine ⟨_, rfl, fun owner => ?_⟩
    obtain ⟨active, epoch⟩ := owner
    cases active with
    | false => exact keeps_quietly rfl .organizationInactive
    | true =>
      refine ⟨_, if_pos rfl, fun claim => ?_⟩
      cases claim with
      | none =>
        have h : sent (.missed epoch) (.buryOtherEpoch organizationId epoch) =
            some fun _ => .finished := if_pos rfl
        exact keeps_quietly h .notDue
      | some token =>
        refine ⟨_, if_pos rfl, fun found => ?_⟩
        cases found with
        | none => trivial
        | some found => exact keeps_checkOwner token found.1 found.2

theorem keeps_sweep (owner : Nat) (organizationId : Option Nat) (excluded : List Nat) :
    Keeps .other (processCurrentDatabaseRetries owner organizationId excluded) := by
  refine ⟨_, rfl, fun _ => ⟨_, rfl, fun _ => ⟨_, rfl, fun _ => ⟨_, rfl, fun due => ?_⟩⟩⟩⟩
  change Keeps .other (requeueDue owner due)
  cases due with
  | none => trivial
  | some row =>
    refine ⟨_, rfl, fun amongFirst => ?_⟩
    cases amongFirst with
    | false => trivial
    | true =>
      refine ⟨_, rfl, fun state => ?_⟩
      change Keeps .other (if state.1 = true ∧ row.organizationEpoch = state.2 then _ else _)
      split_ifs with hstate
      · exact ⟨_, rfl, fun _ => trivial⟩
      · exact keeps_quietly rfl _

theorem keeps_redeliver (webhooks : Bool) (organizationId : Nat) :
    Keeps .other (redeliverDeadLetter webhooks organizationId) := by
  unfold redeliverDeadLetter
  split_ifs with hwebhooks
  · trivial
  · refine ⟨_, rfl, fun owner => ?_⟩
    obtain ⟨active, epoch⟩ := owner
    cases active with
    | false => trivial
    | true =>
      refine ⟨_, rfl, fun found => ?_⟩
      cases found with
      | none => trivial
      | some found =>
        change Keeps .other (redeliverFound found.1 found.2 epoch)
        unfold redeliverFound
        split_ifs with hepoch hreserved htarget
        · trivial
        · exact keeps_quietly rfl _
        · exact keeps_quietly rfl _
        · refine ⟨_, rfl, fun safeUrl => ?_⟩
          cases safeUrl with
          | false => exact keeps_quietly rfl _
          | true =>
            refine ⟨_, rfl, fun reset => ?_⟩
            cases reset with
            | false => trivial
            | true => exact ⟨_, rfl, fun _ => trivial⟩

def Call.isWorker : Call → Bool
  | .deliver .. => true
  | _ => false

def Call.know (call : Call) : Know := if call.isWorker then .idle else .other

theorem keeps_run (call : Call) : Keeps call.know call.run := by
  cases call with
  | deliver webhooks organizationId => exact keeps_deliver webhooks organizationId
  | sweep owner organizationId excluded => exact keeps_sweep owner organizationId excluded
  | redeliver webhooks organizationId => exact keeps_redeliver webhooks organizationId

end FireIsp.Webhook
