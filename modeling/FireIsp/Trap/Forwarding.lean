import FireIsp.Trap.Statements

/-!
# Forwarding traps

`trapForwardingService`: the worker `attemptDelivery` and the sweep `processRetries`, statement by
statement.  A query that raises where nothing catches it ends its call, like a crash; what is looked
up in other tables is a question to the world outside.
-/

namespace FireIsp.Trap

open Txn

/-- Reply of the destination. -/
inductive Reply
  | answered (statusCode responseTimeMs : Nat)
  | accepted
  | failed (retryable : Bool)

/-- `checkSchemaReadiness`. -/
inductive Readiness
  | ready
  /-- A stable policy: sources cannot be attributed. -/
  | unsupported
  | unavailable

/-- What a transaction on other tables finds. -/
inductive Finding
  /-- The source is bound to the queued device, or the test may be sent. -/
  | bound
  | unbound
  | raised

/-- Questions to the world outside the tables. -/
inductive Query
  | readiness
  /-- Does a query raise whose error is caught? -/
  | raises
  | testable (organizationId : Nat)
  | lockSharedDeviceByIp (sourceIp : String) (deviceId organizationId : Nat)
  /-- Is the request prepared without an error? -/
  | prepares
  | reply
  | nextAttemptAt (attempt : Nat)
  /-- Is the row among the first hundred due ones, and was its job queued? -/
  | queued

/-- Replies from outside. -/
@[reducible] def Query.Answer : Query → Type
  | .readiness => Readiness
  | .raises => Bool
  | .testable _ => Finding
  | .lockSharedDeviceByIp .. => Finding
  | .prepares => Bool
  | .reply => Reply
  | .nextAttemptAt _ => Nat
  | .queued => Option Bool

/-- Programs of the service. -/
abbrev Program := Prog Stmt Stmt.Res Query Query.Answer

/-- Why a call cancels the row. -/
inductive Reason
  | featureDisabled
  | attributionUnsupported
  | destinationChanged

/-- What the service answers. -/
inductive Result
  | notDue
  | cancelled (reason : Reason)
  | deferred
  | superseded
  | deadLetter (attemptNumber : Nat)
  | settled (status : Verdict) (attemptNumber : Nat) (nextAttemptAt : Option Nat)
  /-- The sweep: jobs queued and not queued, rows due, rows cancelled. -/
  | swept (queued failed total cancelled : Nat)
  | affected (rows : Nat)
  /-- A rule, a webhook or an organization was changed. -/
  | changed

def defaultMaxAttempts : Nat := 4

/-- `String(value || '')`. -/
def text (value : Option String) : String := value.getD ""

/-- The rule forwards to the destination of the delivery, and to no other. -/
def Rule.targets (rule : Rule) (webhook : Option Webhook) : Target → Bool
  | .url url =>
    decide (text rule.forwardToUrl = url ∧ text rule.forwardToEmail = "" ∧
      rule.forwardToWebhookId.getD 0 = 0)
  | .email email =>
    decide (text rule.forwardToEmail = email ∧ text rule.forwardToUrl = "" ∧
      rule.forwardToWebhookId.getD 0 = 0)
  | .webhook webhookId url =>
    decide (rule.forwardToWebhookId.getD 0 = webhookId ∧ text rule.forwardToUrl = "" ∧
      text rule.forwardToEmail = "") &&
      webhook.any fun webhook => decide (webhook.id = webhookId ∧ webhook.url = url ∧
        webhook.isActive = true ∧ webhook.deleted = false)

def snapshotMatchesCurrentRule (row : Delivery) (joined : Joined) : Bool :=
  match joined.rule, joined.organization with
  | some rule, some organization =>
    rule.reviewed && organization.active && !organization.deleted &&
      decide (row.organizationEpoch = organization.epoch) && (row.isTest || rule.isActive) &&
        !rule.deleted && rule.targets joined.webhook row.target
  | _, _ => false

def setDeliveryOutcome (token : Token) (row : Delivery) (outcome : Outcome) :
    Program Result := do
  let updated ← Prog.send .pool (Stmt.settle token outcome)
  if updated then pure (.settled outcome.verdict row.attemptNumber outcome.nextAttemptAt)
  else pure .superseded

def settleCancelled (token : Token) (row : Delivery) : Program Result :=
  setDeliveryOutcome token row ⟨.cancelled, none, none, none⟩

/-- The row waits for another attempt. -/
def settleRetrying (token : Token) (row : Delivery) (httpStatus responseTimeMs : Option Nat) :
    Program Result := do
  let nextAttemptAt ← Prog.ask (.nextAttemptAt row.attemptNumber)
  setDeliveryOutcome token row ⟨.retrying, httpStatus, responseTimeMs, some nextAttemptAt⟩

/-- `row.max_attempts || DEFAULT_MAX_ATTEMPTS` attempts are claimed. -/
def Delivery.exhausted (row : Delivery) : Bool :=
  decide ((if row.maxAttempts = 0 then defaultMaxAttempts else row.maxAttempts) ≤ row.attemptNumber)

/-- The attempt failed. -/
def settleFailure (token : Token) (row : Delivery) (retryable : Bool)
    (httpStatus responseTimeMs : Option Nat) : Program Result :=
  if retryable = false ∨ row.exhausted = true then
    setDeliveryOutcome token row ⟨.deadLetter, httpStatus, responseTimeMs, none⟩
  else settleRetrying token row httpStatus responseTimeMs

def isRetryableHttp (statusCode : Nat) : Bool :=
  decide (statusCode = 408 ∨ statusCode = 425 ∨ statusCode = 429 ∨ 500 ≤ statusCode)

/-- The outcome of a reply. -/
def settleReply (token : Token) (row : Delivery) : Reply → Program Result
  | .answered statusCode responseTimeMs =>
    if 200 ≤ statusCode ∧ statusCode < 300 then
      setDeliveryOutcome token row ⟨.success, some statusCode, some responseTimeMs, none⟩
    else
      settleFailure token row (isRetryableHttp statusCode) (some statusCode)
        (some responseTimeMs)
  | .accepted => setDeliveryOutcome token row ⟨.success, none, none, none⟩
  | .failed retryable => settleFailure token row retryable none none

/-- The external send, once the request is prepared. -/
def sendOut (token : Token) (row : Delivery) : Program Result := do
  let prepares ← Prog.ask .prepares
  if prepares then
    let _ ← Prog.send .pool (Stmt.send token.uuid)
    let reply ← Prog.ask .reply
    settleReply token row reply
  else settleFailure token row true none none

def sendToWebhook (token : Token) (row : Delivery) (url : String) :
    Option String → Program Result
  | none => settleCancelled token row
  | some current => if current ≠ url then settleCancelled token row else sendOut token row

def sendToTarget (webhooks : Bool) (token : Token) (row : Delivery) : Program Result :=
  match row.target with
  | .webhook webhookId url =>
    if webhooks = false then settleCancelled token row
    else do
      let raises ← Prog.ask .raises
      if raises then settleFailure token row true none none
      else
        let current ← Prog.send .pool (Stmt.activeWebhook webhookId)
        sendToWebhook token row url current
  | _ => sendOut token row

/-- What a transaction on other tables found lets the send go on. -/
def sendIf (webhooks : Bool) (token : Token) (row : Delivery) : Finding → Program Result
  | .bound => sendToTarget webhooks token row
  | .unbound => settleCancelled token row
  | .raised => settleRetrying token row none none

/-- The last check before the send: the source of a trap, or the organization of a test. -/
def checkSource (webhooks : Bool) (token : Token) (row : Delivery) : Program Result :=
  if row.isTest then do
    let found ← Prog.ask (.testable row.organizationId)
    sendIf webhooks token row found
  else
    match row.source with
    | none => settleCancelled token row
    | some (deviceId, sourceIp) => do
        let found ← Prog.ask (.lockSharedDeviceByIp sourceIp deviceId row.organizationId)
        sendIf webhooks token row found

/-- The organization of the row is active and of its epoch. -/
def checkOrganization (webhooks : Bool) (token : Token) (row : Delivery) :
    Option (Bool × Nat) → Program Result
  | none => settleCancelled token row
  | some state =>
    if state.1 = false ∨ row.organizationEpoch ≠ state.2 then settleCancelled token row
    else checkSource webhooks token row

/-- `attemptDelivery` once the row is read that it has claimed and may send. -/
def deliverClaimed (webhooks : Bool) (token : Token) (row : Delivery) (joined : Joined) :
    Program Result :=
  if snapshotMatchesCurrentRule row joined = false then settleCancelled token row
  else do
    let raises ← Prog.ask .raises
    if raises then settleFailure token row true none none
    else
      let state ← Prog.send .pool Stmt.organizationState
      checkOrganization webhooks token row state

/-- The row may be sent: its claim is no burial. -/
def mayDeliver (mark : Mark) (row : Delivery) : Bool :=
  decide (mark ≠ .X ∧ row.status ≠ .deadLetter)

/-- `attemptDelivery` once the row is read that it has claimed. -/
def deliverSelected (webhooks : Bool) (uuid : Nat) :
    Option (Mark × Delivery × Joined) → Program Result
  | none => pure .superseded
  | some (mark, row, joined) =>
    if mayDeliver mark row then deliverClaimed webhooks ⟨mark, uuid⟩ row joined
    else pure (.deadLetter row.attemptNumber)

/-- `attemptDelivery` after the claim. -/
def deliverGranted (webhooks : Bool) (organizationId : Option Nat) :
    Option Nat → Program Result
  | none => pure .notDue
  | some uuid => do
      let selected ← Prog.send .pool (Stmt.selectClaimed organizationId uuid)
      deliverSelected webhooks uuid selected

/-- `attemptDelivery` once the row is read that it is to claim. -/
def claimFound (webhooks : Bool) (organizationId : Option Nat) :
    Option (Delivery × Joined) → Program Result
  | none => pure .notDue
  | some (row, joined) =>
    if snapshotMatchesCurrentRule row joined = false then do
      let affected ← Prog.send .pool (Stmt.cancelOpen (some row.organizationId))
      pure (if affected then .cancelled .destinationChanged else .notDue)
    else do
      let granted ← Prog.send .pool (Stmt.claim organizationId)
      deliverGranted webhooks organizationId granted

def cancelOpen (organizationId : Option Nat) (reason : Reason) : Program Result := do
  let _ ← Prog.send .pool (Stmt.cancelOpen organizationId)
  pure (.cancelled reason)

/-- `attemptDelivery`, as far as forwarding is ready. -/
def attemptIfReady (webhooks : Bool) (organizationId : Option Nat) : Readiness → Program Result
  | .unavailable => pure .deferred
  | .unsupported => cancelOpen organizationId .attributionUnsupported
  | .ready => do
      let found ← Prog.send .pool (Stmt.preflight organizationId)
      claimFound webhooks organizationId found

/-- `attemptDelivery`; `snmp` and `webhooks` are the features that are on. -/
def attemptDelivery (snmp webhooks : Bool) (organizationId : Option Nat) : Program Result :=
  if snmp = false then cancelOpen organizationId .featureDisabled
  else do
    let readiness ← Prog.ask .readiness
    attemptIfReady webhooks organizationId readiness

/-- Counts of a sweep that has found the row due. -/
def requeued : Option Bool → Result
  | none => .swept 0 0 0 0
  | some true => .swept 1 0 1 0
  | some false => .swept 0 1 1 0

def processCurrentDatabaseRetries (organizationId : Option Nat) : Program Result := do
  let _ ← Prog.send .pool (Stmt.sweepRevoked organizationId)
  let _ ← Prog.send .pool (Stmt.sweepOrganization organizationId)
  let due ← Prog.send .pool (Stmt.selectDue organizationId)
  if due then
    let queued ← Prog.ask .queued
    pure (requeued queued)
  else pure (.swept 0 0 0 0)

def cancelUnavailableDeliveries (organizationId : Option Nat) : Program Result := do
  let affected ← Prog.send .pool (Stmt.cancelUnavailable organizationId)
  pure (.swept 0 0 0 (if affected then 1 else 0))

/-- `processRetries`, as far as forwarding is ready. -/
def retryIfReady (organizationId : Option Nat) : Readiness → Program Result
  | .unavailable => pure (.swept 0 0 0 0)
  | .unsupported => cancelUnavailableDeliveries organizationId
  | .ready => processCurrentDatabaseRetries organizationId

def processRetries (snmp : Bool) (organizationId : Option Nat) : Program Result :=
  if snmp = false then cancelUnavailableDeliveries organizationId
  else do
    let readiness ← Prog.ask .readiness
    retryIfReady organizationId readiness

def cancelUnclaimedDeliveriesForRule (ruleId organizationId : Nat) : Program Result := do
  let affected ← Prog.send .pool (Stmt.cancelRule ruleId organizationId)
  pure (.affected (if affected then 1 else 0))

/-- One statement that changes what the delivery is checked against. -/
def change (op : Stmt) : Program Result := do
  let _ ← Prog.send .pool op
  pure .changed

/-- Calls that read or write the delivery. -/
inductive Call
  | attempt (snmp webhooks : Bool) (organizationId : Option Nat)
  | retries (snmp : Bool) (organizationId : Option Nat)
  | cancelRule (ruleId organizationId : Nat)
  | changeRule (rule : Rule)
  | changeWebhook (webhook : Webhook)
  | changeOrganization (active deleted : Bool)

def Call.run : Call → Program Result
  | .attempt snmp webhooks organizationId => attemptDelivery snmp webhooks organizationId
  | .retries snmp organizationId => processRetries snmp organizationId
  | .cancelRule ruleId organizationId => cancelUnclaimedDeliveriesForRule ruleId organizationId
  | .changeRule rule => change (.changeRule rule)
  | .changeWebhook webhook => change (.changeWebhook webhook)
  | .changeOrganization active deleted => change (.changeOrganization active deleted)

/-- Calls on one delivery. -/
abbrev System := Sys Db Write Empty Stmt Stmt.Res Query Query.Answer Result

end FireIsp.Trap
