import FireIsp.Base.Session
import FireIsp.Base.Text

/-!
# Webhook deliveries

One row of `webhook_deliveries` with its registration and the owning organization, which do not
change here, and the statements `webhookService` sends for it. What the endpoint has received is
kept beside the row. A claim token is named after the tick its claim is taken at.
-/

namespace FireIsp.Webhook

open Txn

inductive Status
  | pending
  | processing
  | success
  | failed
  | retrying
  | deadLetter
  deriving DecidableEq

/-- Row of `webhook_deliveries`; payload and response body are never read here. -/
structure Delivery where
  organizationEpoch : Nat
  eventName : String
  targetUrl : Option String
  httpStatusCode : Option Nat
  responseTimeMs : Option Nat
  attemptNumber : Nat
  recoveryCount : Nat
  status : Status
  nextRetryAt : Option Nat
  lockedAt : Option Nat
  claimToken : Option Nat
  revokedAt : Option Nat
  deliveredAt : Option Nat
  createdAt : Nat

/-- Row of `webhooks` and the state of its organization. -/
structure Registration where
  id : Nat
  organizationId : Nat
  url : String
  isActive : Bool
  deleted : Bool
  maxRetries : Option Nat
  organizationActive : Bool
  /-- `outbound_delivery_epoch`, 0 when the organization is not active. -/
  epoch : Nat

/-- Tables and endpoint. -/
structure Db where
  webhook : Registration
  delivery : Delivery
  /-- HTTP attempts made, by the token of their claim, oldest first. -/
  attempts : List Nat

/-- `COALESCE(w.max_retries, 5) + 1`. -/
def Registration.maxAttempts (webhook : Registration) : Nat := webhook.maxRetries.getD 5 + 1

/-- `WEBHOOK_PROCESSING_STALE_MINUTES`, in seconds. -/
def staleSeconds : Nat := 5 * 60

/-- `status = 'processing' AND locked_at < DATE_SUB(NOW(), ...)`. -/
def Delivery.stale (row : Delivery) (now : Nat) : Bool :=
  decide (row.status = .processing) &&
    row.lockedAt.any fun lockedAt => decide (lockedAt + staleSeconds < now)

/-- `status IN ('pending','retrying')`. -/
def Delivery.waiting (row : Delivery) : Bool :=
  decide (row.status = .pending ∨ row.status = .retrying)

/-- `next_retry_at IS NULL OR next_retry_at <= NOW()`. -/
def Delivery.isDue (row : Delivery) (now : Nat) : Bool :=
  row.nextRetryAt.all fun nextRetryAt => decide (nextRetryAt ≤ now)

/-- `BINARY wd.target_url = BINARY w.url`. -/
def Delivery.sameUrl (row : Delivery) (webhook : Registration) : Bool :=
  decide (row.targetUrl = some webhook.url)

/-- `WHERE` of the claim. -/
def Delivery.claimable (row : Delivery) (webhook : Registration) (epoch now : Nat) : Bool :=
  webhook.isActive && !webhook.deleted && decide (row.organizationEpoch = epoch) &&
    row.sameUrl webhook && row.revokedAt.isNone &&
    (decide (row.status = .pending) || (decide (row.status = .retrying) && row.isDue now) ||
      (row.stale now &&
        decide (row.attemptNumber < webhook.maxAttempts ∨ row.recoveryCount < 1)))

def Delivery.claim (row : Delivery) (webhook : Registration) (token now : Nat) : Delivery :=
  { row with
    claimToken := some token
    lockedAt := some now
    recoveryCount := row.recoveryCount +
      if row.status = .processing ∧ webhook.maxAttempts ≤ row.attemptNumber then 1 else 0
    status := .processing
    attemptNumber := row.attemptNumber + if row.attemptNumber < webhook.maxAttempts then 1 else 0
    nextRetryAt := none }

/-- The row once it is given up. -/
def Delivery.bury (row : Delivery) : Delivery :=
  { row with status := .deadLetter, nextRetryAt := none, lockedAt := none, claimToken := none }

/-- Outcome of an attempt. -/
structure Outcome where
  status : Status
  httpStatus : Option Nat
  responseTimeMs : Option Nat
  nextRetry : Option Nat

/-- The row once an outcome is written. -/
def Delivery.settle (row : Delivery) (outcome : Outcome) (now : Nat) : Delivery :=
  { row with
    httpStatusCode := outcome.httpStatus
    responseTimeMs := outcome.responseTimeMs
    status := outcome.status
    nextRetryAt := outcome.nextRetry
    deliveredAt := if outcome.status = .success then some now else row.deliveredAt
    lockedAt := none
    claimToken := none }

/-- The row once it is redelivered by hand. -/
def Delivery.reset (row : Delivery) (now : Nat) : Delivery :=
  { row with
    status := .retrying
    attemptNumber := 0
    recoveryCount := 0
    nextRetryAt := some now
    lockedAt := none
    claimToken := none
    revokedAt := none
    httpStatusCode := none
    responseTimeMs := none
    deliveredAt := none
    createdAt := now }

inductive Stmt
  | organizationState
  /-- `terminalizeInactiveOrganizationDelivery`. -/
  | buryInactive (organizationId : Nat)
  | claim (organizationId epoch : Nat)
  /-- The delivery of another epoch is given up. -/
  | buryOtherEpoch (organizationId epoch : Nat)
  | selectClaimed (organizationId token : Nat)
  | settle (token : Nat) (outcome : Outcome)
  /-- The endpoint receives the attempt of a claim. -/
  | post (token : Nat)
  /-- First `UPDATE` of the sweep: revoked and stale deliveries of changed registrations. -/
  | sweepRevoked (organizationId : Option Nat) (excluded : List Nat)
  /-- Second `UPDATE` of the sweep: stale deliveries without attempts left. -/
  | sweepExhausted (organizationId : Option Nat) (excluded : List Nat)
  /-- Third `UPDATE` of the sweep: waiting deliveries to another destination. -/
  | sweepRedirected (organizationId : Option Nat) (excluded : List Nat)
  | selectDue (organizationId : Option Nat) (excluded : List Nat)
  | selectDeadLetter (organizationId : Nat)
  | buryReserved
  /-- The delivery to another or an unsafe destination is given up. -/
  | buryRedelivery
  | reset

@[reducible] def Stmt.Res : Stmt → Type
  | .organizationState => Bool × Nat
  | .claim .. => Option Nat
  | .selectClaimed .. => Option (Delivery × Registration)
  | .settle .. => Bool
  | .selectDue .. => Option Delivery
  | .selectDeadLetter _ => Option (Delivery × Registration)
  | .reset => Bool
  | _ => Unit

/-- What one statement changes. -/
inductive Write
  | delivery (row : Delivery)
  | attempt (token : Nat)

/-- Change the tables. -/
def Db.apply (db : Db) : Write → Db
  | .delivery row => { db with delivery := row }
  | .attempt token => { db with attempts := db.attempts ++ [token] }

def Registration.swept (webhook : Registration) (organizationId : Option Nat)
    (excluded : List Nat) : Bool :=
  match organizationId with
  | some id => decide (webhook.organizationId = id)
  | none => !decide (webhook.organizationId ∈ excluded)

/-- Give the row up if a condition holds. -/
def Db.buryIf (db : Db) (condition : Bool) : List Write :=
  if condition then [.delivery db.delivery.bury] else []

def Delivery.revoked (row : Delivery) (webhook : Registration) (now : Nat) : Bool :=
  (row.revokedAt.isSome && row.waiting) ||
    (row.stale now && (row.revokedAt.isSome || !webhook.isActive || webhook.deleted ||
      !row.sameUrl webhook))

/-- `WHERE` of the due rows. -/
def Delivery.selected (row : Delivery) (webhook : Registration) (now : Nat) : Bool :=
  webhook.isActive && !webhook.deleted && row.sameUrl webhook && row.revokedAt.isNone &&
    ((row.waiting && row.isDue now) || row.stale now)

/-- Reply and changes of a statement at a time. -/
def exec (now : Nat) (tick : Nat) (db : Db) : (op : Stmt) → op.Res × List Write
  | .organizationState => ((db.webhook.organizationActive, db.webhook.epoch), [])
  | .buryInactive organizationId =>
    ((), db.buryIf (decide (db.webhook.organizationId = organizationId) &&
      (db.delivery.waiting || db.delivery.stale now)))
  | .claim organizationId epoch =>
    if db.webhook.organizationId = organizationId ∧
        db.delivery.claimable db.webhook epoch now = true then
      (some tick, [.delivery (db.delivery.claim db.webhook tick now)])
    else (none, [])
  | .buryOtherEpoch organizationId epoch =>
    ((), db.buryIf (decide (db.webhook.organizationId = organizationId ∧
      db.delivery.organizationEpoch ≠ epoch) && (db.delivery.waiting || db.delivery.stale now)))
  | .selectClaimed organizationId token =>
    (if db.webhook.organizationId = organizationId ∧ db.delivery.status = .processing ∧
        db.delivery.claimToken = some token then some (db.delivery, db.webhook) else none, [])
  | .settle token outcome =>
    if db.delivery.status = .processing ∧ db.delivery.claimToken = some token then
      (true, [.delivery (db.delivery.settle outcome now)])
    else (false, [])
  | .post token => ((), [.attempt token])
  | .sweepRevoked organizationId excluded =>
    ((), db.buryIf (db.webhook.swept organizationId excluded &&
      db.delivery.revoked db.webhook now))
  | .sweepExhausted organizationId excluded =>
    ((), db.buryIf (db.webhook.swept organizationId excluded && db.delivery.stale now &&
      decide (db.webhook.maxAttempts ≤ db.delivery.attemptNumber ∧
        1 ≤ db.delivery.recoveryCount)))
  | .sweepRedirected organizationId excluded =>
    ((), db.buryIf (db.webhook.swept organizationId excluded && db.delivery.waiting &&
      !db.delivery.sameUrl db.webhook))
  | .selectDue organizationId excluded =>
    (if db.webhook.swept organizationId excluded && db.delivery.selected db.webhook now then
      some db.delivery else none, [])
  | .selectDeadLetter organizationId =>
    (if db.delivery.status = .deadLetter ∧ db.webhook.organizationId = organizationId ∧
        db.webhook.deleted = false then some (db.delivery, db.webhook) else none, [])
  | .buryReserved =>
    ((), if db.delivery.status ∈ [.pending, .retrying, .failed, .deadLetter] then
      [.delivery { db.delivery with status := .deadLetter, nextRetryAt := none }] else [])
  | .buryRedelivery => ((), [.delivery db.delivery.bury])
  | .reset =>
    if db.delivery.status = .deadLetter then (true, [.delivery (db.delivery.reset now)])
    else (false, [])

/-- The statements, each committed at once; `clock` is the time at a tick. -/
def engine (clock : Nat → Nat) : Engine Db Write Empty Stmt Stmt.Res where
  apply := Db.apply
  exec := fun op tick current _ => exec (clock tick) tick current op
  locks := fun _ _ => []
  snapshots := fun _ => false

end FireIsp.Webhook
