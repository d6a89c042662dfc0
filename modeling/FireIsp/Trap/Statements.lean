import FireIsp.Base.Session

/-!
# Trap forwarding deliveries

One row of `snmp_trap_forwarding_deliveries` with the rule, the webhook and the organization it is
checked against, and the statements that read and write it.  What the destination was sent is kept
beside the row.  A claim token is a letter and a UUID, which is named after the tick it is drawn at.
-/

namespace FireIsp.Trap

open Txn

inductive Status
  | pending
  | processing
  | retrying
  | success
  | deadLetter
  | cancelled
  deriving DecidableEq

/-- First letter of a claim token. -/
inductive Mark
  | F
  /-- A stale row was claimed, with attempts left. -/
  | S
  /-- The last attempt of a stale row is recovered. -/
  | R
  /-- The last attempt of a stale row was recovered before. -/
  | X
  deriving DecidableEq

/-- `claim_token`. -/
structure Token where
  mark : Mark
  uuid : Nat
  deriving DecidableEq

/-- Where a delivery goes: `chk_stfd_target_shape`. -/
inductive Target
  | url (url : String)
  | email (email : String)
  | webhook (webhookId : Nat) (url : String)

/-- Row of `snmp_trap_forwarding_deliveries`. -/
structure Delivery where
  organizationId : Nat
  organizationEpoch : Nat
  ruleId : Option Nat
  target : Target
  /-- Device and source address of the payload, if both are there. -/
  source : Option (Nat × String)
  isTest : Bool
  status : Status
  attemptNumber : Nat
  maxAttempts : Nat
  recoveryCount : Nat
  httpStatusCode : Option Nat
  responseTimeMs : Option Nat
  nextAttemptAt : Option Nat
  lockedAt : Option Nat
  claimToken : Option Token
  revokedAt : Option Nat
  deliveredAt : Option Nat

/-- Row of `snmp_trap_forwarding_rules` of the tenant. -/
structure Rule where
  id : Nat
  matchTrapType : Option String
  matchSourceIp : Option String
  matchOidPrefix : Option String
  forwardToUrl : Option String
  forwardToEmail : Option String
  forwardToWebhookId : Option Nat
  isActive : Bool
  reviewed : Bool
  deleted : Bool

/-- Row of `webhooks` of the tenant. -/
structure Webhook where
  id : Nat
  url : String
  isActive : Bool
  deleted : Bool

/-- Row of `organizations`. -/
structure Organization where
  active : Bool
  deleted : Bool
  epoch : Nat

/-- Tables and destination. -/
structure Db where
  delivery : Delivery
  rule : Option Rule
  webhook : Option Webhook
  organization : Option Organization
  /-- External sends started, by the token of their claim, oldest first. -/
  sends : List Nat

/-- The columns of a delivery that are joined to it. -/
structure Joined where
  rule : Option Rule
  webhook : Option Webhook
  organization : Option Organization

def Target.webhookId : Target → Option Nat
  | .webhook webhookId _ => some webhookId
  | _ => none

/-- The `LEFT JOIN`s of a delivery. -/
def Db.joined (db : Db) : Joined where
  rule := db.rule.filter fun rule => decide (db.delivery.ruleId = some rule.id)
  webhook := db.webhook.filter fun webhook => decide (db.delivery.target.webhookId = some webhook.id)
  organization := db.organization

/-- `PROCESSING_STALE_MINUTES`, in seconds. -/
def staleSeconds : Nat := 5 * 60

def maxAmbiguousRecoveries : Nat := 1

/-- `status = 'processing' AND locked_at < DATE_SUB(NOW(), ...)`. -/
def Delivery.stale (row : Delivery) (now : Nat) : Bool :=
  decide (row.status = .processing) &&
    row.lockedAt.any fun lockedAt => decide (lockedAt + staleSeconds < now)

/-- `status IN ('pending','retrying')`. -/
def Delivery.waiting (row : Delivery) : Bool :=
  decide (row.status = .pending ∨ row.status = .retrying)

/-- The row waits, or its worker is gone. -/
def Delivery.isOpen (row : Delivery) (now : Nat) : Bool := row.waiting || row.stale now

/-- `next_attempt_at IS NULL OR next_attempt_at <= NOW()`. -/
def Delivery.isDue (row : Delivery) (now : Nat) : Bool :=
  row.nextAttemptAt.all fun nextAttemptAt => decide (nextAttemptAt ≤ now)

/-- The row can be claimed, `revoked_at` apart. -/
def Delivery.ready (row : Delivery) (now : Nat) : Bool :=
  (row.waiting && decide (row.attemptNumber < row.maxAttempts) && row.isDue now) || row.stale now

/-- `AND organization_id = ?`, left out without an organization. -/
def Delivery.isOf (row : Delivery) (organizationId : Option Nat) : Bool :=
  organizationId.all fun id => decide (row.organizationId = id)

/-- The letter the claim of a row begins with. -/
def Delivery.mark (row : Delivery) : Mark :=
  if row.status = .processing ∧ row.maxAttempts ≤ row.attemptNumber ∧
      maxAmbiguousRecoveries ≤ row.recoveryCount then .X
  else if row.status = .processing ∧ row.maxAttempts ≤ row.attemptNumber then .R
  else if row.status = .processing then .S
  else .F

/-- `LEFT(claim_token, 1)`. -/
def Delivery.left (row : Delivery) : Option Mark := row.claimToken.map Token.mark

/-- The assignments of the claim, from left to right; each one sees those before it. -/
def Delivery.claim (row : Delivery) (uuid now : Nat) : Delivery :=
  let row := { row with claimToken := some ⟨row.mark, uuid⟩ }
  let row := { row with
    recoveryCount := row.recoveryCount + if row.left = some Mark.R then 1 else 0 }
  let row := { row with
    attemptNumber :=
      row.attemptNumber + if row.left = some Mark.F ∨ row.left = some Mark.S then 1 else 0 }
  let row := { row with status := if row.left = some Mark.X then .deadLetter else .processing }
  let row := { row with lockedAt := if row.left = some Mark.X then none else some now }
  { row with nextAttemptAt := none }

def Delivery.cancel (row : Delivery) : Delivery :=
  { row with status := .cancelled, lockedAt := none, claimToken := none, nextAttemptAt := none }

def Delivery.revoke (row : Delivery) (now : Nat) : Delivery :=
  { row with revokedAt := row.revokedAt.or (some now) }

/-- The statuses an outcome sets. -/
inductive Verdict
  | success
  | retrying
  | deadLetter
  | cancelled
  deriving DecidableEq

def Verdict.status : Verdict → Status
  | .success => .success
  | .retrying => .retrying
  | .deadLetter => .deadLetter
  | .cancelled => .cancelled

/-- Outcome of an attempt. -/
structure Outcome where
  verdict : Verdict
  httpStatus : Option Nat
  responseTimeMs : Option Nat
  nextAttemptAt : Option Nat

/-- The row once an outcome is written. -/
def Delivery.settle (row : Delivery) (outcome : Outcome) (now : Nat) : Delivery :=
  { row with
    status := outcome.verdict.status
    httpStatusCode := outcome.httpStatus
    responseTimeMs := outcome.responseTimeMs
    nextAttemptAt := outcome.nextAttemptAt
    lockedAt := none
    claimToken := none
    deliveredAt := if outcome.verdict = .success then some now else row.deliveredAt }

/-- Statements. -/
inductive Stmt
  /-- The row of `attemptDelivery`, if it is open, is cancelled. -/
  | cancelOpen (organizationId : Option Nat)
  | preflight (organizationId : Option Nat)
  | claim (organizationId : Option Nat)
  /-- The claimed row with the letter of its token: `RIGHT(claim_token, 35)` is compared. -/
  | selectClaimed (organizationId : Option Nat) (uuid : Nat)
  | settle (token : Token) (outcome : Outcome)
  | organizationState
  | activeWebhook (webhookId : Nat)
  /-- The destination is sent the trap, under a claim. -/
  | send (uuid : Nat)
  | cancelUnavailable (organizationId : Option Nat)
  /-- First `UPDATE` of the sweep: revoked rows. -/
  | sweepRevoked (organizationId : Option Nat)
  /-- Second `UPDATE` of the sweep: rows of another epoch. -/
  | sweepOrganization (organizationId : Option Nat)
  | selectDue (organizationId : Option Nat)
  | cancelRule (ruleId organizationId : Nat)
  /-- `UPDATE snmp_trap_forwarding_rules`, with its trigger. -/
  | changeRule (rule : Rule)
  /-- `UPDATE webhooks`, with its trigger. -/
  | changeWebhook (webhook : Webhook)
  /-- `UPDATE organizations`, with its triggers. -/
  | changeOrganization (active deleted : Bool)

/-- Reply type of a statement. -/
@[reducible] def Stmt.Res : Stmt → Type
  | .cancelOpen _ => Bool
  | .preflight _ => Option (Delivery × Joined)
  | .claim _ => Option Nat
  | .selectClaimed .. => Option (Mark × Delivery × Joined)
  | .settle .. => Bool
  | .organizationState => Option (Bool × Nat)
  | .activeWebhook _ => Option String
  | .cancelUnavailable _ => Bool
  | .selectDue _ => Bool
  | .cancelRule .. => Bool
  | _ => Unit

/-- What one statement changes. -/
inductive Write
  | delivery (row : Delivery)
  | rule (rule : Rule)
  | webhook (webhook : Webhook)
  | organization (organization : Organization)
  | send (uuid : Nat)

/-- Change the tables. -/
def Db.apply (db : Db) : Write → Db
  | .delivery row => { db with delivery := row }
  | .rule rule => { db with rule := some rule }
  | .webhook webhook => { db with webhook := some webhook }
  | .organization organization => { db with organization := some organization }
  | .send uuid => { db with sends := db.sends ++ [uuid] }

/-- Cancel the row if a condition holds. -/
def Db.cancelIf (db : Db) (condition : Bool) : List Write :=
  if condition then [.delivery db.delivery.cancel] else []

/-- `Number.isSafeInteger(id) && id > 0`. -/
def positive (organizationId : Option Nat) : Option Nat := organizationId.filter (0 < ·)

/-- The tenant is gone, inactive or of another epoch. -/
def Db.foreign (db : Db) : Bool :=
  db.organization.all fun organization =>
    !organization.active || organization.deleted ||
      decide (db.delivery.organizationEpoch ≠ organization.epoch)

/-- The trigger on rules looks at these columns. -/
def Rule.same (new old : Rule) : Bool :=
  decide (new.matchTrapType = old.matchTrapType ∧ new.matchSourceIp = old.matchSourceIp ∧
    new.matchOidPrefix = old.matchOidPrefix ∧ new.forwardToUrl = old.forwardToUrl ∧
    new.forwardToEmail = old.forwardToEmail ∧
    new.forwardToWebhookId = old.forwardToWebhookId ∧ new.isActive = old.isActive ∧
    new.deleted = old.deleted)

/-- The trigger on webhooks looks at these columns. -/
def Webhook.same (new old : Webhook) : Bool :=
  decide (new.url = old.url ∧ new.isActive = old.isActive ∧ new.deleted = old.deleted)

/-- The triggers on rules and webhooks: a waiting row is cancelled, a claimed one is revoked. -/
def Db.recalled (db : Db) (condition : Bool) (now : Nat) : List Write :=
  if condition then
    if db.delivery.waiting then [.delivery db.delivery.cancel]
    else if db.delivery.status = .processing then [.delivery (db.delivery.revoke now)]
    else []
  else []

/-- A changed organization: `trg_organizations_outbound_epoch_bu`. -/
def Organization.changed (old : Organization) (active deleted : Bool) : Organization :=
  ⟨active, deleted, if active = old.active ∧ deleted = old.deleted then old.epoch
    else old.epoch + 1⟩

/-- Reply and changes of a statement at a time. -/
def exec (now tick : Nat) (db : Db) : (op : Stmt) → op.Res × List Write
  | .cancelOpen organizationId =>
    let affected := db.delivery.isOf organizationId && db.delivery.isOpen now
    (affected, db.cancelIf affected)
  | .preflight organizationId =>
    (if db.delivery.isOf organizationId then some (db.delivery, db.joined) else none, [])
  | .claim organizationId =>
    if db.delivery.isOf organizationId && db.delivery.revokedAt.isNone &&
        db.delivery.ready now then
      (some tick, [.delivery (db.delivery.claim tick now)])
    else (none, [])
  | .selectClaimed organizationId uuid =>
    ((db.delivery.claimToken.filter fun token =>
      db.delivery.isOf organizationId && decide (token.uuid = uuid)).map fun token =>
        (token.mark, db.delivery, db.joined), [])
  | .settle token outcome =>
    if db.delivery.status = .processing ∧ db.delivery.claimToken = some token then
      (true, [.delivery (db.delivery.settle outcome now)])
    else (false, [])
  | .organizationState =>
    (db.organization.map fun organization =>
      (organization.active && !organization.deleted, organization.epoch), [])
  | .activeWebhook webhookId =>
    ((db.webhook.filter fun webhook => decide (webhook.id = webhookId) && webhook.isActive &&
      !webhook.deleted).map Webhook.url, [])
  | .send uuid => ((), [.send uuid])
  | .cancelUnavailable organizationId =>
    let affected := db.delivery.isOf (positive organizationId) && db.delivery.isOpen now
    (affected, db.cancelIf affected)
  | .sweepRevoked organizationId =>
    ((), db.cancelIf (db.delivery.isOf (positive organizationId) && db.delivery.revokedAt.isSome &&
      db.delivery.isOpen now))
  | .sweepOrganization organizationId =>
    ((), db.cancelIf (db.delivery.isOf (positive organizationId) && db.foreign &&
      db.delivery.isOpen now))
  | .selectDue organizationId =>
    (db.delivery.isOf (positive organizationId) && !db.foreign && db.delivery.revokedAt.isNone &&
      db.delivery.ready now, [])
  | .cancelRule ruleId organizationId =>
    let affected := decide (db.delivery.ruleId = some ruleId ∧
      db.delivery.organizationId = organizationId) && db.delivery.waiting
    (affected, db.cancelIf affected)
  | .changeRule rule =>
    match db.rule.filter fun old => decide (old.id = rule.id) with
    | none => ((), [])
    | some old => ((), .rule rule :: db.recalled
        (decide (db.delivery.ruleId = some rule.id) && !rule.same old) now)
  | .changeWebhook webhook =>
    match db.webhook.filter fun old => decide (old.id = webhook.id) with
    | none => ((), [])
    | some old => ((), .webhook webhook :: db.recalled
        (decide (db.delivery.target.webhookId = some webhook.id) && !webhook.same old) now)
  | .changeOrganization active deleted =>
    match db.organization with
    | none => ((), [])
    | some old => ((), .organization (old.changed active deleted) :: db.cancelIf
        (decide ((old.changed active deleted).epoch ≠ old.epoch ∧
          db.delivery.organizationEpoch ≠ (old.changed active deleted).epoch) &&
            db.delivery.waiting))

/-- The statements, each committed at once; `clock` is the time at a tick. -/
def engine (clock : Nat → Nat) : Engine Db Write Empty Stmt Stmt.Res where
  apply := Db.apply
  exec := fun op tick current _ => exec (clock tick) tick current op
  locks := fun _ _ => []
  snapshots := fun _ => false

end FireIsp.Trap
