import FireIsp.Base.Throwing

/-!
# The daily quota of traps

The rows of `snmp_trap_ingest_daily_usage` of one UTC day, the traps and the forwarding rows that
are stored on it, and the statements of a trap's transaction.  A savepoint keeps the tables as its
transaction saw them.
-/

namespace FireIsp.TrapQuota

open Txn

/-- Row of `snmp_trap_ingest_daily_usage` of the day. -/
structure Usage where
  /-- Organization, or `none` for the global row. -/
  scope : Option Nat
  trapCount : Nat
  varbindBytes : Nat
  deliveryCount : Nat
  metadataOnlyCount : Nat
  droppedTrapCount : Nat
  forwardingSkippedCount : Nat
  deriving DecidableEq

/-- A row of `snmp_traps` of the day. -/
structure Trap where
  id : Nat
  organizationId : Nat

/-- A row of `snmp_trap_forwarding_deliveries` of the day. -/
structure Delivery where
  id : Nat
  organizationId : Nat
  ruleId : Nat
  trapId : Option Nat

structure Tables where
  usage : List Usage
  traps : List Trap
  deliveries : List Delivery

structure Db where
  tables : Tables
  saved : Option Tables

/-- Limits, from the environment. -/
structure Limits where
  /-- `ORG_DAILY_TRAP_ROW_LIMIT`. -/
  orgTraps : Nat
  /-- `GLOBAL_DAILY_TRAP_ROW_LIMIT`. -/
  globalTraps : Nat
  /-- `ORG_DAILY_VARBIND_BYTE_LIMIT`. -/
  orgBytes : Nat
  /-- `GLOBAL_DAILY_VARBIND_BYTE_LIMIT`. -/
  globalBytes : Nat
  /-- `ORG_DAILY_DELIVERY_LIMIT`. -/
  orgDeliveries : Nat
  /-- `GLOBAL_DAILY_DELIVERY_LIMIT`. -/
  globalDeliveries : Nat

/-- Statements of a trap's transaction. -/
inductive Stmt
  /-- `INSERT IGNORE` of the global row and the one of an organization. -/
  | insertUsage (organizationId : Nat)
  /-- Both rows `FOR UPDATE`, the global one first. -/
  | selectUsage (organizationId : Nat)
  | countDropped (organizationId : Nat)
  | countTrap (organizationId storedBytes metadataOnly : Nat)
  /-- `INSERT INTO snmp_traps`. -/
  | insertTrap (organizationId : Nat)
  | reserve (organizationId allowed skipped : Nat)
  | savepoint
  | release
  /-- `ROLLBACK TO SAVEPOINT`. -/
  | rollbackTo
  /-- `INSERT INTO snmp_trap_forwarding_deliveries`. -/
  | insertDelivery (organizationId ruleId : Nat) (trapId : Option Nat)
  | selectDelivery (organizationId ruleId : Nat) (trapId : Option Nat)
  | refund (organizationId count : Nat)

/-- Reply type of a statement: an `INSERT` of a delivery returns its id, or none for a duplicate. -/
@[reducible] def Stmt.Res : Stmt → Type
  | .selectUsage _ => Option (Usage × Usage)
  | .insertTrap _ => Nat
  | .insertDelivery .. => Option Nat
  | .selectDelivery .. => Option Nat
  | _ => Unit

/-- What one statement changes. -/
inductive Write
  | opened (scope : Option Nat)
  | dropped (organizationId : Nat)
  | counted (organizationId storedBytes metadataOnly : Nat)
  /-- Deliveries in the rows of an organization. -/
  | reserved (organizationId allowed skipped : Nat)
  | refunded (organizationId count : Nat)
  | trap (row : Trap)
  | delivery (row : Delivery)
  | saved
  | released
  | restored

def Usage.isOf (organizationId : Nat) (row : Usage) : Bool :=
  decide (row.scope = none ∨ row.scope = some organizationId)

/-- Change the rows of an organization, the global one included. -/
def Tables.update (tables : Tables) (organizationId : Nat) (change : Usage → Usage) : Tables :=
  { tables with usage :=
      tables.usage.map fun row => if row.isOf organizationId then change row else row }

/-- Change the tables. -/
def Tables.apply (tables : Tables) : Write → Tables
  | .opened scope => { tables with usage := tables.usage ++ [⟨scope, 0, 0, 0, 0, 0, 0⟩] }
  | .dropped organizationId =>
    tables.update organizationId fun row =>
      { row with droppedTrapCount := row.droppedTrapCount + 1 }
  | .counted organizationId storedBytes metadataOnly =>
    tables.update organizationId fun row =>
      { row with
        trapCount := row.trapCount + 1
        varbindBytes := row.varbindBytes + storedBytes
        metadataOnlyCount := row.metadataOnlyCount + metadataOnly }
  | .reserved organizationId allowed skipped =>
    tables.update organizationId fun row =>
      { row with
        deliveryCount := row.deliveryCount + allowed
        forwardingSkippedCount := row.forwardingSkippedCount + skipped }
  | .refunded organizationId count =>
    tables.update organizationId fun row =>
      { row with deliveryCount := row.deliveryCount - count }
  | .trap row => { tables with traps := tables.traps ++ [row] }
  | .delivery row => { tables with deliveries := tables.deliveries ++ [row] }
  | _ => tables

def Db.apply (db : Db) : Write → Db
  | .saved => { db with saved := some db.tables }
  | .released => { db with saved := none }
  | .restored => { db with tables := db.saved.getD db.tables }
  | w => { db with tables := db.tables.apply w }

def Tables.row (tables : Tables) (scope : Option Nat) : Option Usage :=
  tables.usage.find? fun row => decide (row.scope = scope)

/-- `INSERT IGNORE` of one row. -/
def Tables.missing (tables : Tables) (scope : Option Nat) : List Write :=
  if tables.row scope = none then [.opened scope] else []

/-- The delivery of a rule and a trap; tests are not compared. -/
def Tables.delivery (tables : Tables) (organizationId ruleId : Nat) (trapId : Option Nat) :
    Option Delivery :=
  tables.deliveries.find? fun row => decide (row.organizationId = organizationId ∧
    row.ruleId = ruleId ∧ row.trapId = trapId ∧ trapId ≠ none)

/-- Reply and changes of a statement. -/
def exec (tick : Nat) (db : Db) : (op : Stmt) → op.Res × List Write
  | .insertUsage organizationId =>
    ((), db.tables.missing none ++ db.tables.missing (some organizationId))
  | .selectUsage organizationId =>
    ((db.tables.row none).bind fun global =>
      (db.tables.row (some organizationId)).map fun organization => (global, organization), [])
  | .countDropped organizationId => ((), [.dropped organizationId])
  | .countTrap organizationId storedBytes metadataOnly =>
    ((), [.counted organizationId storedBytes metadataOnly])
  | .insertTrap organizationId => (tick, [.trap ⟨tick, organizationId⟩])
  | .reserve organizationId allowed skipped => ((), [.reserved organizationId allowed skipped])
  | .savepoint => ((), [.saved])
  | .release => ((), [.released])
  | .rollbackTo => ((), [.restored])
  | .insertDelivery organizationId ruleId trapId =>
    match db.tables.delivery organizationId ruleId trapId with
    | some _ => (none, [])
    | none => (some tick, [.delivery ⟨tick, organizationId, ruleId, trapId⟩])
  | .selectDelivery organizationId ruleId trapId =>
    ((db.tables.delivery organizationId ruleId trapId).map Delivery.id, [])
  | .refund organizationId count => ((), [.refunded organizationId count])

/-- Usage rows a statement locks. -/
def locks : Stmt → List (Option Nat)
  | .insertUsage organizationId => [none, some organizationId]
  | .selectUsage organizationId => [none, some organizationId]
  | .countDropped organizationId => [none, some organizationId]
  | .countTrap organizationId _ _ => [none, some organizationId]
  | .reserve organizationId _ _ => [none, some organizationId]
  | .refund organizationId _ => [none, some organizationId]
  | _ => []

/-- The tables of the day as a transactional engine. -/
def engine : Engine Db Write (Option Nat) Stmt Stmt.Res where
  apply := Db.apply
  exec := fun op tick current _ => exec tick current op
  locks := fun op _ => locks op
  snapshots := fun _ => false

end FireIsp.TrapQuota

/-!
## Storing a trap

The transaction of `snmpTrapReceiver` that stores a trap and its forwarding rows within the quota,
with `prepareTrapDeliveries` of `trapForwardingService`.  A statement may raise, except those on
savepoints, which fail only with their connection; rules, devices and organizations are looked up
outside.
-/

namespace FireIsp.TrapQuota

open Txn Throwing

/-- Calls of a connection that may raise. -/
inductive Bracket
  | connect
  | begin
  | commit
  | rollback

/-- How the destination of a rule resolves. -/
inductive Resolution
  | found
  | missing
  | raised

/-- Questions to the world outside the tables. -/
inductive Query
  | raises (op : Stmt)
  | fails (bracket : Bracket)
  /-- `lockSharedDeviceByIp`: is the source still the device's, unless it raises? -/
  | attributed
  /-- `getOrganizationDeliveryState`: is the organization active, unless it raises? -/
  | ownerActive (organizationId : Nat)
  /-- The rules that match, unless the query raises. -/
  | matching (organizationId : Nat)
  | resolves (ruleId : Nat)
  | otherwise

/-- Replies from outside. -/
@[reducible] def Query.Answer : Query → Type
  | .raises _ => Bool
  | .fails _ => Bool
  | .attributed => Option Bool
  | .ownerActive _ => Option Bool
  | .matching _ => Option (List Nat)
  | .resolves _ => Resolution
  | .otherwise => Unit

/-- Why a call throws. -/
inductive Refusal
  | raised
  /-- `organizationId must be a positive integer`. -/
  | notPositive
  | unavailable

/-- Functions of the services. -/
abbrev Body (A : Type) := Throwing Stmt Stmt.Res Query Query.Answer Refusal A

/-- A question to the world outside. -/
def asked (query : Query) : Body query.Answer := lift (Prog.ask query)

/-- A statement. -/
def sent (op : Stmt) : Body op.Res := lift (Prog.send .conn op)

def statement (op : Stmt) : Body op.Res := do
  let raised ← asked (.raises op)
  refuseIf raised .raised
  sent op

def bracket (call : Bracket) : Body Unit := do
  let failed ← asked (.fails call)
  refuseIf failed .raised

def maxVarbindsJsonBytes : Nat := 8 * 1024

def maxActiveRules : Nat := 100

variable (limits : Limits)

/-- What `reserveTrapIngestUsage` returns. -/
structure Reservation where
  accepted : Bool
  storeVarbinds : Bool

def fits (organization global : Usage) (requestedBytes : Nat) : Bool :=
  decide (requestedBytes = 0 ∨ organization.varbindBytes + requestedBytes ≤ limits.orgBytes ∧
    global.varbindBytes + requestedBytes ≤ limits.globalBytes)

/-- The counters of a trap, from the locked rows. -/
def reserveFrom (organizationId requestedBytes : Nat) (global organization : Usage) :
    Body Reservation :=
  if limits.orgTraps ≤ organization.trapCount ∨ limits.globalTraps ≤ global.trapCount then do
    statement (.countDropped organizationId)
    pure ⟨false, false⟩
  else do
    let storeVarbinds := fits limits organization global requestedBytes
    statement (.countTrap organizationId (if storeVarbinds then requestedBytes else 0)
      (if storeVarbinds then 0 else 1))
    pure ⟨true, storeVarbinds⟩

def reserveTrapIngestUsage (organizationId requestedVarbindBytes : Nat) : Body Reservation := do
  refuseIf (organizationId < 1) .notPositive
  statement (.insertUsage organizationId)
  let rows ← statement (.selectUsage organizationId)
  let usage ← orThrow rows .unavailable
  reserveFrom limits organizationId (min maxVarbindsJsonBytes requestedVarbindBytes) usage.1 usage.2

/-- What `reserveTrapForwardingUsage` returns. -/
structure Capacity where
  allowedCount : Nat
  skippedCount : Nat

/-- The deliveries the locked rows leave room for. -/
def allowedOf (requested : Nat) (global organization : Usage) : Nat :=
  min requested (min (limits.orgDeliveries - organization.deliveryCount)
    (limits.globalDeliveries - global.deliveryCount))

/-- `reserveTrapForwardingUsage`, for a number that is not zero. -/
def reserveRequested (organizationId requested : Nat) : Body Capacity := do
  let rows ← statement (.selectUsage organizationId)
  let usage ← orThrow rows .unavailable
  let allowed := allowedOf limits requested usage.1 usage.2
  statement (.reserve organizationId allowed (requested - allowed))
  pure ⟨allowed, requested - allowed⟩

def reserveTrapForwardingUsage (organizationId requestedDeliveries : Nat) : Body Capacity := do
  refuseIf (organizationId < 1) .notPositive
  if min 100 requestedDeliveries = 0 then pure ⟨0, 0⟩
  else reserveRequested limits organizationId (min 100 requestedDeliveries)

def refundTrapForwardingUsage (organizationId deliveryCount : Nat) : Body Unit := do
  refuseIf (organizationId < 1) .notPositive
  if min 100 deliveryCount = 0 then pure ()
  else statement (.refund organizationId (min 100 deliveryCount))

def duplicateOf (organizationId ruleId : Nat) (trapId : Option Nat) : Body (Nat × Bool) := do
  refuseIf (trapId = none) .raised
  let found ← statement (.selectDelivery organizationId ruleId trapId)
  let id ← orThrow found .raised
  pure (id, false)

/-- `insertDelivery`: the row, and whether it was created. -/
def insertDelivery (organizationId ruleId : Nat) (trapId : Option Nat) : Body (Nat × Bool) := do
  let inserted ← statement (.insertDelivery organizationId ruleId trapId)
  match inserted with
  | none => duplicateOf organizationId ruleId trapId
  | some id => do
      let _ ← asked .otherwise
      pure (id, true)

/-- The end of a savepoint whose rule was persisted. -/
def persisted : Except Refusal (Nat × Bool) → Body (List Nat)
  | .ok delivery => do
      sent .release
      pure (if delivery.2 then [delivery.1] else [])
  | .error _ => do
      sent .rollbackTo
      sent .release
      pure []

/-- One rule is persisted within a savepoint: the row it created. -/
def persistRule (organizationId ruleId : Nat) (trapId : Option Nat) : Body (List Nat) := do
  sent .savepoint
  let tried ← attempted (insertDelivery organizationId ruleId trapId)
  persisted tried

/-- The rules are persisted one by one: the rows that were created. -/
def persistRules (organizationId : Nat) (trapId : Option Nat) : List Nat → Body (List Nat)
  | [] => pure []
  | ruleId :: ruleIds => do
      let created ← persistRule organizationId ruleId trapId
      let others ← persistRules organizationId trapId ruleIds
      pure (created ++ others)

/-- The end of a savepoint whose rule was resolved. -/
def resolved (ruleId : Nat) : Resolution → Body (List Nat)
  | .found => do
      sent .release
      pure [ruleId]
  | .missing => do
      sent .release
      pure []
  | .raised => do
      sent .rollbackTo
      sent .release
      pure []

def resolveRule (ruleId : Nat) : Body (List Nat) := do
  sent .savepoint
  let resolution ← asked (.resolves ruleId)
  resolved ruleId resolution

def resolveRules : List Nat → Body (List Nat)
  | [] => pure []
  | ruleId :: ruleIds => do
      let found ← resolveRule ruleId
      let others ← resolveRules ruleIds
      pure (found ++ others)

def prepareMatching (organizationId trapId : Nat) (matching : List Nat) : Body (List Nat) := do
  let resolvedRules ← resolveRules (matching.take maxActiveRules)
  let quota ← reserveTrapForwardingUsage limits organizationId resolvedRules.length
  let deliveryIds ← persistRules organizationId (some trapId)
    (resolvedRules.take quota.allowedCount)
  refundTrapForwardingUsage organizationId
    ((resolvedRules.take quota.allowedCount).length - deliveryIds.length)
  pure deliveryIds

/-- `prepareTrapDeliveries`: the rows it created. -/
def prepareTrapDeliveries (organizationId trapId : Nat) : Body (List Nat) := do
  let owner ← asked (.ownerActive organizationId)
  let active ← orThrow owner .raised
  if active = false then pure []
  else do
    let rules ← asked (.matching organizationId)
    let matching ← orThrow rules .raised
    prepareMatching limits organizationId trapId matching

/-- What becomes of a trap. -/
inductive Outcome
  | unattributed
  | dropped
  | stored (trapId : Nat) (deliveryIds : List Nat)

def storeAccepted (organizationId : Nat) (reservation : Reservation) : Body Outcome :=
  if reservation.accepted = false then pure .dropped
  else do
    let trapId ← statement (.insertTrap organizationId)
    let deliveryIds ← prepareTrapDeliveries limits organizationId trapId
    pure (.stored trapId deliveryIds)

/-- The statements between `BEGIN` and `COMMIT`. -/
def storeTrap (organizationId requestedVarbindBytes : Nat) : Body Outcome := do
  let attribution ← asked .attributed
  let attributed ← orThrow attribution .raised
  if attributed = false ∨ organizationId = 0 then pure .unattributed
  else do
    let reservation ← reserveTrapIngestUsage limits organizationId requestedVarbindBytes
    storeAccepted limits organizationId reservation

/-- The end of the transaction. -/
def finish : Outcome → Body Outcome
  | .unattributed => do
      bracket .rollback
      lift Prog.rollbackNow
      pure .unattributed
  | outcome => do
      bracket .commit
      lift Prog.commitNow
      pure outcome

/-- The `try` of the transaction. -/
def committing (organizationId requestedVarbindBytes : Nat) : Body Outcome := do
  bracket .begin
  lift Prog.begin
  let outcome ← storeTrap limits organizationId requestedVarbindBytes
  finish outcome

/-- The `catch` of the transaction. -/
def settle : Except Refusal Outcome → Body Outcome
  | .ok outcome => pure outcome
  | .error error => do
      lift Prog.rollbackNow
      throw error

def persistAndDispatch (organizationId requestedVarbindBytes : Nat) : Body Outcome := do
  bracket .connect
  let tried ← attempted (committing limits organizationId requestedVarbindBytes)
  let outcome ← settle tried
  let _ ← asked .otherwise
  pure outcome

/-- Transactions of traps. -/
abbrev System :=
  Sys Db Write (Option Nat) Stmt Stmt.Res Query Query.Answer (Except Refusal Outcome)

end FireIsp.TrapQuota
