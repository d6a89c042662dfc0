import FireIsp.Base.Client
import FireIsp.Lifecycle.Schema

/-!
# The line of a contract

A contract, its RADIUS accounts and its suspension log.
-/

namespace FireIsp.Line

open Lifecycle (ContractStatus ConnectionType)

/-- Row of `contracts`. -/
structure Contract where
  id : Nat
  organizationId : Option Nat
  status : ContractStatus
  connectionType : ConnectionType
  firstActivatedAt : Option Nat
  testWindowExpiresAt : Option Nat
  testWindowCleanupPending : Bool
  testWindowCleanupAttemptedAt : Option Nat
  deletedAt : Option Nat

/-- `radius.status`. -/
inductive RadiusStatus
  | active
  | inactive
  | suspended
  deriving DecidableEq

/-- Row of `radius`. -/
structure Radius where
  id : Nat
  organizationId : Option Nat
  contractId : Option Nat
  /-- NAS its subscriber usually authenticates through. -/
  nasId : Option Nat
  username : String
  status : RadiusStatus
  deletedAt : Option Nat

/-- `suspension_logs.action`. -/
inductive LogAction
  | suspended
  | unsuspended
  | disconnected
  | reconnected
  deriving DecidableEq

/-- `suspension_logs.triggered_by`. -/
inductive Trigger
  | system
  | manual

/-- Row of `suspension_logs`. -/
structure SuspensionLog where
  id : Nat
  contractId : Nat
  suspensionRuleId : Option Nat
  action : LogAction
  reason : Option String
  triggeredBy : Trigger
  performedByUserId : Option Nat
  radiusCoaSent : Bool
  radiusCoaResponse : Option String
  relatedInvoiceId : Option Nat
  suspendedAt : Nat
  restoredAt : Option Nat

/-- The tables. -/
structure Db where
  contracts : List Contract
  radius : List Radius
  logs : List SuspensionLog

def Contract.live (c : Contract) : Bool := c.deletedAt.isNone

def Radius.live (r : Radius) : Bool := r.deletedAt.isNone

/-- Which organizations a query is about. -/
inductive Scope
  | all
  | own (organizationId : Nat)
  /-- `organization_id = ? OR organization_id IS NULL`. -/
  | shared (organizationId : Nat)

def Scope.admits : Scope → Option Nat → Bool
  | .all, _ => true
  | .own organizationId, owner => owner = some organizationId
  | .shared organizationId, owner => owner = some organizationId || owner.isNone

def orgWhere : Option Nat → Scope
  | none => .all
  | some organizationId => .own organizationId

def contractOrgPredicate : Option Nat → Scope
  | none => .all
  | some organizationId => .shared organizationId

/-- Transitions of a contract's status that `trg_contracts_status_fsm_bu` lets pass. -/
def allowed : ContractStatus → ContractStatus → Bool
  | .pending, .active => true
  | .pending, .cancelled => true
  | .active, .expired => true
  | .active, .cancelled => true
  | .active, .suspended => true
  | .active, .terminated => true
  | .suspended, .pending => true
  | .suspended, .active => true
  | .suspended, .cancelled => true
  | .suspended, .terminated => true
  | .expired, .pending => true
  | .expired, .active => true
  | .cancelled, .pending => true
  | .cancelled, .active => true
  | .terminated, .pending => true
  | .terminated, .active => true
  | old, new => old = new

/-- A status or RADIUS trigger refuses the update of a row. -/
def Db.refuses (db : Db) (old new : Contract) : Bool :=
  !allowed old.status new.status ||
    (new.status = .active && old.status ≠ .active && new.connectionType.isPppoe &&
      !db.radius.any fun r => r.contractId = some new.id)

end FireIsp.Line

/-!
## Statements about lines

Queries and updates carry their `WHERE` and their `SET`, both of which may use `NOW()`.
-/

namespace FireIsp.Line

open Txn

/-- Statements. -/
inductive Stmt
  | contracts (matches_ : Nat → Contract → Bool)
  | radius (matches_ : Radius → Bool)
  /-- `SELECT … FROM suspension_logs`, oldest first. -/
  | logs (matches_ : SuspensionLog → Bool)
  /-- `SELECT … FROM contracts LEFT JOIN radius`. -/
  | lines (matches_ : Contract → Bool)
  | updateContracts (matches_ : Nat → Contract → Bool) (set : Nat → Contract → Contract)
  /-- `UPDATE contracts`, with conditions on the accounts. -/
  | updateLines (matches_ : Contract → List Radius → Bool) (set : Contract → Contract)
  | updateRadius (matches_ : Radius → Bool) (set : Radius → Radius)
  | updateAccounts (matches_ : Radius → Contract → Bool) (set : Radius → Radius)
  | updateLogs (matches_ : SuspensionLog → Bool) (set : Nat → SuspensionLog → SuspensionLog)
  /-- `INSERT INTO suspension_logs … SELECT … FROM contracts`: a row with an id, at a time. -/
  | insertLog (contractId : Nat) (row : Nat → Nat → SuspensionLog)
  /-- `INSERT INTO radius`: a row with an id. -/
  | insertRadius (row : Nat → Radius)
  /-- Other tables are written, or columns that nothing here reads. -/
  | otherwise

/-- Replies: rows, the number of rows that matched unless a trigger refused, the new id. -/
@[reducible] def Stmt.Res : Stmt → Type
  | .contracts _ => List Contract
  | .radius _ => List Radius
  | .logs _ => List SuspensionLog
  | .lines _ => List (Contract × List Radius)
  | .updateContracts .. => Option Nat
  | .updateLines .. => Option Nat
  | .updateRadius .. => Nat
  | .updateAccounts .. => Nat
  | .updateLogs .. => Nat
  | .insertLog .. => Unit
  | .insertRadius _ => Nat
  | .otherwise => Unit

/-- `AUTO_INCREMENT` -/
def nextId (ids : List Nat) : Nat := ids.foldr max 0 + 1

def update {A : Type} (matches_ : A → Bool) (set : A → A) (rows : List A) : List A :=
  rows.map fun row => if matches_ row then set row else row

def Db.accounts (db : Db) (contractId : Nat) : List Radius :=
  db.radius.filter fun r => r.contractId = some contractId

/-- The rows of an account and its contract match. -/
def Db.joined (db : Db) (matches_ : Radius → Contract → Bool) (r : Radius) : Bool :=
  db.contracts.any fun c => r.contractId = some c.id && matches_ r c

def Db.updated (db : Db) (matches_ : Contract → Bool) (set : Contract → Contract) :
    Option Nat × List Db :=
  if (db.contracts.filter matches_).any fun c => db.refuses c (set c) then (none, [])
  else (some (db.contracts.countP matches_),
    [{ db with contracts := update matches_ set db.contracts }])

/-- Meaning of the statements.  Each one works on the tables as they are. -/
def engine : Engine Db Db Empty Stmt Stmt.Res where
  apply _ db := db
  exec
    | .contracts matches_, tick, db, _ => (db.contracts.filter (matches_ tick), [])
    | .radius matches_, _, db, _ => (db.radius.filter matches_, [])
    | .logs matches_, _, db, _ => (db.logs.filter matches_, [])
    | .lines matches_, _, db, _ =>
      ((db.contracts.filter matches_).map fun c => (c, db.accounts c.id), [])
    | .updateContracts matches_ set, tick, db, _ => db.updated (matches_ tick) (set tick)
    | .updateLines matches_ set, _, db, _ =>
      db.updated (fun c => matches_ c (db.accounts c.id)) set
    | .updateRadius matches_ set, _, db, _ =>
      (db.radius.countP matches_, [{ db with radius := update matches_ set db.radius }])
    | .updateAccounts matches_ set, _, db, _ =>
      (db.radius.countP (db.joined matches_),
        [{ db with radius := update (db.joined matches_) set db.radius }])
    | .updateLogs matches_ set, tick, db, _ =>
      (db.logs.countP matches_, [{ db with logs := update matches_ (set tick) db.logs }])
    | .insertLog contractId row, tick, db, _ =>
      if db.contracts.any fun c => c.id = contractId then
        ((), [{ db with logs := db.logs ++ [row (nextId (db.logs.map SuspensionLog.id)) tick] }])
      else ((), [])
    | .insertRadius row, _, db, _ =>
      let id := nextId (db.radius.map Radius.id)
      (id, [{ db with radius := db.radius ++ [row id] }])
    | .otherwise, _, _, _ => ((), [])
  locks _ _ := []
  snapshots _ := false

end FireIsp.Line
