import FireIsp.Base.Guard
import FireIsp.Base.Table
import Mathlib.Data.List.Sort
import Mathlib.Data.Rat.Floor

/-!
# Rollover balances

The table `data_rollover_balances` and the statements sent to it.  The columns hold thousandths of a
gigabyte; the numbers of the service are exact.  A row is found by its contract and its month, and
an accrual either inserts it or overwrites what was granted.
-/

namespace FireIsp.Rollover

open Txn

/-- What `parseFloat` reads from a column with three decimals. -/
def gigabytes (thousandths : Int) : Rat := thousandths / 1000

/-- `x.toFixed(3)`, in thousandths: halves are rounded away from zero. -/
def toFixed (x : Rat) : Int :=
  if x < 0 then -⌊-x * 1000 + 1 / 2⌋ else ⌊x * 1000 + 1 / 2⌋

/-- A row of `data_rollover_balances`. -/
structure Balance where
  id : Nat
  contractId : Nat
  billingMonth : Nat
  rolloverGb : Int
  consumedRolloverGb : Int
  deriving DecidableEq

/-- `uq_rollover_contract_month` -/
def Balance.key (row : Balance) : Nat × Nat := (row.contractId, row.billingMonth)

/-- `rollover_gb - consumed_rollover_gb` -/
def Balance.available (row : Balance) : Int := row.rolloverGb - row.consumedRolloverGb

/-- The table. -/
abbrev Db : Type := List Balance

def Db.balance (db : Db) (contractId billingMonth : Nat) : Option Balance :=
  Table.find Balance.key (contractId, billingMonth) db

def Db.consumed (db : Db) (contractId billingMonth : Nat) : Int :=
  Table.weightAt Balance.key Balance.consumedRolloverGb (contractId, billingMonth) db

def Db.unconsumed (db : Db) (contractId billingMonth : Nat) : Int :=
  Table.weightAt Balance.key Balance.available (contractId, billingMonth) db

/-- The balances of a contract, of the latest month first: at most three. -/
def Db.latest (db : Db) (contractId : Nat) : List Balance :=
  ((db.filter fun row => row.contractId = contractId).insertionSort
    fun a b => b.billingMonth ≤ a.billingMonth).take 3

structure Latest where
  rows : List Balance
  /-- What is left of the balance of the current month at that moment.  No caller reads it. -/
  unconsumed : Int

/-- Statements. -/
inductive Stmt
  /-- `INSERT … ON DUPLICATE KEY UPDATE rollover_gb = VALUES(rollover_gb)`. -/
  | accrue (contractId billingMonth : Nat) (rolloverGb : Int)
  /-- `SELECT … WHERE contract_id = ? AND billing_month = ?`. -/
  | current (contractId billingMonth : Nat)
  /-- `UPDATE … SET consumed_rollover_gb = consumed_rollover_gb + ? WHERE id = ?`. -/
  | consume (id : Nat) (amount : Int)
  /-- `SELECT … WHERE contract_id = ? ORDER BY billing_month DESC LIMIT 3`. -/
  | latest (contractId currentMonth : Nat)

/-- Replies. -/
@[reducible] def Stmt.Res : Stmt → Type
  | accrue _ _ _ => Unit
  | current _ _ => Option Balance
  | consume _ _ => Unit
  | latest _ _ => Latest

/-- Row versions. -/
inductive Write
  | insert (row : Balance)
  | grant (id : Nat) (rolloverGb : Int)
  | consume (id : Nat) (amount : Int)

/-- What was granted is overwritten. -/
def Balance.grant (rolloverGb : Int) (row : Balance) : Balance := { row with rolloverGb }

/-- More is consumed. -/
def Balance.consume (amount : Int) (row : Balance) : Balance :=
  { row with consumedRolloverGb := row.consumedRolloverGb + amount }

/-- A row version is stored. -/
def Write.apply (db : Db) : Write → Db
  | insert row => db ++ [row]
  | grant id rolloverGb => Table.modify Balance.id id (Balance.grant rolloverGb) db
  | consume id amount => Table.modify Balance.id id (Balance.consume amount) db

def accrued (tick contractId billingMonth : Nat) (rolloverGb : Int) (db : Db) : List Write :=
  match db.balance contractId billingMonth with
  | some row => [.grant row.id rolloverGb]
  | none => [.insert ⟨tick, contractId, billingMonth, rolloverGb, 0⟩]

/-- Reply and row versions of a statement. -/
def exec : (op : Stmt) → Nat → Db → Db → op.Res × List Write
  | .accrue contractId billingMonth rolloverGb, tick, db, _ =>
    ((), accrued tick contractId billingMonth rolloverGb db)
  | .current contractId billingMonth, _, db, _ => (db.balance contractId billingMonth, [])
  | .consume id amount, _, _, _ => ((), [.consume id amount])
  | .latest contractId currentMonth, _, db, _ =>
    (⟨db.latest contractId, db.unconsumed contractId currentMonth⟩, [])

/-- Statements of the table.  Each is committed at once, and a row lock is gone when it ends. -/
def engine : Engine Db Write Empty Stmt Stmt.Res where
  apply := Write.apply
  exec := exec
  locks _ _ := []
  snapshots _ := false

/-- Every row keeps to the limits of its contract, whose cap is in hundredths of a gigabyte. -/
structure Limited (cap : Nat → Option Nat) (row : Balance) : Prop where
  nonneg : 0 ≤ row.consumedRolloverGb
  granted : row.consumedRolloverGb ≤ row.rolloverGb
  /-- A quarter of the cap at most is granted: thousandths against hundredths. -/
  quarter : 4 * row.rolloverGb ≤ 10 * (((cap row.contractId).getD 0 : Nat) : Int)

/-- The keys of the table are unique, and every row keeps to its limits. -/
structure Sound (cap : Nat → Option Nat) (tick : Nat) (db : Db) : Prop where
  keyed : Table.Keyed Balance.id db
  below : ∀ row ∈ db, row.id < tick
  /-- `UNIQUE KEY uq_rollover_contract_month`. -/
  unique : Table.Keyed Balance.key db
  limited : ∀ row ∈ db, Limited cap row

end FireIsp.Rollover

/-!
## Accruing and consuming rollover

`accrueRollover`, `consumeRollover` and `getEffectiveAllowance`, statement by statement.  Contracts,
their usage and their data packs are asked for; the data cap of a contract does not change.
-/

namespace FireIsp.Rollover

open Txn

/-- What `radius_accounting_usage_daily` and `connection_logs` say of a month. -/
structure Usage where
  usedGb : Rat
  incompleteRows : Nat
  observedRows : Nat
  unverifiableSessionRows : Nat

/-- Nothing about the usage is uncertain. -/
def Usage.Certain (usage : Usage) : Prop :=
  usage.incompleteRows = 0 ∧ usage.observedRows ≠ 0 ∧ usage.unverifiableSessionRows = 0

instance (usage : Usage) : Decidable usage.Certain := inferInstanceAs (Decidable (_ ∧ _))

/-- Questions to the rest of the database and to the clock. -/
inductive Query
  | now
  | contracts (organizationId : Option Nat)
  | usage (contractId billingMonth : Nat)
  | contract (contractId : Nat)
  /-- `SUM(gb_applied)` of the active data packs. -/
  | packs (contractId : Nat)

@[reducible] def Answer : Query → Type
  | .now => Nat
  | .contracts _ => List Nat
  | .usage _ _ => Usage
  | .contract _ => Bool
  | .packs _ => Rat

/-- A program on the pool. -/
abbrev Program (A : Type) : Type := Prog Stmt Stmt.Res Query Answer A

/-- A statement. -/
abbrev query (op : Stmt) : Program op.Res := Prog.send .pool op

abbrev question (q : Query) : Program (Answer q) := Prog.ask q

/-- What a subscriber may use. -/
structure Allowance where
  baseCapGb : Rat
  packGb : Rat
  rolloverGb : Rat
  totalGb : Rat
  /-- What was left of the balance of the current month when the balances were read. -/
  unconsumed : Int
  deriving DecidableEq

/-- What a call returns. -/
inductive Outcome
  | accrued (processed rolledOverContracts : Nat)
  | consumed (contractId billingMonth : Nat) (consumed remaining : Rat)
  | allowance (contractId : Nat) (allowance : Option Allowance)
  deriving DecidableEq

variable (cap : Nat → Option Nat)

/-- `parseFloat(data_cap_gb)`, of a column in hundredths, or nothing. -/
def capGb (contractId : Nat) : Rat := ((cap contractId).getD 0 : Nat) / 100

/-- What is carried forward. -/
def rolloverGb (contractId : Nat) (usedGb : Rat) : Rat :=
  min (capGb cap contractId - usedGb) (capGb cap contractId * (1 / 4))

/-- One contract of `accrueRollover`: does it roll over? -/
def accrueContract (billingMonth contractId : Nat) : Program Bool := do
  let usage : Usage ← question (.usage contractId billingMonth)
  if usage.Certain ∧ usage.usedGb < capGb cap contractId then do
    query (.accrue contractId billingMonth (toFixed (rolloverGb cap contractId usage.usedGb)))
    pure true
  else pure false

def accrueContracts (billingMonth : Nat) : List Nat → Program Nat
  | [] => pure 0
  | contractId :: contracts => do
      let rolledOver ← accrueContract cap billingMonth contractId
      let others ← accrueContracts billingMonth contracts
      pure (others + rolledOver.toNat)

def accrueRollover (organizationId : Option Nat) : Program Outcome := do
  let billingMonth ← question .now
  let active ← question (.contracts organizationId)
  let contracts := active.filter fun contractId => 0 < (cap contractId).getD 0
  let rolledOverContracts ← accrueContracts cap billingMonth contracts
  pure (.accrued contracts.length rolledOverContracts)

def consumeRollover (contractId : Nat) (gb : Rat) : Program Outcome := do
  let currentMonth ← question .now
  let row ← query (.current contractId currentMonth)
  match row with
  | none => pure (.consumed contractId currentMonth 0 0)
  | some row => do
      let available := gigabytes row.rolloverGb - gigabytes row.consumedRolloverGb
      let toConsume := min gb available
      query (.consume row.id (toFixed toConsume))
      pure (.consumed contractId currentMonth toConsume (available - toConsume))

structure Summary where
  currentMonth : Option Balance
  history : List Balance
  totalAvailableGb : Rat
  /-- What was left of the balance of the current month. -/
  unconsumed : Int

def getRolloverBalance (contractId : Nat) : Program Summary := do
  let currentMonth ← question .now
  let seen ← query (.latest contractId currentMonth)
  pure {
    currentMonth := seen.rows.find? fun row => row.billingMonth = currentMonth
    history := seen.rows
    totalAvailableGb := (seen.rows.map fun row => gigabytes row.available).sum
    unconsumed := seen.unconsumed }

def getEffectiveAllowance (contractId : Nat) : Program Outcome := do
  let found ← question (.contract contractId)
  if found then do
    let packGb ← question (.packs contractId)
    let rollover ← getRolloverBalance contractId
    pure (.allowance contractId (some {
      baseCapGb := capGb cap contractId
      packGb
      rolloverGb := rollover.totalAvailableGb
      totalGb := capGb cap contractId + packGb + rollover.totalAvailableGb
      unconsumed := rollover.unconsumed }))
  else pure (.allowance contractId none)

/-- Calls that run beside each other. -/
inductive Call
  | accrue (organizationId : Option Nat)
  | consume (contractId : Nat) (gb : Rat)
  | allowance (contractId : Nat)

def Call.run : Call → Program Outcome
  | .accrue organizationId => accrueRollover cap organizationId
  | .consume contractId gb => consumeRollover contractId gb
  | .allowance contractId => getEffectiveAllowance cap contractId

/-- The amount of a consumption is not negative and has at most three decimals. -/
def Call.Exact : Call → Prop
  | .consume _ gb => ∃ thousandths : Nat, gb = gigabytes thousandths
  | _ => True

/-- The calls on the table. -/
abbrev System : Type := Sys Db Write Empty Stmt Stmt.Res Query Answer Outcome

/-- Scheduler choices. -/
abbrev Choice : Type := Label Answer

/-- The calls before their first step. -/
def opening (tick : Nat) (db : Db) (calls : List Call) : System :=
  ⟨db, tick, [], fun i => ⟨calls[i]?.map (Call.run cap), none⟩, []⟩

end FireIsp.Rollover
