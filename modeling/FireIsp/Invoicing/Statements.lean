import FireIsp.Base.Calendar
import FireIsp.Base.Session
import FireIsp.Billing.Schema

/-!
# Billing periods and generated invoices

Rows the invoice run writes, and rows of other tables it only reads.  Money is in cents, tax
rates are in ten-thousandths and dates are day numbers.
-/

namespace FireIsp.Invoicing

open Billing (InvoiceStatus)

/-- Values of `billing_periods.status`. -/
inductive PeriodStatus
  | pending
  | invoiced
  | skipped
  deriving DecidableEq

/-- Row of `billing_periods`. -/
structure Period where
  id : Nat
  contractId : Nat
  periodStart : Int
  periodEnd : Int
  invoiceId : Option Nat
  status : PeriodStatus
  scheduledAt : Int
  deriving DecidableEq

/-- Row of `invoices`. -/
structure Invoice where
  id : Nat
  organizationId : Option Nat
  clientId : Nat
  contractId : Option Nat
  invoiceNumber : String
  subtotal : Int
  taxAmount : Int
  total : Int
  currency : String
  taxRate : Int
  taxRateId : Option Nat
  dueDate : Int
  status : InvoiceStatus
  deletedAt : Option Nat

/-- Row of `invoice_items`. -/
structure Item where
  id : Nat
  invoiceId : Nat
  description : String
  quantity : Int
  unitPrice : Int
  amount : Int

/-- Values of `client_balance_ledger.entry_type`. -/
inductive EntryType
  | invoice
  | payment
  | creditNote
  | adjustment
  | topup
  | usageDeduction
  | debit
  | credit
  deriving DecidableEq

/-- Row of `client_balance_ledger`. -/
structure LedgerEntry where
  id : Nat
  clientId : Nat
  organizationId : Option Nat
  entryType : EntryType
  amount : Int
  currency : String
  referenceType : String
  referenceId : Nat
  description : String

/-- Row of `organization_invoice_sequences`. -/
structure InvoiceSequence where
  organizationId : Nat
  nextNumber : Nat

/-- Tables the invoice run writes. -/
structure Db where
  periods : List Period
  invoices : List Invoice
  items : List Item
  ledger : List LedgerEntry
  sequences : List InvoiceSequence

/-- Columns of `contracts` the run reads. -/
structure Contract where
  id : Nat
  clientId : Nat
  startDate : Int
  /-- Day of the month invoices are generated on. -/
  billingDay : Option Nat
  priceOverride : Option Int
  taxRateId : Option Nat

/-- Values of `plans.overage_mode`. -/
inductive OverageMode
  | none
  | perGb
  | upgradePrompt
  deriving DecidableEq

/-- Fields of the plan object the run reads; the schedulers pass name, price and currency only. -/
structure Plan where
  name : String
  price : Int
  currency : Option String
  trialDays : Option Nat
  trialPrice : Option Int
  overageMode : Option OverageMode
  /-- Price of one GB above the cap, in ten-thousandths. -/
  overagePricePerGb : Option Int

/-- Columns of `clients` the tax resolver reads. -/
structure ClientTax where
  taxExempt : Bool
  locale : String
  zipCode : String

/-- Row of the usage query of a contract over a window. -/
structure UsageRow where
  dataCapGb : Option Int
  overageMode : OverageMode
  /-- Price of one GB above the cap, in ten-thousandths. -/
  overagePricePerGb : Option Int
  bytesUsed : Nat
  incompleteRows : Nat
  observedRows : Nat
  unverifiableSessionRows : Nat

/-- Row of `contract_addons` joined with `plan_addons`. -/
structure Addon where
  addonName : String
  unitPrice : Option Int
  addonPrice : Int
  quantity : Option Nat

end FireIsp.Invoicing

/-!
## Statements of the invoice run

A write says what its statement changes: a row added, or the columns an `UPDATE` sets in the
rows of one key.
-/

namespace FireIsp.Invoicing

open Txn

/-- What one statement changes. -/
inductive Write
  | period (row : Period)
  | invoice (row : Invoice)
  | item (row : Item)
  | entry (row : LedgerEntry)
  | totals (invoiceId : Nat) (subtotal taxAmount total : Int)
  | invoiced (periodId invoiceId : Nat)
  /-- A sequence row, unless the organization has one. -/
  | seed (bucket : Nat)
  | advance (bucket next : Nat)

/-- Rows a transaction can lock. -/
inductive Key
  | period (id : Nat)
  | invoice (id : Nat)
  | sequence (bucket : Nat)
  | number (organizationId : Nat) (invoiceNumber : String)
  deriving DecidableEq

/-- Statements. -/
inductive Stmt
  | selectPending (contractId : Nat)
  | selectLastInvoiced (contractId : Nat)
  /-- `INSERT INTO billing_periods`: the new id, or `none` on a duplicate key. -/
  | insertPeriod (contractId : Nat) (periodStart periodEnd scheduledAt : Int)
  | selectPeriod (id : Nat)
  /-- One billing period, `FOR UPDATE`. -/
  | lockPeriod (id : Nat)
  /-- `INSERT IGNORE INTO organization_invoice_sequences`. -/
  | seedSequence (bucket : Nat)
  /-- `UPDATE … next_number = LAST_INSERT_ID(next_number) + 1` and `SELECT LAST_INSERT_ID()`. -/
  | advanceSequence (bucket : Nat)
  /-- `INSERT INTO invoices`: the new id, or `none` on a duplicate key. -/
  | insertInvoice (row : Invoice)
  /-- `INSERT INTO invoice_items`: the new id. -/
  | insertItem (row : Item)
  /-- `UPDATE invoices SET subtotal, tax_amount, total`. -/
  | updateTotals (invoiceId : Nat) (subtotal taxAmount total : Int)
  /-- `UPDATE billing_periods SET status = 'invoiced', invoice_id`. -/
  | markInvoiced (periodId invoiceId : Nat)
  /-- `INSERT INTO client_balance_ledger`: the new id. -/
  | insertEntry (row : LedgerEntry)
  | selectInvoice (id : Nat)

/-- Reply type of a statement. -/
@[reducible] def Stmt.Res : Stmt → Type
  | .selectPending _ => Option Period
  | .selectLastInvoiced _ => Option Period
  | .insertPeriod .. => Option Nat
  | .selectPeriod _ => Option Period
  | .lockPeriod _ => Option Period
  | .seedSequence _ => Unit
  | .advanceSequence _ => Nat
  | .insertInvoice _ => Option Nat
  | .insertItem _ => Nat
  | .updateTotals .. => Unit
  | .markInvoiced .. => Unit
  | .insertEntry _ => Nat
  | .selectInvoice _ => Option Invoice

/-- The billing period once it is invoiced. -/
def Period.invoicedBy (row : Period) (invoiceId : Nat) : Period :=
  { row with status := .invoiced, invoiceId := some invoiceId }

def invoicedPeriods (periodId invoiceId : Nat) (rows : List Period) : List Period :=
  rows.map fun row => if row.id = periodId then row.invoicedBy invoiceId else row

/-- Invoices after the totals of one of them were set. -/
def retotaled (invoiceId : Nat) (subtotal taxAmount total : Int) (rows : List Invoice) :
    List Invoice :=
  rows.map fun row => if row.id = invoiceId then { row with subtotal, taxAmount, total } else row

def seeded (bucket : Nat) (rows : List InvoiceSequence) : List InvoiceSequence :=
  if rows.any (·.organizationId == bucket) then rows else rows ++ [⟨bucket, 1⟩]

/-- Sequences after one of them was set. -/
def advanced (bucket next : Nat) (rows : List InvoiceSequence) : List InvoiceSequence :=
  rows.map fun row => if row.organizationId = bucket then { row with nextNumber := next } else row

/-- Change the tables. -/
def Db.apply (db : Db) : Write → Db
  | .period row => { db with periods := db.periods ++ [row] }
  | .invoice row => { db with invoices := db.invoices ++ [row] }
  | .item row => { db with items := db.items ++ [row] }
  | .entry row => { db with ledger := db.ledger ++ [row] }
  | .totals invoiceId subtotal taxAmount total =>
    { db with invoices := retotaled invoiceId subtotal taxAmount total db.invoices }
  | .invoiced periodId invoiceId =>
    { db with periods := invoicedPeriods periodId invoiceId db.periods }
  | .seed bucket => { db with sequences := seeded bucket db.sequences }
  | .advance bucket next => { db with sequences := advanced bucket next db.sequences }

/-- `ORDER BY period_end DESC LIMIT 1`. -/
def lastEnding : List Period → Option Period
  | [] => none
  | row :: rows =>
    match lastEnding rows with
    | none => some row
    | some best => if row.periodEnd < best.periodEnd then some best else some row

theorem mem_of_lastEnding {rows : List Period} {best : Period} (h : lastEnding rows = some best) :
    best ∈ rows := by
  induction rows generalizing best with
  | nil => nomatch h
  | cons row rows ih =>
    rw [lastEnding] at h
    cases hrest : lastEnding rows with
    | none =>
      rw [hrest] at h
      exact List.mem_cons.mpr (Or.inl (Option.some.inj h).symm)
    | some last =>
      simp only [hrest] at h
      split at h
      · exact List.mem_cons_of_mem _ (ih (hrest.trans h))
      · exact List.mem_cons.mpr (Or.inl (Option.some.inj h).symm)

/-- `WHERE contract_id = ? AND status = ? ORDER BY period_end DESC LIMIT 1`. -/
def Db.lastPeriod (db : Db) (contractId : Nat) (status : PeriodStatus) : Option Period :=
  lastEnding (db.periods.filter fun row => row.contractId == contractId && row.status == status)

/-- The row breaks neither unique key of `billing_periods`. -/
def Db.acceptsPeriod (db : Db) (contractId : Nat) (periodStart periodEnd : Int) : Bool :=
  db.periods.all fun row =>
    !(row.contractId == contractId && row.periodStart == periodStart) &&
      !(row.contractId == contractId && row.periodStart == periodStart &&
        row.periodEnd == periodEnd)

/-- The row breaks no unique key of `invoices`; deleted rows are not in it. -/
def Db.acceptsInvoice (db : Db) (new : Invoice) : Bool :=
  db.invoices.all fun row =>
    !(new.organizationId.isSome && row.organizationId == new.organizationId &&
      row.invoiceNumber == new.invoiceNumber && row.deletedAt.isNone && new.deletedAt.isNone)

/-- Number the sequence of an organization stands at; 0 for a connection that inserted nothing. -/
def Db.nextNumber (db : Db) (bucket : Nat) : Nat :=
  match db.sequences.find? (·.organizationId == bucket) with
  | some row => row.nextNumber
  | none => 0

/-- Reply and changes of a statement. -/
def Stmt.exec : (stmt : Stmt) → Nat → Db → Db → stmt.Res × List Write
  | .selectPending contractId, _, db, _ => (db.lastPeriod contractId .pending, [])
  | .selectLastInvoiced contractId, _, db, _ => (db.lastPeriod contractId .invoiced, [])
  | .insertPeriod contractId periodStart periodEnd scheduledAt, tick, db, _ =>
    if db.acceptsPeriod contractId periodStart periodEnd then
      (some tick, [.period {
        id := tick
        contractId
        periodStart
        periodEnd
        invoiceId := none
        status := .pending
        scheduledAt }])
    else (none, [])
  | .selectPeriod id, _, db, _ => (db.periods.find? (·.id == id), [])
  | .lockPeriod id, _, db, _ => (db.periods.find? (·.id == id), [])
  | .seedSequence bucket, _, _, _ => ((), [.seed bucket])
  | .advanceSequence bucket, _, db, _ =>
    (db.nextNumber bucket, [.advance bucket (db.nextNumber bucket + 1)])
  | .insertInvoice row, tick, db, _ =>
    if db.acceptsInvoice row then (some tick, [.invoice { row with id := tick }])
    else (none, [])
  | .insertItem row, tick, _, _ => (tick, [.item { row with id := tick }])
  | .updateTotals invoiceId subtotal taxAmount total, _, _, _ =>
    ((), [.totals invoiceId subtotal taxAmount total])
  | .markInvoiced periodId invoiceId, _, _, _ => ((), [.invoiced periodId invoiceId])
  | .insertEntry row, tick, _, _ => (tick, [.entry { row with id := tick }])
  | .selectInvoice id, _, db, _ =>
    (db.invoices.find? fun row => row.id == id && row.deletedAt.isNone, [])

/-- Rows a statement locks; `INSERT IGNORE` waits for another insert of the same key. -/
def Stmt.locks : Stmt → Db → List Key
  | .lockPeriod id, db => if db.periods.any (·.id == id) then [.period id] else []
  | .seedSequence bucket, db =>
    if db.sequences.any (·.organizationId == bucket) then [] else [.sequence bucket]
  | .advanceSequence bucket, _ => [.sequence bucket]
  | .insertInvoice row, _ =>
    match row.organizationId with
    | some org => [.number org row.invoiceNumber]
    | none => []
  | .updateTotals invoiceId _ _ _, _ => [.invoice invoiceId]
  | .markInvoiced periodId _, _ => [.period periodId]
  | _, _ => []

/-- The invoice run as a transactional engine; no transaction fixes a snapshot of its tables. -/
def engine : Txn.Engine Db Write Key Stmt Stmt.Res where
  apply := Db.apply
  exec := Stmt.exec
  locks := Stmt.locks
  snapshots _ := false

end FireIsp.Invoicing
