import FireIsp.Base.Table

/-!
# Billing tables

Rows of the tables the payment-allocation code reads and writes, and the state made
of them.  Money is an integer number of cents (`DECIMAL(10, 2)`), a timestamp is the
tick at which it was written, and a row is live while its `deleted_at` is `NULL`.
-/

namespace FireIsp.Billing

/-- Values of `invoices.status`. -/
inductive InvoiceStatus
  | draft
  | issued
  | sent
  | paid
  | overdue
  | cancelled
  | void
  deriving DecidableEq

/-- The two statuses an invoice can be settled into. -/
inductive TerminalStatus
  | void
  | cancelled

/-- A terminal status as a column value. -/
def TerminalStatus.status : TerminalStatus → InvoiceStatus
  | .void => .void
  | .cancelled => .cancelled

/-- `status === 'void' || status === 'cancelled'`. -/
def InvoiceStatus.terminal (status : InvoiceStatus) : Bool :=
  status == .void || status == .cancelled

/-- `PAYABLE_STATUSES`. -/
def InvoiceStatus.payable (status : InvoiceStatus) : Bool :=
  status == .issued || status == .sent || status == .overdue

/-- Values of `cfdi_documents.sat_status`. -/
inductive SatStatus
  | draft
  | vigente
  | cancelPending
  | cancelado
  deriving DecidableEq

/-- Row of `payments`. -/
structure Payment where
  id : Nat
  organizationId : Nat
  clientId : Nat
  amount : Int
  currency : String
  referenceNumber : Option String
  deletedAt : Option Nat
  deriving DecidableEq

/-- Row of `invoices`. -/
structure Invoice where
  id : Nat
  organizationId : Nat
  clientId : Nat
  contractId : Option Nat
  invoiceNumber : String
  issueDate : Nat
  total : Int
  status : InvoiceStatus
  paidAt : Option Nat
  deletedAt : Option Nat
  deriving DecidableEq

/-- Row of `payment_allocations`. -/
structure Allocation where
  id : Nat
  paymentId : Nat
  invoiceId : Nat
  amount : Int
  deletedAt : Option Nat
  deriving DecidableEq

/-- Row of `client_balance_ledger`. -/
structure LedgerEntry where
  id : Nat
  clientId : Nat
  organizationId : Nat
  isCredit : Bool
  amount : Int
  debit : Int
  credit : Int
  currency : String
  referenceType : String
  referenceId : Nat
  description : String

/-- Columns of `cfdi_documents` the void guard reads. -/
structure InvoiceCfdi where
  id : Nat
  invoiceId : Nat
  organizationId : Nat
  satStatus : SatStatus

/-- The billing tables. -/
structure Db where
  payments : List Payment
  invoices : List Invoice
  allocations : List Allocation
  ledger : List LedgerEntry
  cfdis : List InvoiceCfdi

/-- `deleted_at IS NULL`. -/
def Payment.live (row : Payment) : Bool := row.deletedAt.isNone

/-- `deleted_at IS NULL`. -/
def Invoice.live (row : Invoice) : Bool := row.deletedAt.isNone

/-- `deleted_at IS NULL`. -/
def Allocation.live (row : Allocation) : Bool := row.deletedAt.isNone

/-- Same `(payment_id, invoice_id)`, the business key of live allocations. -/
def Allocation.samePair (a b : Allocation) : Bool :=
  a.paymentId == b.paymentId && a.invoiceId == b.invoiceId

/-- `SUM(amount)` of the rows selected by `p`. -/
def sumAmounts (p : Allocation → Bool) (rows : List Allocation) : Int :=
  (rows.map fun row => if p row then row.amount else 0).sum

/-- Live total of the rows whose parent column `side` is `id`. -/
def allocated (side : Allocation → Nat) (id : Nat) (rows : List Allocation) : Int :=
  sumAmounts (fun row => row.live && side row == id) rows

/-- Live total allocated from a payment. -/
def allocatedFrom (paymentId : Nat) (rows : List Allocation) : Int :=
  allocated Allocation.paymentId paymentId rows

/-- Live total allocated to an invoice. -/
def allocatedTo (invoiceId : Nat) (rows : List Allocation) : Int :=
  allocated Allocation.invoiceId invoiceId rows

/-- Row versions the statements store. -/
inductive Write
  | payment (row : Payment)
  | invoice (row : Invoice)
  | allocation (row : Allocation)
  | ledger (row : LedgerEntry)
  | dropLedger (id : Nat)

/-- Store one row version. -/
def Db.apply (db : Db) : Write → Db
  | .payment row => { db with payments := Table.put Payment.id row db.payments }
  | .invoice row => { db with invoices := Table.put Invoice.id row db.invoices }
  | .allocation row => { db with allocations := Table.put Allocation.id row db.allocations }
  | .ledger row => { db with ledger := Table.put LedgerEntry.id row db.ledger }
  | .dropLedger id => { db with ledger := db.ledger.filter fun row => row.id ≠ id }

/-- Primary keys of the tables whose rows are written are distinct. -/
structure Db.WellKeyed (db : Db) : Prop where
  payments : Table.Keyed Payment.id db.payments
  invoices : Table.Keyed Invoice.id db.invoices
  allocations : Table.Keyed Allocation.id db.allocations

theorem Db.WellKeyed.apply {db : Db} (h : db.WellKeyed) (w : Write) : (db.apply w).WellKeyed := by
  cases w with
  | payment row => exact ⟨Table.keyed_put h.payments, h.invoices, h.allocations⟩
  | invoice row => exact ⟨h.payments, Table.keyed_put h.invoices, h.allocations⟩
  | allocation row => exact ⟨h.payments, h.invoices, Table.keyed_put h.allocations⟩
  | ledger row => exact ⟨h.payments, h.invoices, h.allocations⟩
  | dropLedger id => exact ⟨h.payments, h.invoices, h.allocations⟩

end FireIsp.Billing
