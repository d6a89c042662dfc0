import FireIsp.Base.Session
import Mathlib.Algebra.Ring.Int.Defs
import Mathlib.Algebra.Ring.Nat

/-!
# Tables of the payment gateway

Gateway transactions with the invoices they settle, the ledger entries that refer to them, the
webhook events about them and the retries of their charges, and the statements `paymentGatewayService` sends.  Amounts are in cents.
-/

namespace FireIsp.Gateway

open Txn

inductive GatewayStatus
  | pending
  | succeeded
  | failed
  | refunded
  | disputed
  | cancelled
  deriving DecidableEq

/-- Row of `payment_transactions`. -/
structure Transaction where
  id : Nat
  organizationId : Nat
  paymentGatewayId : Nat
  clientId : Nat
  amount : Int
  currency : String
  gatewayReferenceId : String
  gatewayStatus : GatewayStatus
  invoiceId : Option Nat
  settledInvoiceId : Option Nat
  deriving DecidableEq

inductive Provider
  | stripe
  | conekta
  | manual
  | unsupported

/-- Row of `payment_gateways`. -/
structure PaymentGateway where
  id : Nat
  provider : Provider

/-- `invoices.status`. -/
inductive InvoiceStatus
  | draft
  | issued
  | sent
  | paid
  | overdue
  | cancelled
  | void
  deriving DecidableEq

/-- Row of `invoices`. -/
structure Invoice where
  id : Nat
  organizationId : Option Nat
  clientId : Nat
  status : InvoiceStatus
  total : Int
  dueDate : Int

inductive EntryType
  | invoice
  | payment
  | creditNote
  | adjustment
  | topup
  | usageDeduction
  | debit
  | credit
  deriving DecidableEq

/-- Row of `client_balance_ledger`. -/
structure LedgerEntry where
  clientId : Nat
  organizationId : Option Nat
  entryType : EntryType
  amount : Int
  currency : String
  referenceType : String
  referenceId : Option Nat
  description : String

/-- `webhook_events.status`. -/
inductive EventStatus
  | processing
  | processed
  | failed
  | ignored

/-- Row of `webhook_events`; the payload is never read from it. -/
structure WebhookEvent where
  id : Nat
  organizationId : Option Nat
  provider : String
  providerEventId : String
  eventType : String
  status : EventStatus
  transactionId : Option Nat

def WebhookEvent.orgDedup (row : WebhookEvent) : Nat := row.organizationId.getD 0

/-- `payment_retries.status`. -/
inductive RetryStatus
  | pending
  | processing
  | succeeded
  | exhausted
  | cancelled
  deriving DecidableEq

/-- Row of `payment_retries`. -/
structure Retry where
  id : Nat
  organizationId : Nat
  transactionId : Nat
  clientId : Nat
  invoiceId : Option Nat
  recurringProfileId : Option Nat
  amount : Int
  currency : String
  attemptNumber : Nat
  maxAttempts : Nat
  status : RetryStatus
  nextRetryAt : Option Nat
  createdAt : Nat

/-- Which retries are cancelled. -/
inductive RetryFilter
  | ofId (id : Nat)
  | ofTransaction (id : Nat)
  | ofInvoice (id : Nat)
  | ofClient (id : Nat)

def RetryFilter.takes (row : Retry) : RetryFilter → Bool
  | .ofId id => decide (row.id = id)
  | .ofTransaction id => decide (row.transactionId = id)
  | .ofInvoice id => decide (row.invoiceId = some id)
  | .ofClient id => decide (row.clientId = id)

def Retry.cancelledBy (row : Retry) (filter : RetryFilter) : Retry :=
  if (row.status = .pending ∨ row.status = .processing) ∧ filter.takes row = true then
    { row with status := .cancelled, nextRetryAt := none }
  else row

/-- Tables. -/
structure Db where
  transactions : List Transaction
  gateways : List PaymentGateway
  invoices : List Invoice
  ledger : List LedgerEntry
  events : List WebhookEvent
  retries : List Retry

/-- What one statement changes. -/
inductive Write
  | status (id : Nat) (status : GatewayStatus) (reference : Option String)
  | settled (id invoiceId : Nat)
  | invoice (id : Nat) (status : InvoiceStatus)
  | entry (row : LedgerEntry)
  | event (row : WebhookEvent)
  | eventStatus (id : Nat) (status : EventStatus) (transactionId : Option Nat)
  | cancelled (filter : RetryFilter)

/-- Rows a transaction can lock. -/
inductive Key
  | transaction (id : Nat)
  | invoice (id : Nat)
  deriving DecidableEq

/-- Statements. -/
inductive Stmt
  /-- The event of a partition that is there already. -/
  | selectEvent (provider providerEventId : String) (orgDedup : Nat)
  /-- `INSERT INTO webhook_events`: the new id, or `none` on a duplicate key. -/
  | insertEvent (organizationId : Option Nat) (provider providerEventId eventType : String)
  /-- `UPDATE webhook_events SET status, transaction_id`. -/
  | markEvent (id : Nat) (status : EventStatus) (transactionId : Option Nat)
  /-- The transaction of a reference, confined to a tenant if one is given. -/
  | findByReference (reference : String) (organizationId : Option Nat)
  /-- The transaction of an id, confined to a tenant if one is given. -/
  | findById (id : Nat) (organizationId : Option Nat)
  /-- `UPDATE payment_transactions SET gateway_status`. -/
  | setStatus (id : Nat) (status : GatewayStatus)
  /-- One transaction, `FOR UPDATE`. -/
  | lockTransaction (id : Nat)
  /-- One invoice of a client, `FOR UPDATE`. -/
  | lockInvoice (id clientId organizationId : Nat)
  /-- The oldest issued invoice of a client, `FOR UPDATE`. -/
  | lockOldest (clientId organizationId : Nat)
  /-- `UPDATE invoices SET status = 'paid'`. -/
  | markPaid (id : Nat)
  /-- `UPDATE payment_transactions SET settled_invoice_id`. -/
  | setSettled (id invoiceId : Nat)
  /-- `INSERT INTO client_balance_ledger`: whether the amount fits its column. -/
  | insertEntry (row : LedgerEntry)
  | selectEntry (transactionId : Nat) (entryType : EntryType)
  /-- `UPDATE invoices SET status = 'issued' WHERE status = 'paid'`. -/
  | reopen (id : Nat)
  /-- A transaction with the provider of its gateway. -/
  | selectRefundable (id : Nat)
  /-- `UPDATE payment_transactions SET gateway_status = 'refunded', gateway_reference_id`. -/
  | markRefunded (id : Nat) (reference : Option String)
  | cancelRetries (filter : RetryFilter)

/-- Reply type of a statement. -/
@[reducible] def Stmt.Res : Stmt → Type
  | .selectEvent .. => Option Nat
  | .insertEvent .. => Option Nat
  | .findByReference .. => Option Transaction
  | .findById .. => Option Transaction
  | .lockTransaction _ => Option Transaction
  | .lockInvoice .. => Option Invoice
  | .lockOldest .. => Option Invoice
  | .insertEntry _ => Bool
  | .selectEntry .. => Bool
  | .selectRefundable _ => Option (Transaction × Provider)
  | _ => Unit

def Db.transaction (db : Db) (id : Nat) : Option Transaction :=
  db.transactions.find? fun row => row.id == id

def updated (id : Nat) (change : Transaction → Transaction) (rows : List Transaction) :
    List Transaction :=
  rows.map fun row => if row.id = id then change row else row

/-- Change the tables. -/
def Db.apply (db : Db) : Write → Db
  | .status id status reference =>
    { db with transactions := updated id (fun row =>
        { row with
          gatewayStatus := status
          gatewayReferenceId := reference.getD row.gatewayReferenceId }) db.transactions }
  | .settled id invoiceId =>
    { db with transactions :=
        updated id (fun row => { row with settledInvoiceId := some invoiceId }) db.transactions }
  | .invoice id status =>
    { db with invoices := db.invoices.map fun row =>
        if row.id = id then { row with status } else row }
  | .entry row => { db with ledger := db.ledger ++ [row] }
  | .event row => { db with events := db.events ++ [row] }
  | .eventStatus id status transactionId =>
    { db with events := db.events.map fun row =>
        if row.id = id then
          { row with status, transactionId := transactionId.or row.transactionId }
        else row }
  | .cancelled filter => { db with retries := db.retries.map fun row => row.cancelledBy filter }

/-- The transaction is of the tenant, if one is given. -/
def Transaction.isOf (organizationId : Option Nat) (row : Transaction) : Bool :=
  organizationId.all fun id => decide (row.organizationId = id)

def LedgerEntry.isOf (transactionId : Nat) (row : LedgerEntry) : Bool :=
  decide (row.referenceType = "payment_transaction" ∧ row.referenceId = some transactionId)

/-- `ORDER BY due_date ASC LIMIT 1`. -/
def earliestDue : List Invoice → Option Invoice
  | [] => none
  | row :: rows =>
    match earliestDue rows with
    | none => some row
    | some best => if best.dueDate < row.dueDate then some best else some row

def Db.oldestIssued (db : Db) (clientId organizationId : Nat) : Option Invoice :=
  earliestDue (db.invoices.filter fun row => decide (row.clientId = clientId ∧
    row.organizationId = some organizationId ∧ row.status = .issued))

def Db.invoiceOf (db : Db) (id clientId organizationId : Nat) : Option Invoice :=
  db.invoices.find? fun row => decide (row.id = id ∧ row.clientId = clientId ∧
    row.organizationId = some organizationId)

/-- The event of a partition. -/
def Db.event (db : Db) (provider providerEventId : String) (orgDedup : Nat) :
    Option WebhookEvent :=
  db.events.find? fun row => decide (row.provider = provider ∧
    row.providerEventId = providerEventId ∧ row.orgDedup = orgDedup)

/-- `DECIMAL(10, 2)`. -/
def fitsLedger (amount : Int) : Bool := decide (amount.natAbs < 10 ^ 10)

/-- Reply and changes of a statement; `seen` is the state its consistent reads see. -/
def exec (tick : Nat) (current seen : Db) : (op : Stmt) → op.Res × List Write
  | .selectEvent provider providerEventId orgDedup =>
    ((seen.event provider providerEventId orgDedup).map WebhookEvent.id, [])
  | .insertEvent organizationId provider providerEventId eventType =>
    if (current.event provider providerEventId (organizationId.getD 0)).isSome then (none, [])
    else (some tick, [.event {
      id := tick
      organizationId
      provider
      providerEventId
      eventType
      status := .processing
      transactionId := none }])
  | .markEvent id status transactionId => ((), [.eventStatus id status transactionId])
  | .findByReference reference organizationId =>
    (seen.transactions.find? fun row =>
      decide (row.gatewayReferenceId = reference) && row.isOf organizationId, [])
  | .findById id organizationId =>
    ((seen.transaction id).filter (Transaction.isOf organizationId), [])
  | .setStatus id status => ((), [.status id status none])
  | .lockTransaction id => (current.transaction id, [])
  | .lockInvoice id clientId organizationId =>
    (current.invoiceOf id clientId organizationId, [])
  | .lockOldest clientId organizationId => (current.oldestIssued clientId organizationId, [])
  | .markPaid id => ((), [.invoice id .paid])
  | .setSettled id invoiceId => ((), [.settled id invoiceId])
  | .insertEntry row => if fitsLedger row.amount then (true, [.entry row]) else (false, [])
  | .selectEntry transactionId entryType =>
    (seen.ledger.any fun row => row.isOf transactionId && decide (row.entryType = entryType), [])
  | .reopen id =>
    ((), if (current.invoices.any fun row => decide (row.id = id ∧ row.status = .paid)) then
      [.invoice id .issued] else [])
  | .selectRefundable id =>
    ((seen.transaction id).bind fun row =>
      (seen.gateways.find? fun gateway => gateway.id == row.paymentGatewayId).map
        fun gateway => (row, gateway.provider), [])
  | .markRefunded id reference => ((), [.status id .refunded reference])
  | .cancelRetries filter => ((), [.cancelled filter])

/-- Rows a statement locks. -/
def locks : Stmt → Db → List Key
  | .setStatus id _, _ => [.transaction id]
  | .lockTransaction id, _ => [.transaction id]
  | .lockInvoice id _ _, _ => [.invoice id]
  | .lockOldest clientId organizationId, db =>
    match db.oldestIssued clientId organizationId with
    | some row => [.invoice row.id]
    | none => []
  | .markPaid id, _ => [.invoice id]
  | .setSettled id _, _ => [.transaction id]
  | .reopen id, _ => [.invoice id]
  | .markRefunded id _, _ => [.transaction id]
  | _, _ => []

/-- The statement contains a consistent read. -/
def reads : Stmt → Bool
  | .selectEvent .. => true
  | .findByReference .. => true
  | .findById .. => true
  | .selectEntry .. => true
  | .selectRefundable _ => true
  | _ => false

/-- The payment gateway's tables as a transactional engine. -/
def engine : Engine Db Write Key Stmt Stmt.Res where
  apply := Db.apply
  exec := fun op tick current seen => exec tick current seen op
  locks := locks
  snapshots := reads

end FireIsp.Gateway
