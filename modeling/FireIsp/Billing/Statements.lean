import Mathlib.Data.List.Sort
import FireIsp.Base.Program
import FireIsp.Billing.Schema

/-!
# Statements of the billing code

Every SQL statement the allocation routes and `billingService` send, with its exact
`WHERE` clause, its reply, and the row versions it writes.  The four guard triggers of
`payment_allocations` run inside the statements that insert or update its rows and read
without locking.
-/

namespace FireIsp.Billing

/-- Errors a statement can raise. -/
inductive SqlError
  | overAllocation
  /-- 1062 on `uq_payment_allocations_payment_invoice`. -/
  | dupEntry
  | foreignKey
  deriving DecidableEq

/-- Lock keys. -/
inductive Key
  | payment (id : Nat)
  | invoice (id : Nat)
  | allocation (id : Nat)
  /-- Entry of `uq_payment_allocations_payment_invoice`. -/
  | pair (paymentId invoiceId : Nat)
  | ledger (id : Nat)
  deriving DecidableEq

/-- SQL statements. -/
inductive Stmt
  /-- `SELECT * FROM payments WHERE id AND organization_id AND deleted_at IS NULL`. -/
  | selectPayment (id org : Nat) (forUpdate : Bool)
  /-- `SELECT * FROM invoices WHERE id AND organization_id AND deleted_at IS NULL`. -/
  | selectInvoice (id org : Nat)
  /-- `SELECT COALESCE(SUM(amount), 0)` of the live allocations of a payment. -/
  | sumOfPayment (paymentId : Nat)
  /-- `SELECT SUM(amount)` of the live allocations of an invoice. -/
  | sumOfInvoice (invoiceId : Nat)
  | invoicesWithBalance (org clientId : Nat) (ids : Option (List Nat)) (forUpdate : Bool)
  /-- `INSERT INTO payment_allocations`. -/
  | insertAllocation (paymentId invoiceId : Nat) (amount : Int)
  /-- `SELECT * FROM payment_allocations WHERE id`. -/
  | selectAllocation (id : Nat)
  /-- Live allocation of a payment to an invoice, `LIMIT 1`. -/
  | selectLiveAllocation (paymentId invoiceId : Nat)
  /-- `SELECT id, client_id, status FROM invoices WHERE id IN (?, ?)`, live rows only. -/
  | selectInvoicePair (first second : Nat)
  /-- `UPDATE payment_allocations SET deleted_at = NOW() WHERE id`, live rows only on demand. -/
  | softDeleteAllocation (id : Nat) (onlyLive : Bool)
  | selectAllocated (invoiceId : Nat)
  /-- `UPDATE invoices SET status = 'paid', paid_at = NOW() WHERE id`, maybe `AND status <> 'paid'`. -/
  | markPaid (invoiceId : Nat) (unlessPaid : Bool)
  /-- `UPDATE invoices SET status = 'issued', paid_at = NULL WHERE id AND status = 'paid'`. -/
  | markIssued (invoiceId : Nat)
  /-- `SELECT DISTINCT invoice_id` of the live or of the soft-deleted allocations. -/
  | allocatedInvoices (paymentId : Nat) (live : Bool)
  /-- `UPDATE payment_allocations SET deleted_at = NOW() WHERE payment_id`, live rows. -/
  | deleteAllocationsOf (paymentId : Nat)
  /-- `UPDATE payment_allocations SET deleted_at = NULL WHERE payment_id`, deleted rows. -/
  | reviveAllocationsOf (paymentId : Nat)
  /-- `UPDATE payment_allocations SET deleted_at = NOW() WHERE invoice_id`, live rows. -/
  | releaseAllocationsTo (invoiceId : Nat)
  | softDeletePayment (id org : Nat)
  | restorePayment (id org : Nat)
  /-- CFDI of the invoice in status draft, vigente or cancel_pending, `LIMIT 1`. -/
  | selectLiveCfdi (invoiceId org : Nat)
  /-- Live allocation of an invoice of the organization, `LIMIT 1`. -/
  | selectAllocationTo (invoiceId org : Nat)
  /-- `Invoice.update(id, { status })`: affected rows. -/
  | updateStatus (id org : Nat) (status : InvoiceStatus)
  /-- `DELETE FROM client_balance_ledger` of a payment. -/
  | deletePaymentCredit (paymentId : Nat)
  /-- `INSERT INTO client_balance_ledger` of a payment credit. -/
  | insertPaymentCredit (payment : Payment) (org : Nat)
  /-- `DELETE FROM client_balance_ledger` of the credits of an invoice. -/
  | deleteInvoiceCredits (invoiceId clientId : Nat)
  /-- `UPDATE client_balance_ledger SET amount = 0, debit = 0, credit = 0` of an invoice. -/
  | zeroInvoiceLedger (invoiceId clientId : Nat)

/-- Reply type of a statement. -/
@[reducible] def Stmt.Res : Stmt → Type
  | .selectPayment .. => Option Payment
  | .selectInvoice .. => Option Invoice
  | .sumOfPayment _ => Int
  | .sumOfInvoice _ => Int
  | .invoicesWithBalance .. => List (Invoice × Int)
  | .insertAllocation .. => Except SqlError Nat
  | .selectAllocation _ => Option Allocation
  | .selectLiveAllocation .. => Option Allocation
  | .selectInvoicePair .. => List Invoice
  | .softDeleteAllocation .. => Except SqlError Unit
  | .selectAllocated _ => Option (Int × Int)
  | .markPaid .. => Unit
  | .markIssued _ => Unit
  | .allocatedInvoices .. => List Nat
  | .deleteAllocationsOf _ => Except SqlError Unit
  | .reviveAllocationsOf _ => Except SqlError Unit
  | .releaseAllocationsTo _ => Except SqlError Unit
  | .softDeletePayment .. => Nat
  | .restorePayment .. => Nat
  | .selectLiveCfdi .. => Option InvoiceCfdi
  | .selectAllocationTo .. => Option Allocation
  | .updateStatus .. => Nat
  | .deletePaymentCredit _ => Unit
  | .insertPaymentCredit .. => Unit
  | .deleteInvoiceCredits .. => Unit
  | .zeroInvoiceLedger .. => Unit

/-- Rows the guard triggers add to the new amount: live, and not the row being updated. -/
def guardSum (p : Allocation → Bool) (skip : Option Nat) (rows : List Allocation) : Int :=
  sumAmounts (fun row => row.live && some row.id != skip && p row) rows

/-- The guard triggers accept a row version; a comparison with a missing parent is `NULL`. -/
def guardsAccept (db : Db) (new : Allocation) (skip : Option Nat) : Bool :=
  (match db.payments.find? fun row => row.id == new.paymentId with
    | none => true
    | some payment =>
      decide (guardSum (fun row => row.paymentId == new.paymentId) skip db.allocations +
        new.amount ≤ payment.amount)) &&
  (match db.invoices.find? fun row => row.id == new.invoiceId with
    | none => true
    | some invoice =>
      decide (guardSum (fun row => row.invoiceId == new.invoiceId) skip db.allocations +
        new.amount ≤ invoice.total))

/-- Another live row of the same payment and invoice. -/
def pairTaken (db : Db) (new : Allocation) : Bool :=
  db.allocations.any fun row => row.live && row.id != new.id && row.samePair new

/-- `UPDATE payment_allocations SET deleted_at = ?` row by row; one refusal undoes it all. -/
def updateDeletedAt (deletedAt : Option Nat) : List Allocation → Db → Db → Except SqlError (List Write)
  | [], _, _ => .ok []
  | row :: rows, current, view =>
    let new := { row with deletedAt := deletedAt }
    if !guardsAccept view new (some row.id) then .error .overAllocation
    else if new.live && pairTaken current new then .error .dupEntry
    else
      match updateDeletedAt deletedAt rows (current.apply (.allocation new))
        (view.apply (.allocation new)) with
      | .error e => .error e
      | .ok writes => .ok (.allocation new :: writes)

def statementReply (r : Except SqlError (List Write)) : Except SqlError Unit × List Write :=
  match r with
  | .error e => (.error e, [])
  | .ok writes => (.ok (), writes)

/-- `ORDER BY i.issue_date ASC, i.id ASC`. -/
def issuedBefore (a b : Invoice) : Prop :=
  a.issueDate < b.issueDate ∨ (a.issueDate = b.issueDate ∧ a.id ≤ b.id)

instance : DecidableRel issuedBefore := fun _ _ => inferInstanceAs (Decidable (_ ∨ _))

/-- Invoices `getInvoicesWithBalance` selects, oldest first. -/
def payableInvoices (org clientId : Nat) (ids : Option (List Nat)) (invoices : List Invoice) :
    List Invoice :=
  (invoices.filter fun row =>
    row.clientId == clientId && row.organizationId == org && row.live && row.status.payable &&
      (match ids with
        | none => true
        | some [] => true
        | some ids => ids.contains row.id)).insertionSort issuedBefore

/-- Row of `payments` selected by `id`, `organization_id` and `deleted_at IS NULL`. -/
def paymentOf (id org : Nat) (db : Db) : Option Payment :=
  db.payments.find? fun row => row.id == id && row.organizationId == org && row.live

/-- Row of `invoices` selected by `id`, `organization_id` and `deleted_at IS NULL`. -/
def invoiceOf (id org : Nat) (db : Db) : Option Invoice :=
  db.invoices.find? fun row => row.id == id && row.organizationId == org && row.live

/-- Row of `payments` whose `deleted_at` is set. -/
def deletedPaymentOf (id org : Nat) (db : Db) : Option Payment :=
  db.payments.find? fun row => row.id == id && row.organizationId == org && !row.live

def liveAllocationsOf (paymentId : Nat) (db : Db) : List Allocation :=
  db.allocations.filter fun row => row.paymentId == paymentId && row.live

def deletedAllocationsOf (paymentId : Nat) (db : Db) : List Allocation :=
  db.allocations.filter fun row => row.paymentId == paymentId && !row.live

def liveAllocationsTo (invoiceId : Nat) (db : Db) : List Allocation :=
  db.allocations.filter fun row => row.invoiceId == invoiceId && row.live

/-- Versions of the rows matched by `p` after an update. -/
def updates {ρ : Type} (p : ρ → Bool) (f : ρ → ρ) (w : ρ → Write) (rows : List ρ) : List Write :=
  (rows.filter p).map fun row => w (f row)

/-- Reply and written row versions of a statement. -/
def Stmt.exec : (stmt : Stmt) → Nat → Db → Db → stmt.Res × List Write
  | .selectPayment id org forUpdate, _, current, view =>
    (paymentOf id org (if forUpdate then current else view), [])
  | .selectInvoice id org, _, _, view => (invoiceOf id org view, [])
  | .sumOfPayment paymentId, _, _, view => (allocatedFrom paymentId view.allocations, [])
  | .sumOfInvoice invoiceId, _, _, view => (allocatedTo invoiceId view.allocations, [])
  | .invoicesWithBalance org clientId ids forUpdate, _, current, view =>
    ((payableInvoices org clientId ids (if forUpdate then current else view).invoices).map
      fun row => (row, row.total - allocatedTo row.id view.allocations), [])
  | .insertAllocation paymentId invoiceId amount, tick, current, view =>
    let new : Allocation := ⟨tick, paymentId, invoiceId, amount, none⟩
    if !guardsAccept view new none then (.error .overAllocation, [])
    else if pairTaken current new then (.error .dupEntry, [])
    else if (current.payments.any fun row => row.id == paymentId) &&
        current.invoices.any fun row => row.id == invoiceId then
      (.ok tick, [.allocation new])
    else (.error .foreignKey, [])
  | .selectAllocation id, _, _, view => (view.allocations.find? fun row => row.id == id, [])
  | .selectLiveAllocation paymentId invoiceId, _, _, view =>
    (view.allocations.find? fun row =>
      row.paymentId == paymentId && row.invoiceId == invoiceId && row.live, [])
  | .selectInvoicePair first second, _, _, view =>
    (view.invoices.filter fun row => (row.id == first || row.id == second) && row.live, [])
  | .softDeleteAllocation id onlyLive, tick, current, view =>
    statementReply (updateDeletedAt (some tick)
      (current.allocations.filter fun row => row.id == id && (!onlyLive || row.live))
      current view)
  | .selectAllocated invoiceId, _, _, view =>
    ((view.invoices.find? fun row => row.id == invoiceId && row.live).map fun row =>
      (row.total, allocatedTo invoiceId view.allocations), [])
  | .markPaid invoiceId unlessPaid, tick, current, _ =>
    ((), updates (fun row => row.id == invoiceId && !(unlessPaid && row.status == .paid))
      (fun row => { row with status := .paid, paidAt := some tick }) .invoice current.invoices)
  | .markIssued invoiceId, _, current, _ =>
    ((), updates (fun row => row.id == invoiceId && row.status == .paid)
      (fun row => { row with status := .issued, paidAt := none }) .invoice current.invoices)
  | .allocatedInvoices paymentId live, _, _, view =>
    (((if live then liveAllocationsOf paymentId view
      else deletedAllocationsOf paymentId view).map Allocation.invoiceId).dedup, [])
  | .deleteAllocationsOf paymentId, tick, current, view =>
    statementReply (updateDeletedAt (some tick) (liveAllocationsOf paymentId current) current view)
  | .reviveAllocationsOf paymentId, _, current, view =>
    statementReply (updateDeletedAt none (deletedAllocationsOf paymentId current) current view)
  | .releaseAllocationsTo invoiceId, tick, current, view =>
    statementReply (updateDeletedAt (some tick) (liveAllocationsTo invoiceId current) current view)
  | .softDeletePayment id org, tick, current, _ =>
    let matched := paymentOf id org current
    (matched.toList.length,
      matched.toList.map fun row => .payment { row with deletedAt := some tick })
  | .restorePayment id org, _, current, _ =>
    let matched := deletedPaymentOf id org current
    (matched.toList.length,
      matched.toList.map fun row => .payment { row with deletedAt := none })
  | .selectLiveCfdi invoiceId org, _, _, view =>
    (view.cfdis.find? fun row => row.invoiceId == invoiceId && row.organizationId == org &&
      (row.satStatus == .draft || row.satStatus == .vigente ||
        row.satStatus == .cancelPending), [])
  | .selectAllocationTo invoiceId org, _, _, view =>
    (view.allocations.find? fun row => row.invoiceId == invoiceId && row.live &&
      view.invoices.any fun invoice => invoice.id == invoiceId && invoice.organizationId == org,
      [])
  | .updateStatus id org status, _, current, _ =>
    let matched := invoiceOf id org current
    (matched.toList.length, matched.toList.map fun row => .invoice { row with status })
  | .deletePaymentCredit paymentId, _, current, _ =>
    ((), (current.ledger.filter fun row =>
      row.referenceType == "payment" && row.referenceId == paymentId).map fun row =>
        .dropLedger row.id)
  | .insertPaymentCredit payment org, tick, _, _ =>
    ((), [.ledger {
      id := tick
      clientId := payment.clientId
      organizationId := org
      isCredit := true
      amount := payment.amount
      debit := 0
      credit := 0
      currency := payment.currency
      referenceType := "payment"
      referenceId := payment.id
      description := "Payment " ++ payment.referenceNumber.getD (toString payment.id) }])
  | .deleteInvoiceCredits invoiceId clientId, _, current, _ =>
    ((), (current.ledger.filter fun row =>
      row.referenceType == "invoice" && row.referenceId == invoiceId &&
        row.clientId == clientId && row.isCredit).map fun row => .dropLedger row.id)
  | .zeroInvoiceLedger invoiceId clientId, _, current, _ =>
    ((), updates (fun row => row.referenceType == "invoice" && row.referenceId == invoiceId &&
        row.clientId == clientId)
      (fun row => { row with amount := 0, debit := 0, credit := 0 }) .ledger current.ledger)

def Stmt.locks : Stmt → Db → List Key
  | .selectPayment id org forUpdate, db =>
    if forUpdate then (paymentOf id org db).toList.map fun row => .payment row.id else []
  | .invoicesWithBalance org clientId ids forUpdate, db =>
    if forUpdate then (payableInvoices org clientId ids db.invoices).map fun row => .invoice row.id
    else []
  | .insertAllocation paymentId invoiceId _, _ => [.pair paymentId invoiceId]
  | .softDeleteAllocation id onlyLive, db =>
    (db.allocations.filter fun row => row.id == id && (!onlyLive || row.live)).flatMap fun row =>
      [.allocation row.id, .pair row.paymentId row.invoiceId]
  | .markPaid invoiceId _, _ => [.invoice invoiceId]
  | .markIssued invoiceId, _ => [.invoice invoiceId]
  | .deleteAllocationsOf paymentId, db =>
    (liveAllocationsOf paymentId db).flatMap fun row =>
      [.allocation row.id, .pair row.paymentId row.invoiceId]
  | .reviveAllocationsOf paymentId, db =>
    (deletedAllocationsOf paymentId db).flatMap fun row =>
      [.allocation row.id, .pair row.paymentId row.invoiceId]
  | .releaseAllocationsTo invoiceId, db =>
    (liveAllocationsTo invoiceId db).flatMap fun row =>
      [.allocation row.id, .pair row.paymentId row.invoiceId]
  | .softDeletePayment id _, _ => [.payment id]
  | .restorePayment id _, _ => [.payment id]
  | .updateStatus id _ _, _ => [.invoice id]
  | .deletePaymentCredit paymentId, db =>
    (db.ledger.filter fun row =>
      row.referenceType == "payment" && row.referenceId == paymentId).map fun row =>
        .ledger row.id
  | .deleteInvoiceCredits invoiceId _, db =>
    (db.ledger.filter fun row =>
      row.referenceType == "invoice" && row.referenceId == invoiceId).map fun row =>
        .ledger row.id
  | .zeroInvoiceLedger invoiceId _, db =>
    (db.ledger.filter fun row =>
      row.referenceType == "invoice" && row.referenceId == invoiceId).map fun row =>
        .ledger row.id
  | _, _ => []

/-- Statements with a non-locking read, the guard triggers' included. -/
def Stmt.snapshots : Stmt → Bool
  | .selectPayment _ _ forUpdate => !forUpdate
  | .markPaid .. => false
  | .markIssued _ => false
  | .softDeletePayment .. => false
  | .restorePayment .. => false
  | .updateStatus .. => false
  | .deletePaymentCredit _ => false
  | .insertPaymentCredit .. => false
  | .deleteInvoiceCredits .. => false
  | .zeroInvoiceLedger .. => false
  | _ => true

/-- The billing statements as a transactional engine. -/
def engine : Txn.Engine Db Write Key Stmt Stmt.Res where
  apply := Db.apply
  exec := Stmt.exec
  locks := Stmt.locks
  snapshots := Stmt.snapshots

end FireIsp.Billing
