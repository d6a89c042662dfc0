import FireIsp.Billing.Statements

/-!
# Payment and settlement requests

The handlers of `routes/payments.js` and the functions of `billingService` and
`paymentAllocationService` they call, statement by statement.  Calls that leave the
billing tables (reconnecting a contract, generating a REP, writing the audit log) are
outside calls.
-/

namespace FireIsp.Billing

open Txn

/-- Calls that leave the billing tables. -/
inductive Effect
  | reconnectIfSuspended (invoiceId : Nat) (contractId : Option Nat)
  /-- `repService.maybeGenerateRep(paymentId, invoiceId, amount, orgId)`. -/
  | maybeGenerateRep (paymentId invoiceId : Nat) (amount : Int) (org : Nat)
  | auditLog (action table : String) (recordId : Nat)

/-- Only whether a contract was reconnected comes back. -/
@[reducible] def Effect.Answer : Effect → Type
  | .reconnectIfSuspended .. => Bool
  | .maybeGenerateRep .. => Unit
  | .auditLog .. => Unit

/-- Handlers over the billing statements. -/
abbrev Request := Prog Stmt Stmt.Res Effect Effect.Answer

/-- Entry of the `allocations` array `allocate-auto` answers with. -/
structure Applied where
  id : Nat
  invoiceId : Nat
  invoiceNumber : String
  amount : Int
  fullyPaid : Bool
  deriving DecidableEq

/-- Bodies of successful answers. -/
inductive Data
  | none
  | allocation (row : Option Allocation)
  | applied (rows : List Applied) (remainingCredit : Int)
  | unapplied (paymentId invoiceId : Nat)
  | payment (row : Option Payment)
  | invoice (row : Option Invoice)
  deriving DecidableEq

/-- Answers of the handlers. -/
inductive Response
  | ok (status : Nat) (data : Data)
  | error (status : Nat) (code message : String)
  | thrown (err : SqlError)
  deriving DecidableEq

/-- One statement on a given connection. -/
@[simp] def send (via : Via) (stmt : Stmt) : Request stmt.Res := Prog.send via stmt

/-- One pooled statement. -/
@[simp] def query (stmt : Stmt) : Request stmt.Res := send .pool stmt

/-- One statement on the handler's own connection. -/
@[simp] def execute (stmt : Stmt) : Request stmt.Res := send .conn stmt

/-- One call that leaves the billing tables. -/
@[simp] def effect (e : Effect) : Request e.Answer := Prog.ask e

/-- `404 NOT_FOUND`. -/
def notFound (message : String) : Response := .error 404 "NOT_FOUND" message

/-- `422 OVER_ALLOCATION`. -/
def overAllocation : Response :=
  .error 422 "OVER_ALLOCATION" "Allocation would exceed the invoice or payment total."

/-- Column value of a status. -/
def InvoiceStatus.text : InvoiceStatus → String
  | .draft => "draft"
  | .issued => "issued"
  | .sent => "sent"
  | .paid => "paid"
  | .overdue => "overdue"
  | .cancelled => "cancelled"
  | .void => "void"

def refreshInvoicePaidStatus (invoiceId : Nat) : Request Unit := do
  match ← query (.selectAllocated invoiceId) with
  | none => return ()
  | some (total, allocated) =>
    if total ≤ allocated then query (.markPaid invoiceId true)
    else query (.markIssued invoiceId)

/-- The refresh loop over the touched invoices. -/
def refreshAll : List Nat → Request Unit
  | [] => return ()
  | invoiceId :: rest => do
      refreshInvoicePaidStatus invoiceId
      refreshAll rest

/-- `finalizeIfFullyPaid`, on the pool or on the open transaction. -/
def finalizeIfFullyPaid (via : Via) (invoice : Invoice) : Request Bool := do
  let totalAllocated ← send via (.sumOfInvoice invoice.id)
  if totalAllocated < invoice.total then return false
  send via (.markPaid invoice.id false)
  return true

/-- The insert of `allocate` and everything after it, once payment and invoice are verified. -/
def applyAllocation (org paymentId : Nat) (invoice : Invoice) (amount : Int) :
    Request Response := do
  match ← query (.insertAllocation paymentId invoice.id amount) with
  | .error .overAllocation => return overAllocation
  | .error err => return .thrown err
  | .ok id =>
  let allocation ← query (.selectAllocation id)
  let becamePaid ← finalizeIfFullyPaid .pool invoice
  if becamePaid then
    let _ ← effect (.reconnectIfSuspended invoice.id invoice.contractId)
  effect (.maybeGenerateRep paymentId invoice.id amount org)
  return .ok 201 (.allocation allocation)

/-- `POST /payments/:id/allocate`. -/
def allocate (org paymentId invoiceId : Nat) (amount : Int) : Request Response := do
  match ← query (.selectPayment paymentId org false) with
  | none => return notFound "Payment not found."
  | some _ =>
  match ← query (.selectInvoice invoiceId org) with
  | none => return notFound "Invoice not found."
  | some invoice =>
  if invoice.status.terminal then
    return .error 422 "INVOICE_NOT_PAYABLE"
      ("Cannot apply a payment to a " ++ invoice.status.text ++ " invoice.")
  else applyAllocation org paymentId invoice amount

/-- Progress of the `allocate-auto` loop. -/
structure Waterfall where
  remainder : Int
  applied : List Applied
  justPaid : List Invoice

/-- The `allocate-auto` loop; `none` after the rollback on a guard refusal. -/
def waterfall (paymentId : Nat) : List (Invoice × Int) → Waterfall →
    Request (Except Response Waterfall)
  | [], progress => return .ok progress
  | (invoice, balanceDue) :: rest, progress =>
    if progress.remainder ≤ 0 then return .ok progress
    else if max 0 balanceDue ≤ 0 then waterfall paymentId rest progress
    else do
      let applyAmount := min progress.remainder (max 0 balanceDue)
      match ← execute (.insertAllocation paymentId invoice.id applyAmount) with
      | .error .overAllocation => do
          Prog.rollbackNow
          return .error overAllocation
      | .error .dupEntry => waterfall paymentId rest progress
      | .error .foreignKey => do
          Prog.rollbackNow
          return .error (.thrown .foreignKey)
      | .ok id => do
          let becamePaid ← finalizeIfFullyPaid .conn invoice
          waterfall paymentId rest {
            remainder := progress.remainder - applyAmount
            applied := progress.applied ++
              [⟨id, invoice.id, invoice.invoiceNumber, applyAmount, becamePaid⟩]
            justPaid := if becamePaid then progress.justPaid ++ [invoice]
              else progress.justPaid }

/-- Reconnect calls after the commit. -/
def reconnectAll : List Invoice → Request Unit
  | [] => return ()
  | invoice :: rest => do
      let _ ← effect (.reconnectIfSuspended invoice.id invoice.contractId)
      reconnectAll rest

/-- REP calls after the commit. -/
def generateReps (org paymentId : Nat) : List Applied → Request Unit
  | [] => return ()
  | row :: rest => do
      effect (.maybeGenerateRep paymentId row.invoiceId row.amount org)
      generateReps org paymentId rest

/-- Requested ids that were not selected. -/
def missingIds (ids : Option (List Nat)) (rows : List (Invoice × Int)) : List Nat :=
  (ids.getD []).filter fun id => !(rows.any fun row => row.1.id == id)

def refuse (response : Response) : Request Response := do
  Prog.rollbackNow
  return response

/-- The loop of `allocate-auto`, its commit and everything after it. -/
def distribute (org paymentId : Nat) (rows : List (Invoice × Int)) (remainder : Int) :
    Request Response := do
  match ← waterfall paymentId rows ⟨remainder, [], []⟩ with
  | .error response => return response
  | .ok progress =>
  Prog.commitNow
  reconnectAll progress.justPaid
  generateReps org paymentId progress.applied
  return .ok 201 (.applied progress.applied progress.remainder)

/-- `POST /payments/:id/allocate-auto`; `ids` are the validated `invoice_ids`. -/
def allocateAuto (org paymentId : Nat) (ids : Option (List Nat)) : Request Response := do
  if ids = some [] then
    return .error 422 "VALIDATION_ERROR"
      "invoice_ids must be a non-empty array of positive integers."
  else
  Prog.begin
  match ← execute (.selectPayment paymentId org true) with
  | none => refuse (notFound "Payment not found.")
  | some payment =>
  let allocated ← execute (.sumOfPayment paymentId)
  let remainder := payment.amount - allocated
  if remainder ≤ 0 then
    refuse (.error 422 "PAYMENT_FULLY_ALLOCATED"
      "This payment has no remaining balance to allocate.")
  else
  let rows ← execute (.invoicesWithBalance org payment.clientId ids true)
  if missingIds ids rows ≠ [] then
    refuse (.error 422 "INVOICE_NOT_PAYABLE"
      ("Invoice id(s) " ++ ", ".intercalate ((missingIds ids rows).map toString) ++
        " are not payable invoices for this payment's client."))
  else distribute org paymentId rows remainder

/-- The writes of `reallocate` and everything after them. -/
def replaceAllocation (org paymentId existingId fromId toId : Nat) (moveAmount : Int) :
    Request Response := do
  match ← execute (.softDeleteAllocation existingId true) with
  | .error err => refuse (.thrown err)
  | .ok () =>
  match ← execute (.insertAllocation paymentId toId moveAmount) with
  | .error .overAllocation => refuse overAllocation
  | .error .dupEntry => refuse (.error 422 "ALLOCATION_EXISTS"
      "This payment is already applied to that invoice.")
  | .error err => refuse (.thrown err)
  | .ok newAllocId =>
  Prog.commitNow
  refreshInvoicePaidStatus fromId
  refreshInvoicePaidStatus toId
  effect (.maybeGenerateRep paymentId toId moveAmount org)
  let row ← query (.selectAllocation newAllocId)
  return .ok 201 (.allocation row)

/-- The invoice checks of `reallocate`. -/
def moveAllocation (org paymentId : Nat) (payment : Payment) (existing : Allocation)
    (fromId toId : Nat) (moveAmount : Int) : Request Response := do
  let invRows ← execute (.selectInvoicePair fromId toId)
  match invRows.find? (fun row => row.id == fromId), invRows.find? (fun row => row.id == toId) with
  | none, _ => refuse (notFound "from_invoice_id not found.")
  | some _, none => refuse (notFound "to_invoice_id not found.")
  | some fromInv, some toInv =>
  if toInv.status.terminal then
    refuse (.error 422 "INVOICE_NOT_PAYABLE"
      ("Cannot reallocate a payment to a " ++ toInv.status.text ++ " invoice."))
  else if toInv.clientId ≠ payment.clientId then
    refuse (.error 422 "CROSS_CLIENT_REALLOCATION"
      "to_invoice_id belongs to a different client. Reassign the payment to that client first.")
  else if fromInv.clientId ≠ payment.clientId then
    refuse (.error 422 "CROSS_CLIENT_REALLOCATION"
      "from_invoice_id belongs to a different client than this payment.")
  else replaceAllocation org paymentId existing.id fromId toId moveAmount

/-- `POST /payments/:id/reallocate`; `amount` is whatever number the body carries. -/
def reallocate (org paymentId fromId toId : Nat) (amount : Option Int) : Request Response := do
  if fromId = toId then
    return .error 422 "VALIDATION_ERROR" "from_invoice_id and to_invoice_id must differ."
  else
  Prog.begin
  match ← execute (.selectPayment paymentId org false) with
  | none => refuse (notFound "Payment not found.")
  | some payment =>
  match ← execute (.selectLiveAllocation paymentId fromId) with
  | none => refuse (.error 422 "ALLOCATION_NOT_FOUND"
      "This payment has no live allocation to from_invoice_id.")
  | some existing =>
  moveAllocation org paymentId payment existing fromId toId (amount.getD existing.amount)

/-- The writes of `unapply` and everything after them. -/
def removeAllocation (paymentId invoiceId rowId : Nat) : Request Response := do
  match ← execute (.softDeleteAllocation rowId false) with
  | .error err => refuse (.thrown err)
  | .ok () =>
  Prog.commitNow
  refreshInvoicePaidStatus invoiceId
  return .ok 200 (.unapplied paymentId invoiceId)

/-- `POST /payments/:id/unapply`; the body id is present. -/
def unapply (org paymentId invoiceId : Nat) : Request Response := do
  Prog.begin
  match ← execute (.selectPayment paymentId org false) with
  | none => refuse (notFound "Payment not found.")
  | some _ =>
  match ← execute (.selectLiveAllocation paymentId invoiceId) with
  | none => refuse (.error 422 "ALLOCATION_NOT_FOUND"
      "This payment is not applied to that invoice.")
  | some row => removeAllocation paymentId invoiceId row.id

/-- `reversePaymentAllocations`; a database error ends it. -/
def reversePaymentAllocations (paymentId : Nat) : Request (Except SqlError Unit) := do
  let invoiceIds ← query (.allocatedInvoices paymentId true)
  if invoiceIds = [] then return .ok ()
  match ← query (.deleteAllocationsOf paymentId) with
  | .error err => return .error err
  | .ok () =>
  refreshAll invoiceIds
  return .ok ()

/-- `restorePaymentAllocations`; a database error ends it. -/
def restorePaymentAllocations (paymentId : Nat) : Request (Except SqlError Unit) := do
  let invoiceIds ← query (.allocatedInvoices paymentId false)
  if invoiceIds = [] then return .ok ()
  match ← query (.reviveAllocationsOf paymentId) with
  | .error err => return .error err
  | .ok () =>
  refreshAll invoiceIds
  return .ok ()

/-- `DELETE /payments/:id` with its `afterDelete` hook, whose errors are swallowed. -/
def deletePayment (org paymentId : Nat) : Request Response := do
  match ← query (.selectPayment paymentId org false) with
  | none => return notFound "payments"
  | some old =>
  let affected ← query (.softDeletePayment paymentId org)
  if affected = 0 then return notFound "payments"
  effect (.auditLog "soft_delete" "payments" paymentId)
  query (.deletePaymentCredit old.id)
  let _ ← reversePaymentAllocations old.id
  return .ok 204 .none

/-- `POST /payments/:id/restore` with its `afterRestore` hook, whose errors are swallowed. -/
def restorePayment (org paymentId : Nat) : Request Response := do
  let affected ← query (.restorePayment paymentId org)
  if affected = 0 then return notFound "payments"
  match ← query (.selectPayment paymentId org false) with
  | none => return .ok 200 (.payment none)
  | some payment =>
  effect (.auditLog "restore" "payments" payment.id)
  query (.deletePaymentCredit payment.id)
  query (.insertPaymentCredit payment org)
  let _ ← restorePaymentAllocations payment.id
  return .ok 200 (.payment (some payment))

/-- The ledger part of a first settlement and the audit entry. -/
def settleLedger (existing : Invoice) (action : String) (record : Option Invoice) :
    Request Response := do
  query (.deleteInvoiceCredits existing.id existing.clientId)
  query (.zeroInvoiceLedger existing.id existing.clientId)
  effect (.auditLog action "invoices" existing.id)
  return .ok 200 (.invoice record)

/-- `settleInvoiceTerminal` after its status update. -/
def finishSettlement (existing : Invoice) (action : String) (record : Option Invoice) :
    Request Response := do
  if existing.status.terminal then
    effect (.auditLog action "invoices" existing.id)
    return .ok 200 (.invoice record)
  else if existing.status = .paid then
    match ← query (.releaseAllocationsTo existing.id) with
    | .error err => return .thrown err
    | .ok () => settleLedger existing action record
  else settleLedger existing action record

def settleInvoiceTerminal (invoiceId org : Nat) (status : TerminalStatus) (action : String)
    (forbidFrom : List InvoiceStatus) : Request Response := do
  match ← query (.selectInvoice invoiceId org) with
  | none => return notFound "invoices"
  | some existing =>
  if forbidFrom.contains existing.status then
    return .error 422 "INVOICE_CANCELLED"
      "This invoice was cancelled at SAT — it is fiscally terminal and cannot be voided."
  else
  let affected ← query (.updateStatus invoiceId org status.status)
  if affected = 0 then return notFound "invoices"
  else
  let record ← query (.selectInvoice invoiceId org)
  finishSettlement existing action record

def cancelInvoiceForSat (invoiceId org : Nat) : Request Response :=
  settleInvoiceTerminal invoiceId org .cancelled "cancel_cfdi" []

/-- `422 INVOICE_STAMPED`. -/
def invoiceStamped (cfdi : InvoiceCfdi) : Response :=
  .error 422 "INVOICE_STAMPED" <|
    if cfdi.satStatus = .draft then
      "This invoice has a draft CFDI (#" ++ toString cfdi.id ++ ") awaiting stamping. " ++
        "Delete the draft on the CFDI page first, then void."
    else
      "This invoice has a stamped CFDI that is still valid at SAT. " ++
        "Cancel the CFDI at SAT (with a motivo) instead of voiding it."

/-- `422 INVOICE_HAS_PAYMENTS`. -/
def invoiceHasPayments : Response :=
  .error 422 "INVOICE_HAS_PAYMENTS"
    ("This invoice has payment(s) allocated to it. Deallocate the payment(s) first " ++
      "(each becomes unallocated client credit, ready to reallocate), then void the invoice.")

def voidInvoiceById (invoiceId org : Nat) : Request Response := do
  match ← query (.selectLiveCfdi invoiceId org) with
  | some cfdi => return invoiceStamped cfdi
  | none =>
  match ← query (.selectAllocationTo invoiceId org) with
  | some _ => return invoiceHasPayments
  | none => settleInvoiceTerminal invoiceId org .void "void" [.cancelled]

end FireIsp.Billing
