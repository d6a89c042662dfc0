import FireIsp.Billing.Requests

/-!
# Group payments

`payGroup` of `groupBillingService`: one payment on the primary member of a shared group,
spread over the open invoices of all members, oldest first.  Money is in cents, so the
half-cent tolerances of the source compare with zero.
-/

namespace FireIsp.Billing

open Txn

/-- Values of `client_groups.billing_mode`. -/
inductive BillingMode
  | separate
  | shared
  deriving DecidableEq

/-- Row of `client_groups`. -/
structure ClientGroup where
  id : Nat
  organizationId : Nat
  billingMode : BillingMode
  primaryClientId : Option Nat
  deletedAt : Option Nat

/-- Columns of `clients` the membership query reads. -/
structure Client where
  id : Nat
  organizationId : Nat
  clientGroupId : Option Nat
  deletedAt : Option Nat

/-- The billing tables and what group billing reads besides. -/
structure GroupDb where
  books : Db
  groups : List ClientGroup
  clients : List Client
  invoiceCurrency : Nat → String
  getCurrency : Nat → String

/-- Row of `getInvoicesWithBalance`. -/
structure OpenInvoice where
  invoice : Invoice
  balanceDue : Int
  currency : String

/-- `Math.max(0, balance_due)`. -/
def OpenInvoice.due (row : OpenInvoice) : Int := max 0 row.balanceDue

inductive GroupStmt
  /-- A statement shared with the payment routes. -/
  | billing (stmt : Stmt)
  | selectGroup (id org : Nat)
  | selectMembers (groupId org : Nat)
  /-- `getInvoicesWithBalance … FOR UPDATE` of one member. -/
  | openInvoices (org clientId : Nat)
  | selectCurrency (org : Nat)
  /-- `INSERT INTO payments`: its id. -/
  | insertPayment (org clientId : Nat) (amount : Int) (currency : String)
      (referenceNumber : Option String)
  /-- `INSERT INTO client_balance_ledger` of one member. -/
  | insertGroupCredit (clientId org : Nat) (amount : Int) (currency : String) (paymentId : Nat)

/-- Reply type of a statement. -/
@[reducible] def GroupStmt.Res : GroupStmt → Type
  | .billing stmt => stmt.Res
  | .selectGroup .. => Option ClientGroup
  | .selectMembers .. => List Nat
  | .openInvoices .. => List OpenInvoice
  | .selectCurrency _ => String
  | .insertPayment .. => Nat
  | .insertGroupCredit .. => Unit

/-- Open invoices of one client, as `getInvoicesWithBalance` lists them. -/
def GroupDb.openInvoices (current view : GroupDb) (org clientId : Nat) : List OpenInvoice :=
  (payableInvoices org clientId none current.books.invoices).map fun row =>
    ⟨row, row.total - allocatedTo row.id view.books.allocations, view.invoiceCurrency row.id⟩

/-- Ids of the members of a group, in order. -/
def GroupDb.members (db : GroupDb) (groupId org : Nat) : List Nat :=
  ((db.clients.filter fun row =>
    row.clientGroupId == some groupId && row.deletedAt.isNone && row.organizationId == org).map
      Client.id).insertionSort (· ≤ ·)

/-- Reply and written row versions of a statement. -/
def GroupStmt.exec : (stmt : GroupStmt) → Nat → GroupDb → GroupDb → stmt.Res × List Write
  | .billing stmt, tick, current, view => stmt.exec tick current.books view.books
  | .selectGroup id org, _, _, view =>
    (view.groups.find? fun row => row.id == id && row.organizationId == org &&
      row.deletedAt.isNone, [])
  | .selectMembers groupId org, _, _, view => (view.members groupId org, [])
  | .openInvoices org clientId, _, current, view => (current.openInvoices view org clientId, [])
  | .selectCurrency org, _, _, view => (view.getCurrency org, [])
  | .insertPayment org clientId amount currency referenceNumber, tick, _, _ =>
    (tick, [.payment ⟨tick, org, clientId, amount, currency, referenceNumber, none⟩])
  | .insertGroupCredit clientId org amount currency paymentId, tick, _, _ =>
    ((), [.ledger {
      id := tick
      clientId
      organizationId := org
      isCredit := true
      amount
      debit := 0
      credit := 0
      currency
      referenceType := "payment"
      referenceId := paymentId
      description := "Group payment " ++ toString paymentId }])

/-- Store one row version. -/
def GroupDb.apply (db : GroupDb) (w : Write) : GroupDb := { db with books := db.books.apply w }

/-- Group billing as a transactional engine. -/
def groupEngine : Txn.Engine GroupDb Write Key GroupStmt GroupStmt.Res where
  apply := GroupDb.apply
  exec := GroupStmt.exec
  locks stmt db := match stmt with
    | .billing stmt => stmt.locks db.books
    | .openInvoices org clientId =>
      (payableInvoices org clientId none db.books.invoices).map fun row => .invoice row.id
    | _ => []
  snapshots := fun
    | .billing stmt => stmt.snapshots
    | .insertPayment .. => false
    | .insertGroupCredit .. => false
    | _ => true

/-- Services over the statements of group billing. -/
abbrev GroupRequest := Prog GroupStmt GroupStmt.Res Effect Effect.Answer

/-- One pooled statement of group billing. -/
@[simp] def groupQuery (stmt : GroupStmt) : GroupRequest stmt.Res := Prog.send .pool stmt

/-- One statement on the service's own connection. -/
@[simp] def groupExecute (stmt : GroupStmt) : GroupRequest stmt.Res := Prog.send .conn stmt

/-- A billing program as part of a group service. -/
def embed {A : Type} : Request A → GroupRequest A
  | .done value => .done value
  | .start next => .start (embed next)
  | .commit next => .commit (embed next)
  | .rollback next => .rollback (embed next)
  | .stmt via stmt next => .stmt via (.billing stmt) fun r => embed (next r)
  | .call e next => .call e fun r => embed (next r)

/-- What a service throws. -/
inductive Refusal
  | notFound (resource : String)
  | validation (message : String)
  | thrown (err : SqlError)

/-- Options of `payGroup`. -/
structure PayOptions where
  /-- Amount to pay; the full payable total when absent. -/
  amount : Option Int
  referenceNumber : Option String
  /-- Invoices to settle; all open ones when absent. -/
  invoiceIds : Option (List Int)

/-- Entry of `settled_invoices`. -/
structure SettledInvoice where
  invoiceId : Nat
  invoiceNumber : String
  clientId : Nat
  amount : Int

/-- Settlement summary. -/
structure Settlement where
  paymentId : Nat
  clientId : Nat
  amount : Int
  currency : String
  allocatedTotal : Int
  unallocatedCredit : Int
  settledInvoices : List SettledInvoice
  fullyPaidCount : Nat

def abandon {A : Type} (refusal : Refusal) : GroupRequest (Except Refusal A) := do
  Prog.rollbackNow
  return .error refusal

/-- `loadSharedGroup`: the primary member and all members. -/
def loadSharedGroup (org groupId : Nat) : GroupRequest (Except Refusal (Nat × List Nat)) := do
  match ← groupQuery (.selectGroup groupId org) with
  | none => return .error (.notFound "Client group")
  | some group =>
  if group.billingMode ≠ .shared then
    return .error (.validation ("This group is not a shared-billing group. Set its billing mode " ++
      "to \"shared\" and designate a primary member first."))
  else if group.primaryClientId.getD 0 = 0 then
    return .error (.validation ("This shared group has no primary member designated. Set a " ++
      "primary member before billing the group."))
  else
  let memberIds ← groupQuery (.selectMembers groupId org)
  if group.primaryClientId.getD 0 ∉ memberIds then
    return .error (.validation "The designated primary member does not belong to this group.")
  else return .ok (group.primaryClientId.getD 0, memberIds)

def gatherOpen (org : Nat) : List Nat → GroupRequest (List OpenInvoice)
  | [] => return []
  | memberId :: rest => do
      let rows ← groupExecute (.openInvoices org memberId)
      let others ← gatherOpen org rest
      return rows ++ others

/-- Progress of the settlement loop. -/
structure Settling where
  remainder : Int
  settled : List SettledInvoice
  justPaid : List Invoice

/-- The settlement loop over the merged invoices. -/
def settleOldest (paymentId : Nat) : List OpenInvoice → Settling →
    GroupRequest (Except Refusal Settling)
  | [], progress => return .ok progress
  | row :: rest, progress =>
    if progress.remainder ≤ 0 then return .ok progress
    else if row.due ≤ 0 then settleOldest paymentId rest progress
    else do
      let applyAmount := min progress.remainder row.due
      match ← groupExecute (.billing (.insertAllocation paymentId row.invoice.id applyAmount)) with
      | .error .overAllocation =>
        abandon (.validation "Allocation would exceed an invoice or the payment total.")
      | .error .dupEntry => settleOldest paymentId rest progress
      | .error .foreignKey => abandon (.thrown .foreignKey)
      | .ok _ => do
          let becamePaid ← embed (finalizeIfFullyPaid .conn row.invoice)
          settleOldest paymentId rest {
            remainder := progress.remainder - applyAmount
            settled := progress.settled ++
              [⟨row.invoice.id, row.invoice.invoiceNumber, row.invoice.clientId, applyAmount⟩]
            justPaid := if becamePaid then progress.justPaid ++ [row.invoice]
              else progress.justPaid }

/-- `byClient.set(clientId, (byClient.get(clientId) || 0) + amount)`. -/
def addCredit (clientId : Nat) (amount : Int) : List (Nat × Int) → List (Nat × Int)
  | [] => [(clientId, amount)]
  | (other, total) :: rest =>
    if other = clientId then (other, total + amount) :: rest
    else (other, total) :: addCredit clientId amount rest

def creditsByClient (settled : List SettledInvoice) (primaryId : Nat) (remainder : Int) :
    List (Nat × Int) :=
  let byClient := settled.foldl (fun byClient row => addCredit row.clientId row.amount byClient) []
  if 0 < remainder then addCredit primaryId remainder byClient else byClient

def writeGroupLedgerCredits (org paymentId : Nat) (currency : String) :
    List (Nat × Int) → GroupRequest Unit
  | [] => return ()
  | (clientId, amount) :: rest => do
      if amount ≤ 0 then writeGroupLedgerCredits org paymentId currency rest
      else do
        groupQuery (.insertGroupCredit clientId org amount currency paymentId)
        writeGroupLedgerCredits org paymentId currency rest

/-- `settled.reduce((s, a) => s + a.amount, 0)`. -/
def settledTotal (settled : List SettledInvoice) : Int := (settled.map SettledInvoice.amount).sum

/-- REP calls after the commit. -/
def generateGroupReps (org paymentId : Nat) : List SettledInvoice → GroupRequest Unit
  | [] => return ()
  | row :: rest => do
      embed (effect (.maybeGenerateRep paymentId row.invoiceId row.amount org))
      generateGroupReps org paymentId rest

/-- The payment, the loop, the commit and everything after it. -/
def settleGroup (org primaryId : Nat) (rows : List OpenInvoice) (amount : Int) (currency : String)
    (referenceNumber : Option String) : GroupRequest (Except Refusal Settlement) := do
  let paymentId ← groupExecute (.insertPayment org primaryId amount currency referenceNumber)
  match ← settleOldest paymentId rows ⟨amount, [], []⟩ with
  | .error refusal => return .error refusal
  | .ok progress =>
  Prog.commitNow
  let allocatedTotal := settledTotal progress.settled
  writeGroupLedgerCredits org paymentId currency
    (creditsByClient progress.settled primaryId (amount - allocatedTotal))
  embed (reconnectAll progress.justPaid)
  generateGroupReps org paymentId progress.settled
  return .ok {
    paymentId
    clientId := primaryId
    amount
    currency
    allocatedTotal
    unallocatedCredit := amount - allocatedTotal
    settledInvoices := progress.settled
    fullyPaidCount := progress.justPaid.length }

def payableTotal (rows : List OpenInvoice) : Int := (rows.map OpenInvoice.due).sum

/-- Currencies of the rows that still owe something. -/
def payableCurrencies (rows : List OpenInvoice) : List String :=
  ((rows.filter fun row => decide (0 < row.balanceDue)).map OpenInvoice.currency).dedup

def payCurrency (org : Nat) (rows : List OpenInvoice) : GroupRequest String :=
  match payableCurrencies rows with
  | [currency] => return currency
  | _ => groupQuery (.selectCurrency org)

/-- The currency and amount checks over the selected invoices. -/
def payOpen (org primaryId : Nat) (opts : PayOptions) (rows : List OpenInvoice) :
    GroupRequest (Except Refusal Settlement) := do
  if 1 < (payableCurrencies rows).length then
    abandon (.validation ("This group has open invoices in more than one currency. Pay each " ++
      "currency separately (use invoice_ids to select one currency)."))
  else
  let currency ← payCurrency org rows
  let amount := opts.amount.getD (payableTotal rows)
  if ¬0 < amount then
    abandon (.validation (if payableTotal rows ≤ 0 then "This group has no open balance to pay."
      else "Payment amount must be greater than zero."))
  else settleGroup org primaryId rows amount currency opts.referenceNumber

/-- Order of the merged list: `issue_date`, then `id`. -/
def openedBefore (a b : OpenInvoice) : Prop := issuedBefore a.invoice b.invoice

instance : DecidableRel openedBefore := fun _ _ => inferInstanceAs (Decidable (issuedBefore _ _))

/-- The row was asked for. -/
def PayOptions.wants (opts : PayOptions) (invoiceId : Nat) : Bool :=
  match opts.invoiceIds with
  | none => true
  | some ids => ids.contains (invoiceId : Int)

/-- Requested ids without an open invoice. -/
def missingOpen (opts : PayOptions) (rows : List OpenInvoice) : List Int :=
  (opts.invoiceIds.getD []).eraseDups.filter fun id =>
    !(rows.any fun row => (row.invoice.id : Int) == id)

def payGroup (org groupId : Nat) (opts : PayOptions) :
    GroupRequest (Except Refusal Settlement) := do
  match ← loadSharedGroup org groupId with
  | .error refusal => return .error refusal
  | .ok (primaryId, memberIds) =>
  if opts.invoiceIds.any fun ids => ids.isEmpty || ids.any fun id => decide (id < 1) then
    return .error (.validation "invoice_ids must be a non-empty array of positive integers.")
  else
  Prog.begin
  let gathered ← gatherOpen org memberIds
  let rows := gathered.insertionSort openedBefore
  if missingOpen opts rows ≠ [] then
    abandon (.validation ("Invoice id(s) " ++
      ", ".intercalate ((missingOpen opts rows).map toString) ++
        " are not open invoices for this group."))
  else payOpen org primaryId opts (rows.filter fun row => opts.wants row.invoice.id)

end FireIsp.Billing
