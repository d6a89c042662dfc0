import FireIsp.Billing.Refresh
import FireIsp.Billing.Terminal

/-!
# Client balance

`computeClientBalance`: what the payable invoices of a client still owe, less what is left of
its completed payments, less its standing credit notes.  Moving money between a completed
payment and invoices the balance shows leaves it as it is.
-/

namespace FireIsp.Billing

open Txn

/-- Values of `payments.status`. -/
inductive PaymentStatus
  | pending
  | completed
  | failed
  | refunded
  | cancelled
  deriving DecidableEq

/-- Values of `credit_notes.status`. -/
inductive CreditNoteStatus
  | draft
  | issued
  | applied
  | cancelled
  deriving DecidableEq

/-- Row of `credit_notes`. -/
structure CreditNote where
  organizationId : Nat
  clientId : Nat
  total : Int
  currency : String
  status : CreditNoteStatus
  deletedAt : Option Nat

/-- What the balance reads besides the billing tables; allocations never write it. -/
structure Columns where
  paymentStatus : Nat → PaymentStatus
  invoiceCurrency : Nat → String
  creditNotes : List CreditNote
  getCurrency : Nat → String

/-- `{ balance, currency }`. -/
structure Balance where
  /-- Owed by the client; negative when it is in credit. -/
  balance : Int
  /-- The one currency involved, or that of the organization. -/
  currency : String

/-- `getInvoicesWithBalance` on the whole client. -/
def invoicesWithBalance (db : Db) (org clientId : Nat) : List (Invoice × Int) :=
  (payableInvoices org clientId none db.invoices).map fun row =>
    (row, row.total - allocatedTo row.id db.allocations)

/-- Completed payments with a genuine remainder. -/
def unallocatedPayments (columns : Columns) (db : Db) (org clientId : Nat) : List (Payment × Int) :=
  ((db.payments.filter fun row =>
      row.clientId == clientId && row.organizationId == org && row.live &&
        columns.paymentStatus row.id == .completed).map fun row =>
    (row, row.amount - allocatedFrom row.id db.allocations)).filter fun row => decide (0 < row.2)

def standingCredits (columns : Columns) (org clientId : Nat) : List CreditNote :=
  columns.creditNotes.filter fun row =>
    row.clientId == clientId && row.organizationId == org && row.deletedAt.isNone &&
      (row.status == .issued || row.status == .applied) && decide (0 < row.total)

def computeClientBalance (columns : Columns) (db : Db) (org clientId : Nat) : Balance :=
  let invoices := invoicesWithBalance db org clientId
  let unallocated := unallocatedPayments columns db org clientId
  let credits := standingCredits columns org clientId
  let contributing := ((invoices.filter fun row => decide (0 < row.2)).map
      (columns.invoiceCurrency ·.1.id) ++ unallocated.map (·.1.currency) ++
    credits.map CreditNote.currency).dedup
  { balance := (invoices.map Prod.snd).sum - (unallocated.map Prod.snd).sum -
      (credits.map CreditNote.total).sum
    currency := match contributing with
      | [currency] => currency
      | _ => columns.getCurrency org }

section Shares

variable (columns : Columns) (rows : List Allocation) (org clientId : Nat)

/-- Share of an invoice in the balance. -/
def Invoice.due (invoice : Invoice) : Int :=
  if invoice.clientId = clientId ∧ invoice.organizationId = org ∧ invoice.live = true ∧
      invoice.status.payable = true then
    invoice.total - allocatedTo invoice.id rows
  else 0

/-- Share of a payment in the balance. -/
def Payment.credit (payment : Payment) : Int :=
  if payment.clientId = clientId ∧ payment.organizationId = org ∧ payment.live = true ∧
      columns.paymentStatus payment.id = .completed then
    max 0 (payment.amount - allocatedFrom payment.id rows)
  else 0

theorem sum_filter {α : Type} (p : α → Bool) (f : α → Int) (xs : List α) :
    ((xs.filter p).map f).sum = Table.total (fun x => if p x = true then f x else 0) xs := by
  induction xs with
  | nil => rfl
  | cons x xs ih =>
    by_cases h : p x = true
    · simp [h, ih]
    · simp [h, ih]

theorem balance_eq (db : Db) :
    (computeClientBalance columns db org clientId).balance =
      Table.total (Invoice.due db.allocations org clientId) db.invoices -
        Table.total (Payment.credit columns db.allocations org clientId) db.payments -
        ((standingCredits columns org clientId).map CreditNote.total).sum := by
  have hinvoices : ((invoicesWithBalance db org clientId).map Prod.snd).sum =
      Table.total (Invoice.due db.allocations org clientId) db.invoices := by
    rw [invoicesWithBalance, payableInvoices, List.map_map,
      (((List.perm_insertionSort issuedBefore _).map _).sum_eq), sum_filter]
    congr 1
    funext invoice
    simp [Invoice.due, and_assoc]
  have hpayments : ((unallocatedPayments columns db org clientId).map Prod.snd).sum =
      Table.total (Payment.credit columns db.allocations org clientId) db.payments := by
    rw [unallocatedPayments, sum_filter]
    unfold Table.total
    rw [List.map_map]
    rw [sum_filter]
    congr 1
    funext payment
    simp only [Payment.credit, Function.comp_apply, decide_eq_true_eq, Bool.and_eq_true,
      beq_iff_eq, and_assoc]
    split
    · split <;> omega
    · rfl
  change _ - _ - _ = _
  rw [hinvoices, hpayments]

end Shares

section Shifts

/-- The payment gave `taken` more, and each invoice got `placed` more. -/
structure Shifted (db db' : Db) (paymentId : Nat) (taken : Int) (placed : Nat → Int) : Prop where
  payments : db'.payments = db.payments
  invoices : db'.invoices = db.invoices
  taken : ∀ k, allocatedFrom k db'.allocations =
    allocatedFrom k db.allocations + if k = paymentId then taken else 0
  placed : ∀ k, allocatedTo k db'.allocations = allocatedTo k db.allocations + placed k

theorem Shifted.trans {db db' db'' : Db} {paymentId : Nat} {taken taken' : Int}
    {placed placed' : Nat → Int} (h : Shifted db db' paymentId taken placed)
    (h' : Shifted db' db'' paymentId taken' placed') :
    Shifted db db'' paymentId (taken + taken') fun k => placed k + placed' k := by
  refine ⟨h'.payments.trans h.payments, h'.invoices.trans h.invoices, fun k => ?_, fun k => ?_⟩
  · rw [h'.taken, h.taken]
    split <;> omega
  · rw [h'.placed, h.placed]
    omega

theorem shifted_insert {db : Db} {new : Allocation}
    (hfresh : ∀ row ∈ db.allocations, row.id ≠ new.id) (hlive : new.live = true) :
    Shifted db (db.apply (.allocation new)) new.paymentId new.amount
      fun k => if k = new.invoiceId then new.amount else 0 := by
  have hnot : new.id ∉ db.allocations.map Allocation.id := fun h => by
    obtain ⟨row, hrow, heq⟩ := List.mem_map.mp h
    exact hfresh row hrow heq
  have hadd : ∀ (side : Allocation → Nat) (k : Nat),
      allocated side k (Table.put Allocation.id new db.allocations) =
        allocated side k db.allocations + if k = side new then new.amount else 0 := by
    intro side k
    rw [allocated_eq_total, Table.total_put_fresh hnot, ← allocated_eq_total]
    by_cases hk : side new = k
    · simp [liveWeight, hlive, hk]
    · simp [liveWeight, hk, Ne.symm hk]
  exact ⟨rfl, rfl, hadd Allocation.paymentId, hadd Allocation.invoiceId⟩

theorem shifted_delete {db db' : Db} {old : Allocation} {p : Allocation → Bool} {time : Nat}
    (hkeyed : db.WellKeyed) (hold : old ∈ db.allocations) (hlive : old.live = true)
    (hp : p old = true) (hother : ∀ row ∈ db.allocations, row.id ≠ old.id → p row = false)
    (hpayments : db'.payments = db.payments) (hinvoices : db'.invoices = db.invoices)
    (hrows : db'.allocations = db.allocations.map fun row =>
      if p row then { row with deletedAt := some time } else row) :
    Shifted db db' old.paymentId (-old.amount)
      fun k => if k = old.invoiceId then -old.amount else 0 := by
  have hsub : ∀ (side : Allocation → Nat), (∀ row : Allocation, ∀ t, side
      { row with deletedAt := t } = side row) → ∀ k, allocated side k db'.allocations =
        allocated side k db.allocations + if k = side old then -old.amount else 0 := by
    intro side hside k
    rw [hrows, allocated_eq_total, Table.total, List.map_map]
    refine Table.total_shift hkeyed.allocations hold ?_ fun row hrow hne => ?_
    · have hdead : ({ old with deletedAt := some time } : Allocation).live = false := rfl
      have hlive' : old.live = true := hlive
      simp only [Function.comp_apply, if_pos hp, liveWeight, hdead, hlive', Bool.true_and,
        Bool.false_and, Bool.false_eq_true, if_false, beq_iff_eq]
      by_cases hk : side old = k
      · rw [if_pos hk, if_pos hk.symm]
        omega
      · rw [if_neg hk, if_neg (Ne.symm hk)]
        omega
    · rw [Function.comp_apply, hother row hrow hne]
      rfl
  exact ⟨hpayments, hinvoices, hsub Allocation.paymentId (fun _ _ => rfl),
    hsub Allocation.invoiceId fun _ _ => rfl⟩

variable {rows rows' : List Allocation} {ids : List Nat} {org clientId : Nat}

/-- The balance shows what is left to pay on the invoice: it is payable, or paid and covered. -/
structure Invoice.Shown (rows : List Allocation) (org clientId : Nat) (invoice : Invoice) :
    Prop where
  clientId : invoice.clientId = clientId
  organizationId : invoice.organizationId = org
  live : invoice.live = true
  status : invoice.status.payable = true ∨
    invoice.status = .paid ∧ invoice.covered rows = true

theorem Invoice.Shown.due_eq {invoice : Invoice} (h : invoice.Shown rows org clientId)
    (hle : allocatedTo invoice.id rows ≤ invoice.total) :
    invoice.due rows org clientId = invoice.total - allocatedTo invoice.id rows := by
  unfold Invoice.due
  rcases h.status with hpayable | ⟨hpaid, hcovered⟩
  · exact if_pos ⟨h.clientId, h.organizationId, h.live, hpayable⟩
  · have hcovered' := of_decide_eq_true hcovered
    rw [if_neg fun hp => by simp [hpaid, InvoiceStatus.payable] at hp]
    omega

theorem Invoice.Shown.refreshed {invoice : Invoice} (h : invoice.Shown rows org clientId)
    (hid : invoice.id ∈ ids) : (invoice.refreshed rows' ids).Shown rows' org clientId := by
  refine ⟨h.clientId, h.organizationId, h.live, ?_⟩
  simp only [Invoice.refreshed, hid, h.live, and_self, if_true]
  by_cases hcovered : invoice.covered rows' = true
  · exact Or.inr ⟨by simp [InvoiceStatus.refreshed, hcovered], hcovered⟩
  · refine Or.inl ?_
    rw [Bool.not_eq_true] at hcovered
    rw [hcovered]
    rcases h.status with hpayable | ⟨hpaid, -⟩
    · have hne : invoice.status ≠ .paid := fun e => by simp [e, InvoiceStatus.payable] at hpayable
      simpa [InvoiceStatus.refreshed, hne] using hpayable
    · simp [InvoiceStatus.refreshed, hpaid, InvoiceStatus.payable]

theorem Invoice.Shown.settled {invoice : Invoice} (h : invoice.Shown rows org clientId)
    (hplaced : invoice.id ∉ ids → allocatedTo invoice.id rows' = allocatedTo invoice.id rows) :
    (invoice.refreshed rows' ids).Shown rows' org clientId := by
  by_cases hid : invoice.id ∈ ids
  · exact h.refreshed hid
  · have hstatus : (invoice.refreshed rows' ids).status = invoice.status :=
      if_neg fun hp => hid hp.1
    refine ⟨h.clientId, h.organizationId, h.live, ?_⟩
    rw [hstatus]
    refine h.status.imp_right fun ⟨hpaid, hcovered⟩ => ⟨hpaid, ?_⟩
    have hcovered' := of_decide_eq_true hcovered
    exact decide_eq_true ((hplaced hid).symm ▸ hcovered')

theorem Invoice.Shown.due_refreshed {invoice : Invoice} (h : invoice.Shown rows org clientId)
    (hid : invoice.id ∈ ids) (hle : allocatedTo invoice.id rows ≤ invoice.total)
    (hle' : allocatedTo invoice.id rows' ≤ invoice.total) :
    (invoice.refreshed rows' ids).due rows' org clientId = invoice.due rows org clientId +
      -(allocatedTo invoice.id rows' - allocatedTo invoice.id rows) := by
  have hshown : (invoice.refreshed rows' ids).Shown rows' org clientId := h.refreshed hid
  have hafter : (invoice.refreshed rows' ids).due rows' org clientId =
      invoice.total - allocatedTo invoice.id rows' := hshown.due_eq hle'
  rw [hafter, h.due_eq hle]
  omega

theorem Invoice.due_refreshed_terminal {invoice : Invoice} (h : invoice.status.terminal = true) :
    (invoice.refreshed rows' ids).due rows' org clientId = invoice.due rows org clientId := by
  have hstatus : ∀ status : InvoiceStatus, status.terminal = true → ∀ covered,
      (status.refreshed covered).payable = false ∧ status.payable = false := by
    intro status hstatus covered
    cases status <;> cases covered <;>
      simp [InvoiceStatus.refreshed, InvoiceStatus.payable, InvoiceStatus.terminal] at hstatus ⊢
  unfold Invoice.due
  rw [if_neg, if_neg]
  · exact fun hp => by simp [(hstatus _ h false).2] at hp
  · rintro ⟨-, -, -, hp⟩
    simp only [Invoice.refreshed] at hp
    split at hp
    · simp [(hstatus _ h _).1] at hp
    · simp [(hstatus _ h false).2] at hp

theorem Invoice.due_refreshed_other {invoice : Invoice} (hid : invoice.id ∉ ids)
    (hrows : allocatedTo invoice.id rows' = allocatedTo invoice.id rows) :
    (invoice.refreshed rows' ids).due rows' org clientId = invoice.due rows org clientId := by
  have hnot : ¬(invoice.id ∈ ids ∧ invoice.live = true) := fun h => hid h.1
  have hsame : invoice.refreshed rows' ids = invoice.undated := by
    simp only [Invoice.refreshed, if_neg hnot, Invoice.undated]
  rw [hsame]
  unfold Invoice.due
  rw [show allocatedTo invoice.undated.id rows' = allocatedTo invoice.id rows from hrows]
  rfl

end Shifts

section Settling

variable {columns : Columns} {db db₁ db' : Db} {ids : List Nat} {org clientId paymentId : Nat}
  {taken : Int} {placed : Nat → Int}

structure Payment.Spendable (columns : Columns) (org clientId : Nat) (payment : Payment) :
    Prop where
  clientId : payment.clientId = clientId
  organizationId : payment.organizationId = org
  live : payment.live = true
  status : columns.paymentStatus payment.id = .completed

theorem Payment.Spendable.credit_eq {payment : Payment} {rows : List Allocation}
    (h : payment.Spendable columns org clientId)
    (hle : allocatedFrom payment.id rows ≤ payment.amount) :
    payment.credit columns rows org clientId = payment.amount - allocatedFrom payment.id rows := by
  unfold Payment.credit
  rw [if_pos ⟨h.clientId, h.organizationId, h.live, h.status⟩]
  omega

theorem Shifted.total_credit {payment : Payment} (h : Shifted db db₁ paymentId taken placed)
    (hkeyed : db.WellKeyed) (hmem : payment ∈ db.payments) (hid : payment.id = paymentId)
    (hspend : payment.Spendable columns org clientId)
    (hle : allocatedFrom paymentId db.allocations ≤ payment.amount)
    (hle' : allocatedFrom paymentId db₁.allocations ≤ payment.amount) :
    Table.total (Payment.credit columns db₁.allocations org clientId) db₁.payments =
      Table.total (Payment.credit columns db.allocations org clientId) db.payments + -taken := by
  rw [h.payments]
  refine Table.total_shift hkeyed.payments hmem ?_ fun row _ hne => ?_
  · subst hid
    have hafter := h.taken payment.id
    rw [if_pos rfl] at hafter
    rw [hspend.credit_eq hle', hspend.credit_eq hle]
    omega
  · have hsame := h.taken row.id
    rw [if_neg (hid ▸ hne), add_zero] at hsame
    rw [Payment.credit, Payment.credit, hsame]

theorem Refreshed.source (h : Refreshed ids db₁ db') {row : Invoice} (hrow : row ∈ db'.invoices) :
    ∃ old ∈ db₁.invoices, old.refreshed db₁.allocations ids = row.undated := by
  have hmem : row.undated ∈ db₁.invoices.map (Invoice.refreshed db₁.allocations ids) :=
    h.invoices ▸ List.mem_map_of_mem hrow
  exact List.mem_map.mp hmem

theorem Refreshed.total_due (h : Refreshed ids db₁ db') :
    Table.total (Invoice.due db'.allocations org clientId) db'.invoices =
      Table.total (fun row => (row.refreshed db₁.allocations ids).due db₁.allocations org clientId)
        db₁.invoices := by
  have hundated : db'.invoices.map (Invoice.due db₁.allocations org clientId) =
      (db'.invoices.map Invoice.undated).map (Invoice.due db₁.allocations org clientId) := by
    rw [List.map_map]
    rfl
  rw [h.allocations, Table.total, hundated, h.invoices, List.map_map]
  rfl

theorem balance_settled {payment : Payment} {lost : Int}
    (h : Shifted db db₁ paymentId taken placed) (hrefresh : Refreshed ids db₁ db')
    (hkeyed : db.WellKeyed) (hmem : payment ∈ db.payments) (hid : payment.id = paymentId)
    (hspend : payment.Spendable columns org clientId)
    (hle : allocatedFrom paymentId db.allocations ≤ payment.amount)
    (hle' : allocatedFrom paymentId db₁.allocations ≤ payment.amount)
    (hdue : Table.total (fun row =>
        (row.refreshed db₁.allocations ids).due db₁.allocations org clientId) db.invoices =
      Table.total (Invoice.due db.allocations org clientId) db.invoices + -lost) :
    (computeClientBalance columns db' org clientId).balance =
      (computeClientBalance columns db org clientId).balance - lost + taken := by
  have hcredit := h.total_credit hkeyed hmem hid hspend hle hle'
  rw [balance_eq, balance_eq, hrefresh.total_due, h.invoices, hdue, hrefresh.allocations,
    hrefresh.payments, hcredit]
  omega

end Settling

section Applying

variable {columns : Columns} {db : Db} {org clientId tick : Nat}

theorem Db.Good.le_total (h : db.Good tick) {row : Invoice} (hrow : row ∈ db.invoices) :
    allocatedTo row.id db.allocations ≤ row.total :=
  h.within.invoices _ (List.mem_map_of_mem hrow)

theorem Db.Good.le_amount (h : db.Good tick) {row : Payment} (hrow : row ∈ db.payments) :
    allocatedFrom row.id db.allocations ≤ row.amount :=
  h.within.payments _ (List.mem_map_of_mem hrow)

theorem insertAllocation_cases (paymentId invoiceId : Nat) (amount : Int) (tick : Nat) (db : Db) :
    (∃ e, (Stmt.insertAllocation paymentId invoiceId amount).exec tick db db = (.error e, [])) ∨
    ((Stmt.insertAllocation paymentId invoiceId amount).exec tick db db =
        (.ok tick, [.allocation ⟨tick, paymentId, invoiceId, amount, none⟩]) ∧
      guardsAccept db ⟨tick, paymentId, invoiceId, amount, none⟩ none = true ∧
      ∃ row ∈ db.invoices, row.id = invoiceId) := by
  simp only [Stmt.exec]
  split
  · exact Or.inl ⟨_, rfl⟩
  · rename_i hguard
    split
    · exact Or.inl ⟨_, rfl⟩
    · split
      · rename_i hparents
        rw [Bool.and_eq_true, List.any_eq_true, List.any_eq_true] at hparents
        obtain ⟨-, row, hrow, hid⟩ := hparents
        exact Or.inr ⟨rfl, by simpa using hguard, row, hrow, by simpa using hid⟩
      · exact Or.inl ⟨_, rfl⟩

theorem guards_fit (hkeyed : db.WellKeyed) {new : Allocation}
    (hguard : guardsAccept db new none = true) :
    (∀ row ∈ db.payments, row.id = new.paymentId →
      allocatedFrom row.id db.allocations + new.amount ≤ row.amount) ∧
    ∀ row ∈ db.invoices, row.id = new.invoiceId →
      allocatedTo row.id db.allocations + new.amount ≤ row.total := by
  refine ⟨fun row hrow hid => ?_, fun row hrow hid => ?_⟩
  · have hcap : (row.id, row.amount) ∈ db.caps.payments := List.mem_map_of_mem hrow
    have hfits := guardsAccept_payment hkeyed hguard hcap hid.symm
    rwa [guardSum_none Allocation.paymentId] at hfits
  · have hcap : (row.id, row.total) ∈ db.caps.invoices := List.mem_map_of_mem hrow
    have hfits := guardsAccept_invoice hkeyed hguard hcap hid.symm
    rwa [guardSum_none Allocation.invoiceId] at hfits

theorem Db.Good.shifted (h : db.Good tick) (paymentId invoiceId : Nat) (amount : Int) :
    Shifted db (db.apply (.allocation ⟨tick, paymentId, invoiceId, amount, none⟩)) paymentId amount
      fun k => if k = invoiceId then amount else 0 :=
  shifted_insert (fun row hrow => Nat.ne_of_lt (h.sound.fresh row hrow)) rfl

/-- The payment is spendable, and the balance shows every invoice with the id. -/
structure Passable (columns : Columns) (db : Db) (org clientId : Nat) (payment : Payment)
    (invoice : Invoice) : Prop where
  stored : payment ∈ db.payments
  spendable : payment.Spendable columns org clientId
  shown : ∀ row ∈ db.invoices, row.id = invoice.id →
    row.Shown db.allocations org clientId ∧ row.total = invoice.total

section Applied

variable {db₁ : Db} {payment : Payment} {invoice : Invoice} {amount : Int}

theorem Passable.refreshed (h : Passable columns db org clientId payment invoice)
    (hamount : 0 ≤ amount) (hkeyed₁ : db₁.WellKeyed)
    (hshift : Shifted db db₁ payment.id amount fun k => if k = invoice.id then amount else 0)
    (time : Nat) : Refreshed [invoice.id] db₁ (db₁.finalized invoice time) := by
  refine refreshed_finalized hkeyed₁ fun row hrow hid => ?_
  obtain ⟨hshown, htotal⟩ := h.shown row (hshift.invoices ▸ hrow) hid
  refine ⟨htotal, hshown.live, fun hcovered hpaid => ?_⟩
  -- a shown invoice that is paid was covered before, so it is covered now
  rcases hshown.status with hpayable | ⟨-, hcovered'⟩
  · rw [hpaid] at hpayable
    nomatch hpayable
  · have hbefore := of_decide_eq_true hcovered'
    have hafter := of_decide_eq_false hcovered
    rw [hshift.placed, if_pos hid] at hafter
    omega

theorem Passable.balance_eq {db' : Db} (h : Passable columns db org clientId payment invoice)
    (hgood : db.Good tick)
    (hshift : Shifted db db₁ payment.id amount fun k => if k = invoice.id then amount else 0)
    (hrefresh : Refreshed [invoice.id] db₁ db') (hexists : ∃ row ∈ db.invoices, row.id = invoice.id)
    (hpayment : allocatedFrom payment.id db.allocations + amount ≤ payment.amount)
    (htotal : ∀ row ∈ db.invoices, row.id = invoice.id →
      allocatedTo row.id db.allocations + amount ≤ row.total) :
    (computeClientBalance columns db' org clientId).balance =
      (computeClientBalance columns db org clientId).balance := by
  have hkeyed := hgood.sound.keyed
  obtain ⟨row₀, hrow₀, hid₀⟩ := hexists
  have htaken := hshift.taken payment.id
  rw [if_pos rfl] at htaken
  have hplaced := hshift.placed row₀.id
  rw [if_pos hid₀] at hplaced
  have hle' : allocatedTo row₀.id db₁.allocations ≤ row₀.total :=
    hplaced ▸ htotal row₀ hrow₀ hid₀
  have hlost := (h.shown row₀ hrow₀ hid₀).1.due_refreshed (List.mem_singleton.mpr hid₀)
    (hgood.le_total hrow₀) hle'
  have hsettled := balance_settled hshift hrefresh hkeyed h.stored rfl h.spendable
    (hgood.le_amount h.stored) (htaken ▸ hpayment)
    (Table.total_shift hkeyed.invoices hrow₀ hlost fun row _ hne => by
      have hne' : row.id ≠ invoice.id := hid₀ ▸ hne
      refine Invoice.due_refreshed_other (fun hmem => hne' (List.mem_singleton.mp hmem)) ?_
      rw [hshift.placed, if_neg hne', add_zero])
  rw [hsettled, hplaced]
  omega

theorem Passable.kept {db' : Db} {other : Invoice}
    (h : Passable columns db org clientId payment other)
    (hshift : Shifted db db₁ payment.id amount fun k => if k = invoice.id then amount else 0)
    (hrefresh : Refreshed [invoice.id] db₁ db') :
    Passable columns db' org clientId payment other := by
  refine ⟨?_, h.spendable, fun row hrow hid => ?_⟩
  · rw [hrefresh.payments, hshift.payments]
    exact h.stored
  · obtain ⟨old, hold, hsame⟩ := hrefresh.source hrow
    have holdId := congrArg Invoice.id hsame
    have holdTotal := congrArg Invoice.total hsame
    obtain ⟨hshown, htotal⟩ := h.shown old (hshift.invoices ▸ hold) (Eq.trans holdId hid)
    refine ⟨?_, (Eq.symm holdTotal).trans htotal⟩
    have hsettled : (old.refreshed db₁.allocations [invoice.id]).Shown db₁.allocations org
        clientId := hshown.settled fun hlisted => by
      rw [hshift.placed, if_neg fun e => hlisted (List.mem_singleton.mpr e), add_zero]
    rw [hsame] at hsettled
    rw [hrefresh.allocations]
    exact ⟨hsettled.clientId, hsettled.organizationId, hsettled.live, hsettled.status⟩

theorem Passable.applied (h : Passable columns db org clientId payment invoice)
    (hgood : db.Good tick) (hamount : 0 ≤ amount)
    (hguard : guardsAccept db ⟨tick, payment.id, invoice.id, amount, none⟩ none = true)
    (hexists : ∃ row ∈ db.invoices, row.id = invoice.id) (time : Nat) :
    let db₁ := db.apply (.allocation ⟨tick, payment.id, invoice.id, amount, none⟩)
    (computeClientBalance columns (db₁.finalized invoice time) org clientId).balance =
        (computeClientBalance columns db org clientId).balance ∧
      ∀ other, Passable columns db org clientId payment other →
        Passable columns (db₁.finalized invoice time) org clientId payment other := by
  intro db₁
  have hshift := hgood.shifted payment.id invoice.id amount
  have hrefresh := h.refreshed hamount (hgood.sound.keyed.apply _) hshift time
  obtain ⟨hpayment, htotal⟩ := guards_fit hgood.sound.keyed hguard
  exact ⟨h.balance_eq hgood hshift hrefresh hexists (hpayment payment h.stored rfl) htotal,
    fun other hother => hother.kept hshift hrefresh⟩

end Applied

theorem Db.Good.finalized (h : db.Good tick) (invoice : Invoice) (time : Nat) :
    (db.finalized invoice time).Good tick := by
  unfold Db.finalized
  split
  · exact h
  · refine h.visible_other _ (fun w hw => (exec_wrote _ time db db w hw).keepsCaps) ?_
    intro w hw row heq
    subst heq
    simp [Stmt.exec, updates] at hw

end Applying

section Loop

variable {columns : Columns} {db work : Db} {org clientId tick : Nat} {payment : Payment}
  (world : Nat → (e : Effect) → e.Answer)

/-- The loop wrote nothing and was rolled back, or it left a copy with the given balance. -/
def Waterfall.Left (columns : Columns) (org clientId : Nat) (balance : Int) (db : Db)
    (o : Outcome (Except Response Waterfall) Db) : Prop :=
  o.db = db ∧ ((∃ response, o.value = .error response ∧ o.work = none) ∨
    ∃ progress copy, o.value = .ok progress ∧ o.work = some copy ∧
      (computeClientBalance columns copy org clientId).balance = balance)

theorem waterfall_left (rows : List (Invoice × Int)) (progress : Waterfall)
    (hrows : ∀ row ∈ rows, Passable columns work org clientId payment row.1)
    (hgood : work.Good tick) :
    Waterfall.Left columns org clientId (computeClientBalance columns work org clientId).balance db
      (alone engine world (waterfall payment.id rows progress) tick db (some work)) := by
  induction rows generalizing progress tick work with
  | nil => exact ⟨rfl, Or.inr ⟨progress, work, rfl, rfl, rfl⟩⟩
  | cons row rows ih =>
    obtain ⟨invoice, balanceDue⟩ := row
    have hrest : ∀ row ∈ rows, Passable columns work org clientId payment row.1 :=
      fun row hrow => hrows row (List.mem_cons_of_mem _ hrow)
    by_cases hremainder : progress.remainder ≤ 0
    · rw [waterfall, if_pos hremainder]
      exact ⟨rfl, Or.inr ⟨progress, work, rfl, rfl, rfl⟩⟩
    by_cases hdue : max 0 balanceDue ≤ 0
    · rw [waterfall, if_neg hremainder, if_pos hdue]
      exact ih progress hrest hgood
    · rw [waterfall, if_neg hremainder, if_neg hdue]
      have hnonneg : 0 ≤ min progress.remainder (max 0 balanceDue) := by omega
      simp only [execute, send]
      rcases insertAllocation_cases payment.id invoice.id
          (min progress.remainder (max 0 balanceDue)) tick work with
        ⟨e, hexec⟩ | ⟨hexec, hguard, hexists⟩
      · rw [alone_send_conn, engine_exec, hexec]
        cases e with
        | overAllocation => exact ⟨rfl, Or.inl ⟨_, rfl, rfl⟩⟩
        | dupEntry => exact ih progress hrest (hgood.later (Nat.le_succ tick))
        | foreignKey => exact ⟨rfl, Or.inl ⟨_, rfl, rfl⟩⟩
      · have hgood' := hgood.exec (.insertAllocation payment.id invoice.id _) hnonneg
        rw [alone_send_conn, engine_exec, hexec]
        rw [hexec] at hgood'
        obtain ⟨hbalance, hpass⟩ := (hrows _ List.mem_cons_self).applied hgood hnonneg hguard
          hexists (tick + 2)
        obtain ⟨paid, tick', hle, hrun⟩ := alone_finalize_conn world invoice (tick + 1) db _
        dsimp only
        rw [alone_bind, hrun, ← hbalance]
        exact ih _ (fun row hrow => hpass _ (hrest row hrow))
          ((hgood'.finalized invoice (tick + 2)).later hle)

theorem distribute_balance (org' : Nat) (rows : List (Invoice × Int)) (remainder : Int)
    (hrows : ∀ row ∈ rows, Passable columns db org clientId payment row.1)
    (hgood : db.Good tick) :
    (computeClientBalance columns (alone engine world (distribute org' payment.id rows remainder)
      tick db (some db)).db org clientId).balance =
        (computeClientBalance columns db org clientId).balance := by
  have hloop : Waterfall.Left columns org clientId
      (computeClientBalance columns db org clientId).balance db
      (alone engine world (waterfall payment.id rows ⟨remainder, [], []⟩) tick db (some db)) :=
    waterfall_left world rows ⟨remainder, [], []⟩ hrows hgood
  obtain ⟨hdb, hleft⟩ := hloop
  unfold distribute
  rw [alone_bind]
  rcases hleft with ⟨response, hvalue, hwork⟩ | ⟨progress, copy, hvalue, hwork, hbalance⟩
  · rw [hvalue, hwork, hdb]
    rfl
  · rw [hvalue, hwork, hdb, ← hbalance]
    exact congrArg (fun db => (computeClientBalance columns db org clientId).balance) 
      (alone_afterWaterfall world org' payment.id progress _ copy)

theorem applyAllocation_balance (org' : Nat) {invoice : Invoice} {amount : Int}
    (hpass : Passable columns db org clientId payment invoice) (hgood : db.Good tick)
    (hamount : 0 ≤ amount) :
    (computeClientBalance columns (alone engine world
      (applyAllocation org' payment.id invoice amount) tick db none).db org clientId).balance =
        (computeClientBalance columns db org clientId).balance := by
  unfold applyAllocation
  simp only [query, send]
  rcases insertAllocation_cases payment.id invoice.id amount tick db with
    ⟨e, hexec⟩ | ⟨hexec, hguard, hexists⟩
  · rw [alone_send_pool, engine_exec, hexec]
    cases e <;> rfl
  · obtain ⟨hbalance, -⟩ := hpass.applied hgood hamount hguard hexists (tick + 3)
    rw [alone_send_pool, engine_exec, hexec]
    dsimp only
    rw [alone_send_pool, alone_bind]
    obtain ⟨paid, tick', hrun⟩ := alone_finalize_pool world invoice (tick + 2)
      (db.apply (.allocation ⟨tick, payment.id, invoice.id, amount, none⟩))
    have hvisible : engine.visible (engine.visible db
        [.allocation ⟨tick, payment.id, invoice.id, amount, none⟩]) [] =
      db.apply (.allocation ⟨tick, payment.id, invoice.id, amount, none⟩) := rfl
    rw [engine_exec, show ((Stmt.selectAllocation tick).exec _ _ _).2 = [] from rfl, hvisible, hrun,
      ← hbalance]
    cases paid <;> rfl

end Loop

section Removal

variable {columns : Columns} {db db₁ db' : Db} {org clientId tick paymentId : Nat}
  {rows rows' : List Allocation} {ids : List Nat}
  (world : Nat → (e : Effect) → e.Answer)

/-- Money can be taken off the invoice: the balance shows it, or it is void or cancelled. -/
def Invoice.Source (rows : List Allocation) (org clientId : Nat) (invoice : Invoice) : Prop :=
  invoice.Shown rows org clientId ∨ invoice.status.terminal = true

theorem Invoice.Source.due_refreshed {invoice : Invoice} (h : invoice.Source rows org clientId)
    (hid : invoice.id ∈ ids) (hle : allocatedTo invoice.id rows ≤ invoice.total)
    (hle' : allocatedTo invoice.id rows' ≤ invoice.total) :
    (invoice.refreshed rows' ids).due rows' org clientId = invoice.due rows org clientId +
      -(if invoice.status.terminal = true then 0
        else allocatedTo invoice.id rows' - allocatedTo invoice.id rows) := by
  rcases h with hshown | hterminal
  · have hopen : invoice.status.terminal = false := by
      rcases hshown.status with hpayable | ⟨hpaid, -⟩
      · exact InvoiceStatus.terminal_of_payable hpayable
      · rw [hpaid]
        rfl
    rw [hshown.due_refreshed hid hle hle', if_neg (by simp [hopen])]
  · have hsame : (invoice.refreshed rows' ids).due rows' org clientId =
        invoice.due rows org clientId := Invoice.due_refreshed_terminal hterminal
    rw [hsame, if_pos hterminal]
    omega

/-- What a void or cancelled invoice gave back as client credit. -/
def freed (before after : Db) (invoice : Invoice) : Int :=
  if invoice.status.terminal = true then
    allocatedTo invoice.id before.allocations - allocatedTo invoice.id after.allocations
  else 0

@[simp] theorem freed_self (db : Db) (invoice : Invoice) : freed db db invoice = 0 := by
  unfold freed
  split <;> omega

variable {old : Allocation}

theorem softDelete_cases (hkeyed : db.WellKeyed) (hold : old ∈ db.allocations)
    (hlive : old.live = true) (onlyLive : Bool) (tick : Nat) :
    (∃ e, (Stmt.softDeleteAllocation old.id onlyLive).exec tick db db = (.error e, [])) ∨
    ∃ writes, (Stmt.softDeleteAllocation old.id onlyLive).exec tick db db = (.ok (), writes) ∧
      (engine.visible db writes).WellKeyed ∧
      Shifted db (engine.visible db writes) old.paymentId (-old.amount)
        fun k => if k = old.invoiceId then -old.amount else 0 := by
  cases hupdate : updateDeletedAt (some tick)
      (db.allocations.filter fun row => row.id == old.id && (!onlyLive || row.live)) db db with
  | error e => exact Or.inl ⟨e, by simp [Stmt.exec, hupdate, statementReply]⟩
  | ok writes =>
    obtain ⟨hinvoices, hpayments⟩ := visible_updateDeletedAt_other hupdate db
    refine Or.inr ⟨writes, by simp [Stmt.exec, hupdate, statementReply],
      Engine.visible_invariant (E := engine) (I := Db.WellKeyed) (fun _ _ _ h => h.apply _)
        hkeyed, ?_⟩
    refine shifted_delete hkeyed hold hlive (by simp [hlive]) ?_ hpayments hinvoices
      (visible_updateDeletedAt hkeyed hupdate)
    intro row _ hne
    simp [hne]

theorem removeAllocation_balance {payment : Payment} {invoice : Invoice} (hgood : db.Good tick)
    (hmem : payment ∈ db.payments) (hspend : payment.Spendable columns org clientId)
    (hinvoice : invoice ∈ db.invoices) (hsource : invoice.Source db.allocations org clientId)
    (hold : old ∈ db.allocations) (hlive : old.live = true) (hfrom : old.paymentId = payment.id)
    (hto : old.invoiceId = invoice.id) :
    let db' := (alone engine world (removeAllocation payment.id invoice.id old.id) tick db
      (some db)).db
    (computeClientBalance columns db' org clientId).balance =
      (computeClientBalance columns db org clientId).balance - freed db db' invoice := by
  intro db'
  have hkeyed := hgood.sound.keyed
  rcases softDelete_cases hkeyed hold hlive false tick with
    ⟨e, hexec⟩ | ⟨writes, hexec, hkeyed₁, hshift⟩
  · have hrun : db' = db := by
      change (alone engine world (removeAllocation _ _ _) _ _ _).db = db
      unfold removeAllocation
      simp only [execute, send]
      rw [alone_send_conn, engine_exec, hexec]
      rfl
    rw [hrun, freed_self, sub_zero]
  · have hrun : db' = (alone engine world (refreshInvoicePaidStatus invoice.id) (tick + 2)
        (engine.visible db writes) none).db := by
      change (alone engine world (removeAllocation _ _ _) _ _ _).db = _
      unfold removeAllocation
      simp only [execute, send]
      rw [alone_send_conn, engine_exec, hexec]
      exact congrArg Outcome.db (alone_bind (refreshInvoicePaidStatus invoice.id)
        (fun _ => pure (Response.ok 200 (.unapplied payment.id invoice.id))) (tick + 2)
        (engine.visible db writes) none)
    have hrefresh := alone_refreshInvoicePaidStatus world invoice.id (tick + 2) hkeyed₁
    rw [← hrun] at hrefresh
    have hamount := hgood.sound.nonneg old hold
    rw [hfrom, hto] at hshift
    have htaken := hshift.taken payment.id
    have hplaced := hshift.placed invoice.id
    rw [if_pos rfl] at htaken hplaced
    have hpayment := hgood.le_amount hmem
    have htotal := hgood.le_total hinvoice
    have htotal' : allocatedTo invoice.id (engine.visible db writes).allocations ≤
        invoice.total := by omega
    have hdue := hsource.due_refreshed (List.mem_singleton.mpr rfl) htotal htotal'
    rw [hplaced] at hdue
    have hsettled := balance_settled hshift hrefresh hkeyed hmem rfl hspend hpayment (by omega)
      (Table.total_shift hkeyed.invoices hinvoice hdue fun row _ hne =>
        Invoice.due_refreshed_other (fun h => hne (List.mem_singleton.mp h)) (by
          rw [hshift.placed, if_neg hne, add_zero]))
    rw [hsettled, freed, hrefresh.allocations, hplaced]
    split <;> omega

theorem replaceAllocation_balance {payment : Payment} {fromInv toInv : Invoice} (org' : Nat)
    (amount : Int) (hgood : db.Good tick) (hmem : payment ∈ db.payments)
    (hspend : payment.Spendable columns org clientId) (hfromMem : fromInv ∈ db.invoices)
    (htoMem : toInv ∈ db.invoices) (hne : fromInv.id ≠ toInv.id)
    (hsource : fromInv.Source db.allocations org clientId)
    (hshown : toInv.Shown db.allocations org clientId) (hold : old ∈ db.allocations)
    (hlive : old.live = true) (hfrom : old.paymentId = payment.id)
    (hto : old.invoiceId = fromInv.id) :
    let db' := (alone engine world
      (replaceAllocation org' payment.id old.id fromInv.id toInv.id amount) tick db (some db)).db
    (computeClientBalance columns db' org clientId).balance =
      (computeClientBalance columns db org clientId).balance - freed db db' fromInv := by
  intro db'
  have hkeyed := hgood.sound.keyed
  have hdb' : db' = (alone engine world
    (replaceAllocation org' payment.id old.id fromInv.id toInv.id amount) tick db (some db)).db := rfl
  clear_value db'
  unfold replaceAllocation at hdb'
  simp only [execute, send] at hdb'
  rcases softDelete_cases hkeyed hold hlive true tick with
    ⟨e, hexec⟩ | ⟨writes, hexec, hkeyed₁, hdeleted⟩
  · rw [alone_send_conn, engine_exec, hexec] at hdb'
    have hsame : db' = db := hdb'
    rw [hsame, freed_self, sub_zero]
  rw [alone_send_conn, engine_exec, hexec] at hdb'
  dsimp only at hdb'
  rw [alone_send_conn, engine_exec] at hdb'
  rcases insertAllocation_cases payment.id toInv.id amount (tick + 1) (engine.visible db writes)
    with ⟨e, hexec'⟩ | ⟨hexec', hguard, -⟩
  · rw [hexec'] at hdb'
    have hsame : db' = db := by
      rw [hdb']
      cases e <;> rfl
    rw [hsame, freed_self, sub_zero]
  · have hgood₁ := hgood.exec (.softDeleteAllocation old.id true) trivial
    rw [hexec] at hgood₁
    have hinserted := hgood₁.shifted payment.id toInv.id amount
    rw [hfrom, hto] at hdeleted
    have hshift := hdeleted.trans hinserted
    set db₂ := (engine.visible db writes).apply
      (.allocation ⟨tick + 1, payment.id, toInv.id, amount, none⟩) with hdb₂
    -- the commit, both refreshes, and nothing but calls and reads after them
    have hrefresh : Refreshed [fromInv.id, toInv.id] db₂ db' := by
      have hfirst := alone_refreshInvoicePaidStatus world fromInv.id (tick + 3)
        (hkeyed₁.apply (.allocation ⟨tick + 1, payment.id, toInv.id, amount, none⟩))
      have hwork := refreshInvoicePaidStatus_work world fromInv.id (tick + 3) db₂
      have hsecond := alone_refreshInvoicePaidStatus world toInv.id
        (alone engine world (refreshInvoicePaidStatus fromInv.id) (tick + 3) db₂ none).tick
        (hfirst.wellKeyed (hkeyed₁.apply _))
      have hrun : db' = (alone engine world (refreshInvoicePaidStatus toInv.id)
          (alone engine world (refreshInvoicePaidStatus fromInv.id) (tick + 3) db₂ none).tick
          (alone engine world (refreshInvoicePaidStatus fromInv.id) (tick + 3) db₂ none).db
          none).db := by
        rw [hdb', hexec']
        change (alone engine world (refreshInvoicePaidStatus fromInv.id >>= fun _ => _) (tick + 3)
          db₂ none).db = _
        rw [alone_bind, hwork, alone_bind]
        rfl
      rw [hrun]
      exact hfirst.cons hsecond
    have hamount := hgood.sound.nonneg old hold
    have hfit := guards_fit hkeyed₁ hguard
    have hpayment : allocatedFrom payment.id (engine.visible db writes).allocations + amount ≤
        payment.amount := hfit.1 payment (hdeleted.payments ▸ hmem) rfl
    have htotal : allocatedTo toInv.id (engine.visible db writes).allocations + amount ≤
        toInv.total := hfit.2 toInv (hdeleted.invoices ▸ htoMem) rfl
    have hfromTotal := hgood.le_total hfromMem
    have htaken := hshift.taken payment.id
    have hdeletedTaken := hdeleted.taken payment.id
    have hplaced := hshift.placed fromInv.id
    have hplaced' := hshift.placed toInv.id
    have hdeletedPlaced := hdeleted.placed toInv.id
    rw [if_pos rfl] at htaken hdeletedTaken
    simp only [if_pos, if_neg hne, if_neg hne.symm] at hplaced hplaced' hdeletedPlaced
    have hfromTotal' : allocatedTo fromInv.id db₂.allocations ≤ fromInv.total := by omega
    have htoTotal' : allocatedTo toInv.id db₂.allocations ≤ toInv.total := by omega
    have hdue : Table.total (fun row => (row.refreshed db₂.allocations [fromInv.id, toInv.id]).due
          db₂.allocations org clientId) db.invoices =
        Table.total (Invoice.due db.allocations org clientId) db.invoices +
          -(if fromInv.status.terminal = true then 0 else
            allocatedTo fromInv.id db₂.allocations - allocatedTo fromInv.id db.allocations) +
          -(allocatedTo toInv.id db₂.allocations - allocatedTo toInv.id db.allocations) := by
      refine Table.total_shift_pair hkeyed.invoices hfromMem htoMem hne
        (hsource.due_refreshed (by simp) hfromTotal hfromTotal')
        (hshown.due_refreshed (by simp) (hgood.le_total htoMem) htoTotal')
        fun row _ hnotFrom hnotTo => Invoice.due_refreshed_other (by simp [hnotFrom, hnotTo]) ?_
      rw [hshift.placed, if_neg hnotFrom, if_neg hnotTo, add_zero, add_zero]
    rw [hplaced, hplaced', add_assoc, ← neg_add] at hdue
    have hsettled := balance_settled hshift hrefresh hkeyed hmem rfl hspend
      (hgood.le_amount hmem) (by omega) hdue
    rw [hsettled, freed, hrefresh.allocations, hplaced]
    split <;> omega

end Removal

section Moves

/-- Payment whose money an operation moves. -/
def Operation.paymentId : Operation → Option Nat
  | .allocate _ paymentId _ _ => some paymentId
  | .allocateAuto _ paymentId _ => some paymentId
  | .reallocate _ paymentId _ _ _ => some paymentId
  | .unapply _ paymentId _ => some paymentId
  | _ => none

/-- Invoice an operation names to apply money to. -/
def Operation.target : Operation → Option Nat
  | .allocate _ _ invoiceId _ => some invoiceId
  | .reallocate _ _ _ toId _ => some toId
  | _ => none

/-- Invoice an operation takes money off. -/
def Operation.source : Operation → Option Nat
  | .reallocate _ _ fromId _ _ => some fromId
  | .unapply _ _ invoiceId => some invoiceId
  | _ => none

/-- What an operation took off a void or cancelled invoice. -/
def Operation.freed (op : Operation) (before after : Db) : Int :=
  match before.invoices.find? fun row => op.source == some row.id with
  | none => 0
  | some invoice => Billing.freed before after invoice

variable {columns : Columns} {db : Db} {org clientId tick : Nat}

theorem Operation.freed_of_no_source {op : Operation} (h : op.source = none) (before after : Db) :
    op.freed before after = 0 := by
  have hfind : (before.invoices.find? fun row => op.source == some row.id) = none :=
    List.find?_eq_none.mpr fun row _ => by simp [h]
  rw [Operation.freed, hfind]

theorem Operation.freed_of_source {op : Operation} {before after : Db} {invoice : Invoice}
    (hkeyed : before.WellKeyed) (hmem : invoice ∈ before.invoices)
    (h : op.source = some invoice.id) :
    op.freed before after = Billing.freed before after invoice := by
  have hfind : (before.invoices.find? fun row => op.source == some row.id) = some invoice :=
    Table.find?_eq_some hkeyed.invoices hmem (by simp [h]) fun row _ hrow => by
      rw [h] at hrow
      exact (Option.some.inj (beq_iff_eq.mp hrow)).symm
  rw [Operation.freed, hfind]

theorem paymentOf_unique {paymentId : Nat} {payment payment' : Payment} (hkeyed : db.WellKeyed)
    (hmem : payment ∈ db.payments) (hid : payment.id = paymentId)
    (hfound : paymentOf paymentId org db = some payment') :
    payment' = payment ∧ payment'.organizationId = org := by
  have hmatch := List.find?_some hfound
  simp only [Bool.and_eq_true, beq_iff_eq] at hmatch
  exact ⟨List.inj_on_of_nodup_map hkeyed.payments (List.mem_of_find?_eq_some hfound) hmem
    (hmatch.1.1.trans hid.symm), hmatch.1.2⟩

theorem Passable.of_shown {payment : Payment} {invoice : Invoice} (hkeyed : db.WellKeyed)
    (hstored : payment ∈ db.payments) (hspend : payment.Spendable columns org clientId)
    (hmem : invoice ∈ db.invoices) (hshown : invoice.Shown db.allocations org clientId) :
    Passable columns db org clientId payment invoice := by
  refine ⟨hstored, hspend, fun row hrow hid => ?_⟩
  obtain rfl : row = invoice := List.inj_on_of_nodup_map hkeyed.invoices hrow hmem hid
  exact ⟨hshown, rfl⟩

/-- Moves between shown invoices keep the balance; money off a void or cancelled one lowers it. -/
theorem balance_moved (world : Nat → (e : Effect) → e.Answer) (columns : Columns) {s : Books}
    {op : Operation} {org clientId : Nat} (hgood : s.db.Good s.tick)
    (hpayment : ∃ payment ∈ s.db.payments, op.paymentId = some payment.id ∧
      payment.Spendable columns org clientId)
    (htarget : ∀ id, op.target = some id → ∃ invoice ∈ s.db.invoices, invoice.id = id ∧
      invoice.Shown s.db.allocations org clientId)
    (hsource : ∀ id, op.source = some id → ∃ invoice ∈ s.db.invoices, invoice.id = id ∧
      invoice.Source s.db.allocations org clientId) :
    (computeClientBalance columns (s.step world op).db org clientId).balance =
      (computeClientBalance columns s.db org clientId).balance -
        op.freed s.db (s.step world op).db := by
  obtain ⟨payment, hmem, hid, hspend⟩ := hpayment
  have hkeyed := hgood.sound.keyed
  cases op with
  | allocate org' paymentId invoiceId amount =>
    obtain rfl : paymentId = payment.id := Option.some.inj hid
    rw [Operation.freed_of_no_source rfl, sub_zero]
    rcases allocate_cases world org' payment.id invoiceId amount s.tick s.db with
      hsame | ⟨invoice, hinvoice, hto, -, hrun⟩
    · exact congrArg (fun db => (computeClientBalance columns db org clientId).balance) hsame
    · obtain ⟨invoice', hinvoice', hto', hshown⟩ := htarget invoiceId rfl
      obtain rfl : invoice = invoice' :=
        List.inj_on_of_nodup_map hkeyed.invoices hinvoice hinvoice' (hto.trans hto'.symm)
      have hpass := Passable.of_shown hkeyed hmem hspend hinvoice hshown
      have hbalance := applyAllocation_balance world org' hpass
        (hgood.later (Nat.le_add_right s.tick 2)) (Int.natCast_nonneg amount)
      rw [← hrun] at hbalance
      exact hbalance
  | allocateAuto org' paymentId ids =>
    obtain rfl : paymentId = payment.id := Option.some.inj hid
    rw [Operation.freed_of_no_source rfl, sub_zero]
    rcases allocateAuto_cases world org' payment.id ids s.tick s.db with
      hsame | ⟨payment', rows, remainder, hfound, hrows, hrun⟩
    · exact congrArg (fun db => (computeClientBalance columns db org clientId).balance) hsame
    · obtain ⟨rfl, horg⟩ := paymentOf_unique hkeyed hmem rfl hfound
      have hpass : ∀ row ∈ rows, Passable columns s.db org clientId payment' row.1 := by
        intro row hrow
        obtain ⟨hinvoice, hclient, horg', hlive, hpayable⟩ :=
          of_mem_payableInvoices (hrows row hrow)
        exact Passable.of_shown hkeyed hmem hspend hinvoice
          ⟨hclient.trans hspend.clientId, horg'.trans (horg.symm.trans hspend.organizationId),
            hlive, Or.inl hpayable⟩
      have hbalance := distribute_balance world org' rows remainder hpass
        (hgood.later (Nat.le_add_right s.tick 4))
      rw [← hrun] at hbalance
      exact hbalance
  | reallocate org' paymentId fromId toId amount =>
    obtain rfl : paymentId = payment.id := Option.some.inj hid
    obtain ⟨fromInv, hfromMem, rfl, hfromSource⟩ := hsource fromId rfl
    obtain ⟨toInv, htoMem, rfl, hshown⟩ := htarget toId rfl
    rw [Operation.freed_of_source hkeyed hfromMem rfl]
    have hrefused : ∀ {after : Books}, after.db = s.db →
        (computeClientBalance columns after.db org clientId).balance =
          (computeClientBalance columns s.db org clientId).balance -
            Billing.freed s.db after.db fromInv := fun {after} hdb => by
      rw [hdb, Billing.freed_self, sub_zero]
    rcases reallocate_cases world org' payment.id fromInv.id toInv.id amount s.tick s.db with
      hsame | ⟨old, hold, -, -, hfrom, hto, hlive, -, -, hrun⟩
    · exact hrefused hsame
    · by_cases hne : fromInv.id = toInv.id
      · exact hrefused (by simp [Books.step, Operation.request, reallocate, hne])
      · have hbalance := replaceAllocation_balance world org' (amount.getD old.amount)
          (hgood.later (Nat.le_add_right s.tick 4)) hmem hspend hfromMem htoMem hne hfromSource
          hshown hold hlive hfrom hto
        rw [← hrun] at hbalance
        exact hbalance
  | unapply org' paymentId invoiceId =>
    obtain rfl : paymentId = payment.id := Option.some.inj hid
    obtain ⟨invoice, hinvoice, rfl, hinvoiceSource⟩ := hsource invoiceId rfl
    rw [Operation.freed_of_source hkeyed hinvoice rfl]
    rcases unapply_cases world org' payment.id invoice.id s.tick s.db with
      hsame | ⟨row, hrow, hfrom, hto, hlive, hrun⟩
    · have hdb : (s.step world (.unapply org' payment.id invoice.id)).db = s.db := hsame
      rw [hdb, Billing.freed_self, sub_zero]
    · have hbalance := removeAllocation_balance world (hgood.later (Nat.le_add_right s.tick 3))
        hmem hspend hinvoice hinvoiceSource hrow hlive hfrom hto
      rw [← hrun] at hbalance
      exact hbalance
  | deletePayment org' paymentId => cases hid
  | restorePayment org' paymentId => cases hid
  | voidInvoiceById invoiceId org' => cases hid
  | settleInvoiceTerminal invoiceId org' status action forbidFrom => cases hid

/-- Columns of the sample: completed payments in pesos, no credit notes. -/
def sampleColumns : Columns where
  paymentStatus := fun _ => .completed
  invoiceCurrency := fun _ => "MXN"
  creditNotes := []
  getCurrency := fun _ => "MXN"

/-- The sample once half of invoice 1 was paid and the invoice cancelled. -/
def cancelledBooks : Books :=
  Transition.run (Books.step quietWorld) sampleBooks
    [.allocate 1 1 1 5000, .settleInvoiceTerminal 1 1 .cancelled "cancel_cfdi" []]

theorem cancelledBooks_good : cancelledBooks.db.Good cancelledBooks.tick :=
  Books.step_good (Books.step_good sampleBooks_good trivial) trivial

/-- Moving the money of a cancelled invoice to an open one. -/
theorem balance_moved_sample :
    (computeClientBalance sampleColumns
        (cancelledBooks.step quietWorld (.reallocate 1 1 1 2 none)).db 1 1).balance =
      (computeClientBalance sampleColumns cancelledBooks.db 1 1).balance -
        (Operation.reallocate 1 1 1 2 none).freed cancelledBooks.db
          (cancelledBooks.step quietWorld (.reallocate 1 1 1 2 none)).db := by
  refine balance_moved quietWorld sampleColumns cancelledBooks_good
    ⟨⟨1, 1, 1, 10000, "MXN", none, none⟩, by decide, rfl, ⟨rfl, rfl, rfl, rfl⟩⟩ ?_ ?_
  · intro id hid
    obtain rfl := Option.some.inj hid
    exact ⟨⟨2, 1, 1, none, "A-2", 2, 10000, .issued, none, none⟩, by decide, rfl,
      ⟨rfl, rfl, rfl, Or.inl rfl⟩⟩
  · intro id hid
    obtain rfl := Option.some.inj hid
    exact ⟨⟨1, 1, 1, none, "A-1", 1, 10000, .cancelled, none, none⟩, by decide, rfl, Or.inr rfl⟩

/-- A reallocation away from a cancelled invoice lowers the balance. -/
theorem balance_not_kept :
    (∃ row, (alone engine quietWorld (reallocate 1 1 1 2 none) cancelledBooks.tick
      cancelledBooks.db none).value = .ok 201 (.allocation row)) ∧
    (computeClientBalance sampleColumns cancelledBooks.db 1 1).balance = 15000 ∧
    (computeClientBalance sampleColumns
      (cancelledBooks.step quietWorld (.reallocate 1 1 1 2 none)).db 1 1).balance = 10000 := by
  refine ⟨⟨_, rfl⟩, ?_, ?_⟩ <;> decide

end Moves

end FireIsp.Billing
