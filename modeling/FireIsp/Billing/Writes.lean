import FireIsp.Billing.Statements

/-!
# What the statements write

One inversion lemma for all billing statements: every row version a statement writes is
a soft delete or restore of a payment, a status change of an invoice, an accepted
allocation insert, a changed `deleted_at` of an allocation, or a ledger entry.  The
amounts the guards compare with never change.
-/

namespace FireIsp.Billing

open Txn

/-- Status the statement gives to the invoice, if it changes it. -/
def Stmt.Sets : Stmt → Nat → InvoiceStatus → Prop
  | .markPaid invoiceId _, id, status => invoiceId = id ∧ status = .paid
  | .markIssued invoiceId, id, status => invoiceId = id ∧ status = .issued
  | .updateStatus invoiceId _ new, id, status => invoiceId = id ∧ status = new
  | _, _, _ => False

/-- Row versions a statement can write. -/
inductive Wrote (stmt : Stmt) (tick : Nat) (current view : Db) : Write → Prop
  | payment (old : Payment) (hold : old ∈ current.payments) (deletedAt : Option Nat) :
      Wrote stmt tick current view (.payment { old with deletedAt })
  | invoice (old : Invoice) (hold : old ∈ current.invoices) (status : InvoiceStatus)
      (paidAt : Option Nat) (hsets : stmt.Sets old.id status) :
      Wrote stmt tick current view (.invoice { old with status, paidAt })
  | inserted (paymentId invoiceId : Nat) (amount : Int)
      (hstmt : stmt = .insertAllocation paymentId invoiceId amount)
      (hguard : guardsAccept view ⟨tick, paymentId, invoiceId, amount, none⟩ none = true)
      (hpayment : ∃ row ∈ current.payments, row.id = paymentId)
      (hinvoice : ∃ row ∈ current.invoices, row.id = invoiceId) :
      Wrote stmt tick current view (.allocation ⟨tick, paymentId, invoiceId, amount, none⟩)
  | deleted (old : Allocation) (hold : old ∈ current.allocations) (deletedAt : Nat) :
      Wrote stmt tick current view (.allocation { old with deletedAt := some deletedAt })
  /-- Restore of a soft-deleted allocation. -/
  | revived (old : Allocation) (hold : old ∈ current.allocations) (hdead : old.live = false)
      (hstmt : stmt = .reviveAllocationsOf old.paymentId) :
      Wrote stmt tick current view (.allocation { old with deletedAt := none })
  | ledger (row : LedgerEntry) : Wrote stmt tick current view (.ledger row)
  | dropLedger (id : Nat) : Wrote stmt tick current view (.dropLedger id)

variable {deletedAt : Option Nat} {rows : List Allocation} {current view : Db} {writes : List Write}

theorem updateDeletedAt_ok (h : updateDeletedAt deletedAt rows current view = .ok writes) :
    writes = rows.map fun row => .allocation { row with deletedAt := deletedAt } := by
  induction rows generalizing current view writes with
  | nil => exact (Except.ok.inj h).symm
  | cons row rows ih =>
    simp only [updateDeletedAt] at h
    split at h
    · cases h
    · split at h
      · cases h
      · split at h
        · cases h
        · rename_i rest hrest
          rw [← Except.ok.inj h, ih hrest, List.map_cons]

variable {w : Write}

theorem mem_statementReply
    (h : w ∈ (statementReply (updateDeletedAt deletedAt rows current view)).2) :
    ∃ row ∈ rows, w = .allocation { row with deletedAt := deletedAt } := by
  cases hupdate : updateDeletedAt deletedAt rows current view with
  | error e =>
    rw [hupdate] at h
    cases h
  | ok writes =>
    rw [hupdate, updateDeletedAt_ok hupdate] at h
    obtain ⟨row, hrow, rfl⟩ := List.mem_map.mp h
    exact ⟨row, hrow, rfl⟩

theorem exec_wrote (stmt : Stmt) (tick : Nat) (current view : Db) :
    ∀ w ∈ (stmt.exec tick current view).2, Wrote stmt tick current view w := by
  intro w hw
  cases stmt with
  | insertAllocation paymentId invoiceId amount =>
    simp only [Stmt.exec] at hw
    split at hw
    · cases hw
    · rename_i hguard
      split at hw
      · cases hw
      · split at hw
        · rename_i hparents
          simp only [Bool.and_eq_true, List.any_eq_true, beq_iff_eq] at hparents
          obtain rfl := List.mem_singleton.mp hw
          exact .inserted _ _ _ rfl (by simpa using hguard) hparents.1 hparents.2
        · cases hw
  | softDeleteAllocation id onlyLive =>
    obtain ⟨row, hrow, rfl⟩ := mem_statementReply hw
    exact .deleted row (List.mem_of_mem_filter hrow) tick
  | deleteAllocationsOf paymentId =>
    obtain ⟨row, hrow, rfl⟩ := mem_statementReply hw
    exact .deleted row (List.mem_of_mem_filter hrow) tick
  | releaseAllocationsTo invoiceId =>
    obtain ⟨row, hrow, rfl⟩ := mem_statementReply hw
    exact .deleted row (List.mem_of_mem_filter hrow) tick
  | reviveAllocationsOf paymentId =>
    obtain ⟨row, hrow, rfl⟩ := mem_statementReply hw
    obtain ⟨hmem, hmatch⟩ := List.mem_filter.mp hrow
    simp only [Bool.and_eq_true, beq_iff_eq, Bool.not_eq_true'] at hmatch
    exact .revived row hmem hmatch.2 (by rw [hmatch.1])
  | markPaid invoiceId unlessPaid =>
    obtain ⟨row, hrow, rfl⟩ := List.mem_map.mp hw
    obtain ⟨hmem, hmatch⟩ := List.mem_filter.mp hrow
    simp only [Bool.and_eq_true, beq_iff_eq] at hmatch
    exact .invoice row hmem .paid _ ⟨hmatch.1.symm, rfl⟩
  | markIssued invoiceId =>
    obtain ⟨row, hrow, rfl⟩ := List.mem_map.mp hw
    obtain ⟨hmem, hmatch⟩ := List.mem_filter.mp hrow
    simp only [Bool.and_eq_true, beq_iff_eq] at hmatch
    exact .invoice row hmem .issued _ ⟨hmatch.1.symm, rfl⟩
  | updateStatus id org status =>
    obtain ⟨row, hrow, rfl⟩ := List.mem_map.mp hw
    have hfind := Option.mem_toList.mp hrow
    have hmatch := List.find?_some hfind
    simp only [Bool.and_eq_true, beq_iff_eq] at hmatch
    exact .invoice row (List.mem_of_find?_eq_some hfind) status _ ⟨hmatch.1.1.symm, rfl⟩
  | softDeletePayment id org =>
    obtain ⟨row, hrow, rfl⟩ := List.mem_map.mp hw
    exact .payment row (List.mem_of_find?_eq_some (Option.mem_toList.mp hrow)) _
  | restorePayment id org =>
    obtain ⟨row, hrow, rfl⟩ := List.mem_map.mp hw
    exact .payment row (List.mem_of_find?_eq_some (Option.mem_toList.mp hrow)) _
  | deletePaymentCredit paymentId =>
    obtain ⟨row, -, rfl⟩ := List.mem_map.mp hw
    exact .dropLedger _
  | deleteInvoiceCredits invoiceId clientId =>
    obtain ⟨row, -, rfl⟩ := List.mem_map.mp hw
    exact .dropLedger _
  | insertPaymentCredit payment org =>
    obtain rfl := List.mem_singleton.mp hw
    exact .ledger _
  | zeroInvoiceLedger invoiceId clientId =>
    obtain ⟨row, -, rfl⟩ := List.mem_map.mp hw
    exact .ledger _
  | _ => cases hw

theorem insertAllocation_writes (paymentId invoiceId : Nat) (amount : Int) (tick : Nat)
    (current view : Db) :
    let new : Allocation := ⟨tick, paymentId, invoiceId, amount, none⟩
    ((Stmt.insertAllocation paymentId invoiceId amount).exec tick current view).2 = [] ∨
      (((Stmt.insertAllocation paymentId invoiceId amount).exec tick current view).2 =
          [.allocation new] ∧ guardsAccept view new none = true) := by
  intro new
  simp only [Stmt.exec]
  split
  · exact Or.inl rfl
  · rename_i hguard
    split
    · exact Or.inl rfl
    · split
      · exact Or.inr ⟨rfl, by simpa using hguard⟩
      · exact Or.inl rfl

/-- Amounts of all payments and totals of all invoices, by id. -/
structure Caps where
  payments : List (Nat × Int)
  invoices : List (Nat × Int)

/-- Amounts the guards compare with. -/
def Db.caps (db : Db) : Caps :=
  ⟨db.payments.map fun row => (row.id, row.amount), db.invoices.map fun row => (row.id, row.total)⟩

/-- The row version repeats the amount on record. -/
def Write.KeepsCaps (caps : Caps) : Write → Prop
  | .payment row => (row.id, row.amount) ∈ caps.payments
  | .invoice row => (row.id, row.total) ∈ caps.invoices
  | _ => True

variable {db : Db}

theorem Db.caps_apply (hkeyed : db.WellKeyed) (h : w.KeepsCaps db.caps) :
    (db.apply w).caps = db.caps := by
  cases w with
  | payment row =>
    obtain ⟨old, hold, heq⟩ := List.mem_map.mp h
    have hmap := Table.map_put (g := fun row : Payment => (row.id, row.amount)) hkeyed.payments
      hold (congrArg Prod.fst heq) heq
    simp only [Db.caps, Db.apply, hmap]
  | invoice row =>
    obtain ⟨old, hold, heq⟩ := List.mem_map.mp h
    have hmap := Table.map_put (g := fun row : Invoice => (row.id, row.total)) hkeyed.invoices
      hold (congrArg Prod.fst heq) heq
    simp only [Db.caps, Db.apply, hmap]
  | allocation row => rfl
  | ledger row => rfl
  | dropLedger id => rfl

theorem Wrote.keepsCaps {stmt : Stmt} {tick : Nat} (h : Wrote stmt tick current view w) :
    w.KeepsCaps current.caps := by
  cases h with
  | payment old hold deletedAt => exact List.mem_map.mpr ⟨old, hold, rfl⟩
  | invoice old hold status paidAt hsets => exact List.mem_map.mpr ⟨old, hold, rfl⟩
  | inserted => trivial
  | deleted => trivial
  | revived => trivial
  | ledger => trivial
  | dropLedger => trivial

theorem visible_caps (hkeyed : db.WellKeyed) (h : ∀ w ∈ writes, w.KeepsCaps db.caps) :
    (engine.visible db writes).WellKeyed ∧ (engine.visible db writes).caps = db.caps := by
  refine Engine.visible_invariant (E := engine)
    (I := fun state => state.WellKeyed ∧ state.caps = db.caps) ?_ ⟨hkeyed, rfl⟩
  rintro state w hw ⟨hstate, hcaps⟩
  refine ⟨hstate.apply w, ?_⟩
  exact (Db.caps_apply hstate (hcaps ▸ h w hw)).trans hcaps

/-- Allocation versions among writes. -/
def allocationWrites (writes : List Write) : List Allocation :=
  writes.filterMap fun
    | .allocation row => some row
    | _ => none

theorem mem_allocationWrites {row : Allocation} :
    row ∈ allocationWrites writes ↔ Write.allocation row ∈ writes := by
  simp only [allocationWrites, List.mem_filterMap]
  constructor
  · rintro ⟨w, hw, heq⟩
    cases w <;> simp_all
  · exact fun h => ⟨_, h, rfl⟩

theorem visible_allocations (db : Db) (writes : List Write) :
    (engine.visible db writes).allocations =
      Table.putAll Allocation.id db.allocations (allocationWrites writes) := by
  induction writes generalizing db with
  | nil => rfl
  | cons w writes ih =>
    rw [Engine.visible_cons, ih]
    cases w <;> rfl

theorem visible_updateDeletedAt_other (h : updateDeletedAt deletedAt rows current view = .ok writes)
    (db : Db) :
    (engine.visible db writes).invoices = db.invoices ∧
      (engine.visible db writes).payments = db.payments := by
  refine Engine.visible_invariant (E := engine)
    (I := fun state => state.invoices = db.invoices ∧ state.payments = db.payments) ?_ ⟨rfl, rfl⟩
  rintro state w hw ⟨hinvoices, hpayments⟩
  rw [updateDeletedAt_ok h] at hw
  obtain ⟨row, -, rfl⟩ := List.mem_map.mp hw
  exact ⟨hinvoices, hpayments⟩

theorem visible_updateDeletedAt {p : Allocation → Bool} (hkeyed : db.WellKeyed)
    (hok : updateDeletedAt deletedAt (db.allocations.filter p) current view = .ok writes) :
    (engine.visible db writes).allocations =
      db.allocations.map fun row => if p row then { row with deletedAt := deletedAt } else row := by
  have hrows : allocationWrites writes =
      (db.allocations.filter p).map fun row => { row with deletedAt := deletedAt } := by
    rw [updateDeletedAt_ok hok]
    induction db.allocations.filter p with
    | nil => rfl
    | cons row rows ih => exact congrArg _ ih
  rw [visible_allocations, hrows]
  exact Table.putAll_updates hkeyed.allocations fun _ => rfl

/-- Row versions of the ledger. -/
def Write.OnLedger : Write → Prop
  | .ledger _ => True
  | .dropLedger _ => True
  | _ => False

theorem visible_ledger_only (db : Db) (h : ∀ w ∈ writes, w.OnLedger) :
    (engine.visible db writes).payments = db.payments ∧
      (engine.visible db writes).invoices = db.invoices ∧
      (engine.visible db writes).allocations = db.allocations := by
  refine Engine.visible_invariant (E := engine)
    (I := fun state => state.payments = db.payments ∧ state.invoices = db.invoices ∧
      state.allocations = db.allocations) ?_ ⟨rfl, rfl, rfl⟩
  intro state w hw hstate
  cases w with
  | ledger row => exact hstate
  | dropLedger id => exact hstate
  | _ => exact (h _ hw).elim

theorem onLedger_deletePaymentCredit (paymentId tick : Nat) (current view : Db) :
    ∀ w ∈ ((Stmt.deletePaymentCredit paymentId).exec tick current view).2, w.OnLedger := by
  intro w hw
  obtain ⟨row, -, rfl⟩ := List.mem_map.mp hw
  trivial

theorem onLedger_insertPaymentCredit (payment : Payment) (org tick : Nat) (current view : Db) :
    ∀ w ∈ ((Stmt.insertPaymentCredit payment org).exec tick current view).2, w.OnLedger := by
  intro w hw
  obtain rfl := List.mem_singleton.mp hw
  trivial

end FireIsp.Billing
