import FireIsp.Billing.Refresh
import FireIsp.Billing.Terminal

/-!
# Deleting and restoring a payment

Soft-deleting a payment releases its live allocations, restoring it revives its
soft-deleted ones.  The two sets are told apart by nothing but `deleted_at`, so the pair
of operations gives the old state back exactly when no allocation was soft-deleted
before, the guard triggers let the released ones return, and every touched invoice had
the status a refresh gives it.
-/

namespace FireIsp.Billing

open Txn

/-- The row with its deletion time forgotten. -/
def Allocation.undated (row : Allocation) : Allocation :=
  { row with deletedAt := row.deletedAt.map fun _ => 0 }

@[simp] theorem Allocation.undated_live (row : Allocation) : row.undated.live = row.live := by
  cases h : row.deletedAt <;> simp [Allocation.undated, Allocation.live, h]

theorem Allocation.columns_of_undated {row row' : Allocation} (h : row'.undated = row.undated) :
    row'.id = row.id ∧ row'.paymentId = row.paymentId ∧ row'.invoiceId = row.invoiceId ∧
      row'.amount = row.amount := by
  simp only [Allocation.undated, Allocation.mk.injEq] at h
  exact ⟨h.1, h.2.1, h.2.2.1, h.2.2.2.1⟩

/-- Same amounts on record and same allocations up to deletion times. -/
structure Alike (db db' : Db) : Prop where
  caps : db'.caps = db.caps
  allocations : db'.allocations.map Allocation.undated = db.allocations.map Allocation.undated

/-- The guard triggers let all listed rows take this `deleted_at`. -/
def Db.accepts (db : Db) (deletedAt : Option Nat) (rows : List Allocation) : Bool :=
  (updateDeletedAt deletedAt rows db db).isOk

section Guards

theorem sumAmounts_undated {p : Allocation → Bool} (hp : ∀ row : Allocation, p row.undated = p row)
    (rows : List Allocation) : sumAmounts p (rows.map Allocation.undated) = sumAmounts p rows := by
  simp only [sumAmounts, List.map_map]
  congr 1
  refine List.map_congr_left fun row _ => ?_
  simp only [Function.comp, hp]
  rfl

variable {db db' : Db}

theorem Alike.sumAmounts_eq (h : Alike db db') {p : Allocation → Bool}
    (hp : ∀ row : Allocation, p row.undated = p row) :
    sumAmounts p db'.allocations = sumAmounts p db.allocations := by
  rw [← sumAmounts_undated hp, h.allocations, sumAmounts_undated hp]

theorem Alike.allocatedTo_eq (h : Alike db db') (id : Nat) :
    allocatedTo id db'.allocations = allocatedTo id db.allocations :=
  h.sumAmounts_eq fun row => by rw [Allocation.undated_live]; rfl

theorem find?_amount {ρ : Type} (key : ρ → Nat) (amount : ρ → Int) (k : Nat)
    (rows : List ρ) :
    (rows.find? fun row => key row == k).map amount =
      ((rows.map fun row => (key row, amount row)).find? fun cap => cap.1 == k).map Prod.snd := by
  rw [List.find?_map, Option.map_map]
  rfl

variable {new new' : Allocation}

theorem Alike.guardsAccept_eq (h : Alike db db') (hnew : new'.undated = new.undated)
    (skip : Option Nat) :
    guardsAccept db' new' skip = guardsAccept db new skip := by
  obtain ⟨-, hpayment, hinvoice, hamount⟩ := Allocation.columns_of_undated hnew
  have hpayments : (db'.payments.find? fun row => row.id == new.paymentId).map Payment.amount =
      (db.payments.find? fun row => row.id == new.paymentId).map Payment.amount := by
    rw [find?_amount Payment.id, find?_amount Payment.id]
    exact congrArg _ (congrArg _ (congrArg Caps.payments h.caps))
  have hinvoices : (db'.invoices.find? fun row => row.id == new.invoiceId).map Invoice.total =
      (db.invoices.find? fun row => row.id == new.invoiceId).map Invoice.total := by
    rw [find?_amount Invoice.id, find?_amount Invoice.id]
    exact congrArg _ (congrArg _ (congrArg Caps.invoices h.caps))
  have hsum : ∀ p : Allocation → Bool, (∀ row : Allocation, p row.undated = p row) →
      guardSum p skip db'.allocations = guardSum p skip db.allocations := fun p hp =>
    h.sumAmounts_eq fun row => by
      rw [Allocation.undated_live, hp]
      rfl
  unfold guardsAccept
  rw [hpayment, hinvoice, hamount, hsum _ fun _ => rfl, hsum _ fun _ => rfl]
  congr 1
  · cases hold : db.payments.find? fun row => row.id == new.paymentId <;>
      cases hnow : db'.payments.find? fun row => row.id == new.paymentId <;>
        simp_all
  · cases hold : db.invoices.find? fun row => row.id == new.invoiceId <;>
      cases hnow : db'.invoices.find? fun row => row.id == new.invoiceId <;>
        simp_all

theorem Alike.pairTaken_eq (h : Alike db db') (hnew : new'.undated = new.undated) :
    pairTaken db' new' = pairTaken db new := by
  obtain ⟨hid, hpayment, hinvoice, -⟩ := Allocation.columns_of_undated hnew
  have hpair : ∀ row : Allocation, row.samePair new' = row.samePair new := fun row => by
    unfold Allocation.samePair
    rw [hpayment, hinvoice]
  have hany : ∀ rows : List Allocation,
      (rows.any fun row => row.live && row.id != new.id && row.samePair new) =
        (rows.map Allocation.undated).any fun row =>
          row.live && row.id != new.id && row.samePair new := fun rows => by
    rw [List.any_map]
    congr 1
    funext row
    rw [Function.comp, Allocation.undated_live]
    rfl
  unfold pairTaken
  simp only [hid, hpair]
  rw [hany, h.allocations, ← hany]

theorem Alike.apply (h : Alike db db') (hnew : new'.undated = new.undated) :
    Alike (db.apply (.allocation new)) (db'.apply (.allocation new')) := by
  refine ⟨h.caps, ?_⟩
  have hput : ∀ (row : Allocation) (rows : List Allocation),
      (Table.put Allocation.id row rows).map Allocation.undated =
        Table.put Allocation.id row.undated (rows.map Allocation.undated) :=
    Table.map_put_comm fun _ => rfl
  simp only [Db.apply, hput, hnew, h.allocations]

theorem updateDeletedAt_isOk_cons (deletedAt : Option Nat) (row : Allocation)
    (rows : List Allocation) (current view : Db) :
    let new : Allocation := { row with deletedAt := deletedAt }
    (updateDeletedAt deletedAt (row :: rows) current view).isOk =
      (guardsAccept view new (some row.id) && !(new.live && pairTaken current new) &&
        (updateDeletedAt deletedAt rows (current.apply (.allocation new))
          (view.apply (.allocation new))).isOk) := by
  intro new
  simp only [updateDeletedAt]
  split
  · rename_i hguard
    simp only [Bool.not_eq_true'] at hguard
    rw [hguard]
    rfl
  · rename_i hguard
    split
    · rename_i htaken
      rw [htaken, Bool.not_true, Bool.and_false]
      rfl
    · rename_i htaken
      simp only [Bool.not_eq_true', Bool.not_eq_false, Bool.not_eq_true] at hguard htaken
      rw [hguard, htaken]
      split <;> rename_i hrest <;> rw [hrest] <;> rfl

theorem updateDeletedAt_alike {deletedAt deletedAt' : Option Nat}
    (hdeleted : deletedAt'.map (fun _ => 0) = deletedAt.map fun _ => 0)
    {rows rows' : List Allocation}
    (hrows : rows'.map Allocation.undated = rows.map Allocation.undated)
    {current current' view view' : Db} (hcurrent : Alike current current')
    (hview : Alike view view') :
    (updateDeletedAt deletedAt' rows' current' view').isOk =
      (updateDeletedAt deletedAt rows current view).isOk := by
  induction rows generalizing rows' current current' view view' with
  | nil =>
    obtain rfl := List.map_eq_nil_iff.mp hrows
    rfl
  | cons row rows ih =>
    cases rows' with
    | nil => cases hrows
    | cons row' rows' =>
      obtain ⟨hrow, hrest⟩ := List.cons.inj hrows
      have hid : row'.id = row.id := (Allocation.columns_of_undated hrow).1
      have hnew : Allocation.undated { row' with deletedAt := deletedAt' } =
          Allocation.undated { row with deletedAt := deletedAt } := by
        simp only [Allocation.undated, Allocation.mk.injEq] at hrow ⊢
        exact ⟨hrow.1, hrow.2.1, hrow.2.2.1, hrow.2.2.2.1, hdeleted⟩
      have hlive : Allocation.live { row' with deletedAt := deletedAt' } =
          Allocation.live { row with deletedAt := deletedAt } := by
        rw [← Allocation.undated_live, hnew, Allocation.undated_live]
      have hnext := ih hrest (hcurrent.apply hnew) (hview.apply hnew)
      rw [updateDeletedAt_isOk_cons, updateDeletedAt_isOk_cons, hnext, hlive,
        hview.guardsAccept_eq hnew, hcurrent.pairTaken_eq hnew, hid]

theorem Alike.accepts_eq (h : Alike db db') {deletedAt deletedAt' : Option Nat}
    (hdeleted : deletedAt'.map (fun _ => 0) = deletedAt.map fun _ => 0)
    {rows rows' : List Allocation}
    (hrows : rows'.map Allocation.undated = rows.map Allocation.undated) :
    db'.accepts deletedAt' rows' = db.accepts deletedAt rows :=
  updateDeletedAt_alike hdeleted hrows h h

end Guards

def Db.released (db : Db) (paymentId : Nat) : Db :=
  { db with allocations := db.allocations.map fun row =>
      if row.paymentId == paymentId && row.live then { row with deletedAt := some 0 } else row }

/-- Deleting soft-deletes: the payment has live allocations, and the guards let all of them go. -/
def Releases (paymentId : Nat) (db : Db) : Prop :=
  liveAllocationsOf paymentId db ≠ [] ∧ db.accepts (some 0) (liveAllocationsOf paymentId db) = true

/-- Restoring revives: the payment has soft-deleted allocations, and the guards let all return. -/
def Revives (paymentId : Nat) (db : Db) : Prop :=
  deletedAllocationsOf paymentId db ≠ [] ∧ db.accepts none (deletedAllocationsOf paymentId db) = true

instance (paymentId : Nat) (db : Db) : Decidable (Releases paymentId db) :=
  inferInstanceAs (Decidable (_ ∧ _))

instance (paymentId : Nat) (db : Db) : Decidable (Revives paymentId db) :=
  inferInstanceAs (Decidable (_ ∧ _))

/-- The status a refresh gives: paid or not by all allocations, issued if others reach the total. -/
def Invoice.StatusFits (paymentId : Nat) (db : Db) (invoice : Invoice) : Prop :=
  if invoice.covered db.allocations then invoice.status = .paid
  else invoice.status ≠ .paid ∧
    (invoice.covered (db.released paymentId).allocations = true → invoice.status = .issued)

/-- The state before a payment deletion that a deletion and a restore give back. -/
def RestoresExactly (paymentId : Nat) (db : Db) : Prop :=
  if Releases paymentId db then
    deletedAllocationsOf paymentId db = [] ∧ Revives paymentId (db.released paymentId) ∧
      ∀ invoice ∈ db.invoices, invoice.live = true →
        invoice.id ∈ (liveAllocationsOf paymentId db).map Allocation.invoiceId →
          invoice.StatusFits paymentId db
  else ¬Revives paymentId db

def Db.statuses (db : Db) : List (Nat × InvoiceStatus) :=
  db.invoices.map fun row => (row.id, row.status)

/-- The same live allocations, and every invoice with the same status. -/
structure SameBooks (db db' : Db) : Prop where
  /-- Live rows of `payment_allocations`. -/
  live : ∀ row : Allocation, row.live = true → (row ∈ db'.allocations ↔ row ∈ db.allocations)
  statuses : ∀ entry, entry ∈ db'.statuses ↔ entry ∈ db.statuses

/-- What an accepted `deleted_at` update and the refresh after it do to the tables. -/
structure Redated (p : Allocation → Bool) (deletedAt : Option Nat) (db db' : Db) : Prop where
  payments : db'.payments = db.payments
  allocations : db'.allocations =
    db.allocations.map fun row => if p row then { row with deletedAt := deletedAt } else row
  invoices : db'.invoices.map Invoice.undated = db.invoices.map
    (Invoice.refreshed db'.allocations ((db.allocations.filter p).map Allocation.invoiceId).dedup)

section Passes

variable (world : Nat → (e : Effect) → e.Answer) {db : Db}

theorem redated_of_ok {p : Allocation → Bool} {deletedAt : Option Nat} {tick : Nat}
    {writes : List Write} (hkeyed : db.WellKeyed)
    (hok : updateDeletedAt deletedAt (db.allocations.filter p) db db = .ok writes) :
    Redated p deletedAt db (alone engine world
      (refreshAll ((db.allocations.filter p).map Allocation.invoiceId).dedup) tick
      (engine.visible db writes) none).db := by
  have hallocations := visible_updateDeletedAt hkeyed hok
  obtain ⟨hinvoices, hpayments⟩ := visible_updateDeletedAt_other hok db
  have hkeyed' : (engine.visible db writes).WellKeyed :=
    Engine.visible_invariant (E := engine) (fun _ w _ h => h.apply w) hkeyed
  have hrefreshed := alone_refreshAll world
    ((db.allocations.filter p).map Allocation.invoiceId).dedup tick hkeyed'
  refine ⟨hrefreshed.payments.trans hpayments, hrefreshed.allocations.trans hallocations, ?_⟩
  rw [hrefreshed.invoices, hrefreshed.allocations, hinvoices]

theorem accepts_of_time {deletedAt deletedAt' : Option Nat} (rows : List Allocation)
    (hdeleted : deletedAt'.map (fun _ => 0) = deletedAt.map fun _ => 0) :
    db.accepts deletedAt' rows = db.accepts deletedAt rows :=
  Alike.accepts_eq ⟨rfl, rfl⟩ hdeleted rfl

theorem reverse_cases (paymentId tick : Nat) (hkeyed : db.WellKeyed) :
    let db' := (alone engine world (reversePaymentAllocations paymentId) tick db none).db
    (¬Releases paymentId db ∧ db' = db) ∨
      (Releases paymentId db ∧
        Redated (fun row => row.paymentId == paymentId && row.live) (some (tick + 1)) db db') := by
  intro db'
  have hrun : db' = _ := alone_reversePaymentAllocations world paymentId tick db
  have htime : db.accepts (some (tick + 1)) (liveAllocationsOf paymentId db) =
      db.accepts (some 0) (liveAllocationsOf paymentId db) := accepts_of_time _ rfl
  by_cases hempty : liveAllocationsOf paymentId db = []
  · rw [if_pos hempty] at hrun
    exact Or.inl ⟨fun h => h.1 hempty, hrun⟩
  · rw [if_neg hempty] at hrun
    cases hupdate : updateDeletedAt (some (tick + 1)) (liveAllocationsOf paymentId db) db db with
    | error err =>
      rw [hupdate] at hrun
      refine Or.inl ⟨fun h => ?_, hrun⟩
      have haccepts := h.2
      rw [← htime, Db.accepts, hupdate] at haccepts
      cases haccepts
    | ok writes =>
      rw [hupdate] at hrun
      refine Or.inr ⟨⟨hempty, ?_⟩, ?_⟩
      · rw [← htime, Db.accepts, hupdate]
        rfl
      · rw [hrun]
        exact redated_of_ok world hkeyed hupdate

theorem restore_cases (paymentId tick : Nat) (hkeyed : db.WellKeyed) :
    let db' := (alone engine world (restorePaymentAllocations paymentId) tick db none).db
    (¬Revives paymentId db ∧ db' = db) ∨
      (Revives paymentId db ∧
        Redated (fun row => row.paymentId == paymentId && !row.live) none db db') := by
  intro db'
  have hrun : db' = _ := alone_restorePaymentAllocations world paymentId tick db
  by_cases hempty : deletedAllocationsOf paymentId db = []
  · rw [if_pos hempty] at hrun
    exact Or.inl ⟨fun h => h.1 hempty, hrun⟩
  · rw [if_neg hempty] at hrun
    cases hupdate : updateDeletedAt none (deletedAllocationsOf paymentId db) db db with
    | error err =>
      rw [hupdate] at hrun
      refine Or.inl ⟨fun h => ?_, hrun⟩
      have haccepts := h.2
      rw [Db.accepts, hupdate] at haccepts
      cases haccepts
    | ok writes =>
      rw [hupdate] at hrun
      refine Or.inr ⟨⟨hempty, ?_⟩, ?_⟩
      · rw [Db.accepts, hupdate]
        rfl
      · rw [hrun]
        exact redated_of_ok world hkeyed hupdate

end Passes

section Congruence

variable {db db' : Db} {paymentId : Nat}

theorem filter_undated {q : Allocation → Bool}
    (hq : ∀ row : Allocation, q row.undated = q row) (rows : List Allocation) :
    (rows.filter q).map Allocation.undated = (rows.map Allocation.undated).filter q := by
  have hcomp : q ∘ Allocation.undated = q := funext hq
  rw [List.filter_map, hcomp]

theorem Alike.filter_eq (h : Alike db db') {q : Allocation → Bool}
    (hq : ∀ row : Allocation, q row.undated = q row) :
    (db'.allocations.filter q).map Allocation.undated =
      (db.allocations.filter q).map Allocation.undated := by
  rw [filter_undated hq, h.allocations, ← filter_undated hq]

theorem nonempty_of_map_eq {rows rows' : List Allocation}
    (h : rows'.map Allocation.undated = rows.map Allocation.undated) :
    rows' ≠ [] ↔ rows ≠ [] := by
  have hlength := congrArg List.length h
  rw [List.length_map, List.length_map] at hlength
  rw [← List.length_pos_iff, ← List.length_pos_iff, hlength]

theorem Alike.releases (h : Alike db db') : Releases paymentId db' ↔ Releases paymentId db := by
  have hrows : (liveAllocationsOf paymentId db').map Allocation.undated =
      (liveAllocationsOf paymentId db).map Allocation.undated :=
    h.filter_eq fun row => by rw [Allocation.undated_live]; rfl
  unfold Releases
  rw [nonempty_of_map_eq hrows, h.accepts_eq rfl hrows]

theorem Alike.revives (h : Alike db db') : Revives paymentId db' ↔ Revives paymentId db := by
  have hrows : (deletedAllocationsOf paymentId db').map Allocation.undated =
      (deletedAllocationsOf paymentId db).map Allocation.undated :=
    h.filter_eq fun row => by rw [Allocation.undated_live]; rfl
  unfold Revives
  rw [nonempty_of_map_eq hrows, h.accepts_eq rfl hrows]

end Congruence

/-- The other columns of the invoices and allocations are as before, and so are the amounts. -/
structure SameRows (db db' : Db) : Prop where
  keyed : db'.WellKeyed
  caps : db'.caps = db.caps
  invoices : db'.invoices = db.invoices
  allocations : db'.allocations = db.allocations

theorem SameRows.alike {db db' : Db} (h : SameRows db db') : Alike db db' :=
  ⟨h.caps, congrArg _ h.allocations⟩

theorem sameRows_of_payment {db db' : Db} (hkeyed : db.WellKeyed) {payment : Payment}
    (hpayment : payment ∈ db.payments) {deletedAt : Option Nat}
    (hpayments : db'.payments = Table.put Payment.id { payment with deletedAt } db.payments)
    (hinvoices : db'.invoices = db.invoices) (hallocations : db'.allocations = db.allocations) :
    SameRows db db' := by
  refine ⟨⟨?_, hinvoices ▸ hkeyed.invoices, hallocations ▸ hkeyed.allocations⟩, ?_, hinvoices,
    hallocations⟩
  · rw [hpayments]
    exact Table.keyed_put hkeyed.payments
  · have hcaps := Db.caps_apply hkeyed (w := .payment { payment with deletedAt })
      (List.mem_map.mpr ⟨payment, hpayment, rfl⟩)
    rw [← hcaps]
    simp only [Db.caps, Db.apply, hpayments, hinvoices]

section Comparison

variable {db db₁ db₂ : Db} {paymentId : Nat}

theorem revived_not_mem (hkeyed : db.WellKeyed) {row : Allocation}
    (hrow : row ∈ deletedAllocationsOf paymentId db) :
    { row with deletedAt := none } ∉ db.allocations := by
  intro hmem
  obtain ⟨hold, hmatch⟩ := List.mem_filter.mp hrow
  have hsame := List.inj_on_of_nodup_map hkeyed.allocations hmem hold rfl
  rw [← hsame] at hmatch
  simp [Allocation.live] at hmatch

theorem not_same_of_revived (hkeyed : db.WellKeyed) {row : Allocation}
    (hrow : row ∈ deletedAllocationsOf paymentId db)
    (hmem : { row with deletedAt := none } ∈ db₂.allocations) : ¬SameBooks db db₂ := fun h =>
  revived_not_mem hkeyed hrow ((h.live _ rfl).mp hmem)

theorem InvoiceStatus.refreshed_fixed (without covered : Bool) (status : InvoiceStatus) :
    (status.refreshed without).refreshed covered = status ↔
      if covered = true then status = .paid
      else status ≠ .paid ∧ (without = true → status = .issued) := by
  cases without <;> cases covered <;> cases status <;> decide

theorem allocations_after {deletedAt : Nat} {rows rows₁ rows₂ : List Allocation}
    (hfirst : rows₁ = rows.map fun row =>
      if row.paymentId == paymentId && row.live then { row with deletedAt := some deletedAt }
      else row)
    (hsecond : rows₂ = rows₁.map fun row =>
      if row.paymentId == paymentId && !row.live then { row with deletedAt := none } else row) :
    rows₂ = rows.map fun row =>
      if row.paymentId == paymentId then { row with deletedAt := none } else row := by
  rw [hsecond, hfirst, List.map_map]
  refine List.map_congr_left fun row _ => ?_
  by_cases hid : row.paymentId = paymentId
  · cases hdeleted : row.deletedAt with
    | none => simp [hid, Allocation.live, hdeleted]
    | some time => simp [hid, Allocation.live, hdeleted]
  · simp [hid]

theorem statuses_after {rows₁ : List Allocation} {ids₁ ids₂ : List Nat} {db' : Db}
    (hfirst : db₁.invoices.map Invoice.undated = db.invoices.map (Invoice.refreshed rows₁ ids₁))
    (hsecond : db₂.invoices.map Invoice.undated =
      db₁.invoices.map (Invoice.refreshed db.allocations ids₂))
    (hids : ∀ id, id ∈ ids₁ ↔ id ∈ ids₂)
    (hcovered : ∀ id, allocatedTo id rows₁ = allocatedTo id db'.allocations) :
    db₂.statuses = db.invoices.map fun row => (row.id,
      if row.id ∈ ids₂ ∧ row.live = true then
        (row.status.refreshed (row.covered db'.allocations)).refreshed
          (row.covered db.allocations)
      else row.status) := by
  have hundated : db₂.statuses =
      (db₂.invoices.map Invoice.undated).map fun row => (row.id, row.status) := by
    rw [List.map_map]
    rfl
  have hagain : db₁.invoices.map (Invoice.refreshed db.allocations ids₂) =
      (db₁.invoices.map Invoice.undated).map (Invoice.refreshed db.allocations ids₂) := by
    rw [List.map_map]
    rfl
  rw [hundated, hsecond, hagain, hfirst, List.map_map, List.map_map]
  refine List.map_congr_left fun row _ => ?_
  have hrow : row.covered rows₁ = row.covered db'.allocations := by
    unfold Invoice.covered
    rw [hcovered]
  by_cases hlisted : row.id ∈ ids₂ ∧ row.live = true
  · have hlisted₁ : row.id ∈ ids₁ ∧ row.live = true := ⟨(hids _).mpr hlisted.1, hlisted.2⟩
    have hlive : row.deletedAt.isNone = true := hlisted.2
    simp [Invoice.refreshed, Invoice.live, Invoice.covered, hlisted.1, hlisted₁.1, hlive]
    simp only [Invoice.covered] at hrow
    rw [hrow]
  · have hlisted₁ : ¬(row.id ∈ ids₁ ∧ row.live = true) := fun h =>
      hlisted ⟨(hids _).mp h.1, h.2⟩
    simp only [Function.comp, Invoice.refreshed, if_neg hlisted₁, if_neg hlisted]
    rw [if_neg]
    exact hlisted

theorem statuses_eq_iff (hkeyed : db.WellKeyed) {f : Invoice → InvoiceStatus}
    (hstatuses : db₂.statuses = db.invoices.map fun row => (row.id, f row)) :
    (∀ entry, entry ∈ db₂.statuses ↔ entry ∈ db.statuses) ↔
      ∀ row ∈ db.invoices, f row = row.status := by
  constructor
  · intro h row hrow
    have hentry : (row.id, f row) ∈ db.statuses :=
      (h _).mp (hstatuses ▸ List.mem_map.mpr ⟨row, hrow, rfl⟩)
    obtain ⟨other, hother, heq⟩ := List.mem_map.mp hentry
    have hsame : other = row :=
      List.inj_on_of_nodup_map hkeyed.invoices hother hrow (congrArg Prod.fst heq)
    subst hsame
    exact (congrArg Prod.snd heq).symm
  · intro h entry
    have hlist : db₂.statuses = db.statuses := by
      rw [hstatuses]
      exact List.map_congr_left fun row hrow => by rw [h row hrow]
    rw [hlist]

/-- Released and revived, the books are back exactly when none was dead and every status fits. -/
theorem same_of_redated {before released between after : Db} {deletedAt : Nat}
    (hbefore : SameRows db before) (hbetween : SameRows released between)
    (hfirst : Redated (fun row => row.paymentId == paymentId && row.live) (some deletedAt)
      before released)
    (hsecond : Redated (fun row => row.paymentId == paymentId && !row.live) none between after)
    (halike : Alike (db.released paymentId) between) (hkeyed : db.WellKeyed) :
    SameBooks db after ↔ deletedAllocationsOf paymentId db = [] ∧
      ∀ invoice ∈ db.invoices, invoice.live = true →
        invoice.id ∈ (liveAllocationsOf paymentId db).map Allocation.invoiceId →
          invoice.StatusFits paymentId db := by
  have hrows : after.allocations = db.allocations.map fun row =>
      if row.paymentId == paymentId then { row with deletedAt := none } else row := by
    have h₁ := hfirst.allocations
    have h₂ := hsecond.allocations
    rw [hbefore.allocations] at h₁
    rw [hbetween.allocations] at h₂
    exact allocations_after h₁ h₂
  by_cases hdead : deletedAllocationsOf paymentId db = []
  swap
  · obtain ⟨row, hrow⟩ := List.exists_mem_of_ne_nil _ hdead
    obtain ⟨hmem, hmatch⟩ := List.mem_filter.mp hrow
    simp only [Bool.and_eq_true] at hmatch
    have hrevived : { row with deletedAt := none } ∈ after.allocations := by
      rw [hrows]
      exact List.mem_map.mpr ⟨row, hmem, if_pos hmatch.1⟩
    exact ⟨fun h => absurd h (not_same_of_revived hkeyed hrow hrevived),
      fun h => absurd h.1 hdead⟩
  have halive : ∀ row ∈ db.allocations, row.paymentId = paymentId → row.live = true := by
    intro row hrow hid
    have hnot := List.filter_eq_nil_iff.mp hdead row hrow
    simpa [hid] using hnot
  have hsame : after.allocations = db.allocations := by
    rw [hrows]
    refine (List.map_congr_left fun row hrow => ?_).trans (List.map_id _)
    by_cases hid : row.paymentId = paymentId
    · have hlive := halive row hrow hid
      simp only [Allocation.live, Option.isNone_iff_eq_none] at hlive
      rw [if_pos (beq_iff_eq.mpr hid), ← hlive]
      rfl
    · rw [if_neg fun h => hid (beq_iff_eq.mp h)]
      rfl
  set ids₁ := ((before.allocations.filter fun row =>
    row.paymentId == paymentId && row.live).map Allocation.invoiceId).dedup with hids₁
  set ids₂ := ((between.allocations.filter fun row =>
    row.paymentId == paymentId && !row.live).map Allocation.invoiceId).dedup with hids₂
  -- the rows a revival finds are the rows the release left behind
  have hmem₁ : ∀ id, id ∈ ids₁ ↔ id ∈ (liveAllocationsOf paymentId db).map Allocation.invoiceId := by
    intro id
    rw [hids₁, List.mem_dedup, hbefore.allocations]
    rfl
  have hmem₂ : ∀ id, id ∈ ids₂ ↔ id ∈ (liveAllocationsOf paymentId db).map Allocation.invoiceId := by
    intro id
    rw [hids₂, List.mem_dedup, hbetween.allocations, hfirst.allocations, hbefore.allocations]
    simp only [List.mem_map, List.mem_filter, liveAllocationsOf]
    constructor
    · rintro ⟨row, ⟨⟨old, hold, rfl⟩, hmatch⟩, rfl⟩
      split at hmatch
      · rename_i hlive
        exact ⟨old, ⟨hold, hlive⟩, by rw [if_pos hlive]⟩
      · rename_i hnot
        simp only [Bool.and_eq_true, beq_iff_eq, Bool.not_eq_true'] at hmatch hnot
        rw [halive old hold hmatch.1] at hmatch
        cases hmatch.2
    · rintro ⟨row, ⟨hrow, hmatch⟩, rfl⟩
      refine ⟨{ row with deletedAt := some deletedAt }, ⟨⟨row, hrow, if_pos hmatch⟩, ?_⟩, rfl⟩
      simp only [Bool.and_eq_true] at hmatch
      rw [hmatch.1]
      rfl
  have hstatuses : after.statuses = db.invoices.map fun row => (row.id,
      if row.id ∈ ids₂ ∧ row.live = true then
        (row.status.refreshed (row.covered (db.released paymentId).allocations)).refreshed
          (row.covered db.allocations)
      else row.status) := by
    have hrefreshed₁ : released.invoices.map Invoice.undated =
        db.invoices.map (Invoice.refreshed released.allocations ids₁) := by
      rw [hfirst.invoices, hbefore.invoices]
    have hrefreshed₂ : after.invoices.map Invoice.undated =
        released.invoices.map (Invoice.refreshed db.allocations ids₂) := by
      rw [hsecond.invoices, hbetween.invoices, hsame]
    refine statuses_after hrefreshed₁ hrefreshed₂ (fun id => (hmem₁ id).trans (hmem₂ id).symm) ?_
    intro id
    rw [← hbetween.allocations]
    exact halike.allocatedTo_eq id
  have hfixed := statuses_eq_iff hkeyed hstatuses
  constructor
  · intro h
    refine ⟨hdead, fun invoice hinvoice hlive hlisted => ?_⟩
    have hstatus := hfixed.mp h.statuses invoice hinvoice
    rw [if_pos ⟨(hmem₂ _).mpr hlisted, hlive⟩] at hstatus
    exact (InvoiceStatus.refreshed_fixed _ _ _).mp hstatus
  · rintro ⟨-, hfits⟩
    refine ⟨fun row _ => by rw [hsame], hfixed.mpr fun invoice hinvoice => ?_⟩
    by_cases hlisted : invoice.id ∈ ids₂ ∧ invoice.live = true
    · rw [if_pos hlisted]
      exact (InvoiceStatus.refreshed_fixed _ _ _).mpr
        (hfits invoice hinvoice hlisted.2 ((hmem₂ _).mp hlisted.1))
    · rw [if_neg hlisted]

/-- Releasing and reviving gives the books back exactly when `RestoresExactly` holds. -/
theorem same_iff_restoresExactly {before released between after : Db} {tick : Nat}
    (hkeyed : db.WellKeyed) (hbefore : SameRows db before) (hbetween : SameRows released between)
    (hfirst : (¬Releases paymentId before ∧ released = before) ∨ (Releases paymentId before ∧
      Redated (fun row => row.paymentId == paymentId && row.live) (some tick) before released))
    (hsecond : (¬Revives paymentId between ∧ after = between) ∨ (Revives paymentId between ∧
      Redated (fun row => row.paymentId == paymentId && !row.live) none between after))
    (hcaps : released.caps = before.caps) :
    SameBooks db after ↔ RestoresExactly paymentId db := by
  rw [hbefore.alike.releases] at hfirst
  rcases hfirst with ⟨hkept, rfl⟩ | ⟨hreleases, hfirst⟩
  · rw [RestoresExactly, if_neg hkept]
    have hsame : SameRows db between := ⟨hbetween.keyed, hbetween.caps.trans hbefore.caps,
      hbetween.invoices.trans hbefore.invoices, hbetween.allocations.trans hbefore.allocations⟩
    rw [hsame.alike.revives] at hsecond
    rcases hsecond with ⟨hnot, rfl⟩ | ⟨hrevives, hsecond⟩
    · refine iff_of_true ⟨fun row _ => by rw [hsame.allocations], fun entry => ?_⟩ hnot
      rw [Db.statuses, hsame.invoices]
      rfl
    · obtain ⟨row, hrow⟩ := List.exists_mem_of_ne_nil _ hrevives.1
      have hrevived : { row with deletedAt := none } ∈ after.allocations := by
        rw [hsecond.allocations, hsame.allocations]
        obtain ⟨hmem, hmatch⟩ := List.mem_filter.mp hrow
        exact List.mem_map.mpr ⟨row, hmem, if_pos hmatch⟩
      exact iff_of_false (not_same_of_revived hkeyed hrow hrevived) (not_not.mpr hrevives)
  · have halike : Alike (db.released paymentId) between := by
      refine ⟨hbetween.caps.trans (hcaps.trans hbefore.caps), ?_⟩
      rw [hbetween.allocations, hfirst.allocations, hbefore.allocations, Db.released, List.map_map,
        List.map_map]
      refine List.map_congr_left fun row _ => ?_
      simp only [Function.comp]
      split <;> rfl
    rw [RestoresExactly, if_pos hreleases]
    rw [halike.revives] at hsecond
    rcases hsecond with ⟨hlost, rfl⟩ | ⟨hrevives, hsecond⟩
    · refine iff_of_false (fun h => ?_) fun h => hlost h.2.1
      obtain ⟨row, hrow⟩ := List.exists_mem_of_ne_nil _ hreleases.1
      obtain ⟨hmem, hmatch⟩ := List.mem_filter.mp hrow
      have hlive : row.live = true := (Bool.and_eq_true_iff.mp hmatch).2
      have hstill := (h.live row hlive).mpr hmem
      rw [hbetween.allocations, hfirst.allocations] at hstill
      obtain ⟨old, -, heq⟩ := List.mem_map.mp hstill
      split at heq
      · subst heq
        cases hlive
      · rename_i hnot
        subst heq
        exact hnot hmatch
    · rw [same_of_redated hbefore hbetween hfirst hsecond halike hkeyed]
      exact ⟨fun h => ⟨h.1, hrevives, h.2⟩, fun h => ⟨h.1, h.2.2⟩⟩

end Comparison

section RoundTrip

variable (world : Nat → (e : Effect) → e.Answer) {s : Books} {org paymentId : Nat}

theorem step_deletePayment {payment : Payment} (hkeyed : s.db.WellKeyed)
    (hpayment : paymentOf paymentId org s.db = some payment) :
    ∃ before tick, SameRows s.db before ∧
      (s.step world (.deletePayment org paymentId)).db =
        (alone engine world (reversePaymentAllocations paymentId) tick before none).db ∧
      ∃ row ∈ before.payments, row.id = paymentId ∧ row.organizationId = org ∧ row.live = false := by
  rcases deletePayment_cases world org paymentId s.tick s.db with
    ⟨hnone, -⟩ | ⟨payment', tick, before, hfound, hpayments, hinvoices, hallocations, hrun⟩
  · rw [hpayment] at hnone
    cases hnone
  · have hmatch := List.find?_some hfound
    simp only [Bool.and_eq_true, beq_iff_eq] at hmatch
    refine ⟨before, tick, sameRows_of_payment hkeyed (List.mem_of_find?_eq_some hfound) hpayments
      hinvoices hallocations, hrun, { payment' with deletedAt := some (s.tick + 1) }, ?_,
      hmatch.1.1, hmatch.1.2, rfl⟩
    rw [hpayments]
    exact Table.mem_put_self _ _

theorem step_restorePayment (hkeyed : s.db.WellKeyed) (hdeleted : ∃ row ∈ s.db.payments,
      row.id = paymentId ∧ row.organizationId = org ∧ row.live = false) :
    ∃ between tick, SameRows s.db between ∧
      (s.step world (.restorePayment org paymentId)).db =
        (alone engine world (restorePaymentAllocations paymentId) tick between none).db := by
  rcases restorePayment_cases world org paymentId s.tick s.db hkeyed with
    ⟨hnone, -⟩ | ⟨payment, tick, between, hfound, hpayments, hinvoices, hallocations, hrun⟩
  · obtain ⟨row, hrow, hid, horg, hlive⟩ := hdeleted
    have hnot := List.find?_eq_none.mp hnone row hrow
    simp [hid, horg, hlive] at hnot
  · exact ⟨between, tick, sameRows_of_payment hkeyed (List.mem_of_find?_eq_some hfound) hpayments
      hinvoices hallocations, hrun⟩

/-- After any run, deleting and restoring a payment gives the books back exactly where it restores. -/
theorem delete_restore_iff {s₀ : Books} (hkeyed : s₀.db.WellKeyed) (ops : List Operation)
    {payment : Payment}
    (hpayment : paymentOf paymentId org (Transition.run (Books.step world) s₀ ops).db =
      some payment) :
    let s := Transition.run (Books.step world) s₀ ops
    SameBooks s.db ((s.step world (.deletePayment org paymentId)).step world
        (.restorePayment org paymentId)).db ↔
      RestoresExactly paymentId s.db := by
  intro s
  have hs : s.db.WellKeyed := Transition.run_preserves (I := fun s : Books => s.db.WellKeyed)
    (fun _ op h => (Books.step_caps h op).1) hkeyed ops
  obtain ⟨before, tick, hbefore, hdelete, hrow⟩ := step_deletePayment world hs hpayment
  have hfirst := reverse_cases world paymentId tick hbefore.keyed
  rw [← hdelete] at hfirst
  obtain ⟨hkeyed₁, hcaps₁⟩ : (s.step world (.deletePayment org paymentId)).db.WellKeyed ∧
      (s.step world (.deletePayment org paymentId)).db.caps = s.db.caps :=
    Books.step_caps hs _
  have hpayments : (s.step world (.deletePayment org paymentId)).db.payments = before.payments := by
    rcases hfirst with ⟨-, hsame⟩ | ⟨-, hredated⟩
    · rw [hsame]
    · exact hredated.payments
  obtain ⟨between, tick', hbetween, hrestore⟩ :=
    step_restorePayment world hkeyed₁ (hpayments ▸ hrow)
  have hsecond := restore_cases world paymentId tick' hbetween.keyed
  rw [← hrestore] at hsecond
  exact same_iff_restoresExactly hs hbefore hbetween hfirst hsecond
    (hcaps₁.trans hbefore.caps.symm)

end RoundTrip

/-- A payment applied to one invoice only comes back as it was. -/
theorem delete_restore_iff_sample :
    let s := Transition.run (Books.step quietWorld) sampleBooks [.allocate 1 1 1 10000]
    SameBooks s.db ((s.step quietWorld (.deletePayment 1 1)).step quietWorld
        (.restorePayment 1 1)).db ↔
      RestoresExactly 1 s.db :=
  have hpayment : paymentOf 1 1 (Transition.run (Books.step quietWorld) sampleBooks
      [.allocate 1 1 1 10000]).db = some ⟨1, 1, 1, 10000, "MXN", none, none⟩ := by
    decide
  delete_restore_iff quietWorld sampleBooks_good.sound.keyed [.allocate 1 1 1 10000] hpayment

/-- An allocation undone before the deletion is live again after the restore. -/
theorem delete_restore_revives_unapplied :
    let s := Transition.run (Books.step quietWorld) sampleBooks
      [.allocate 1 1 1 10000, .unapply 1 1 1]
    ¬SameBooks s.db ((s.step quietWorld (.deletePayment 1 1)).step quietWorld
      (.restorePayment 1 1)).db := by
  intro s h
  have hrevived := (h.live ⟨12, 1, 1, 10000, none⟩ rfl).mp (by decide)
  exact absurd hrevived (by decide)

end FireIsp.Billing
