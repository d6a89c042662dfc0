import FireIsp.Billing.Terminal

/-!
# Releasing an allocation

The guard triggers run on every update of an allocation, the one that sets its
`deleted_at` included, and compare the live totals of its parents with what is on record
then.  Payments and invoices are edited in between, and no edit looks at the allocations.
-/

namespace FireIsp.Billing

open Txn

/-- What happens to the books. -/
inductive Event
  | operation (op : Operation)
  /-- `POST /payments`. -/
  | createPayment (body : Payment)
  /-- `POST /invoices`. -/
  | createInvoice (body : Invoice)
  /-- `PUT /payments/:id`, and `POST /payments/:id/reassign` with the amount as it is. -/
  | updatePayment (org id clientId amount : Nat)
  /-- `PUT /invoices/:id`. -/
  | updateInvoice (org id clientId : Nat) (status : InvoiceStatus) (total : Nat)
  /-- `POST /invoices/:id/items`; `delta` is the line with its tax. -/
  | addItem (org id delta : Nat)
  | storeCfdis (rows : List InvoiceCfdi)

/-- `assertNoLiveCfdi` throws. -/
def Db.frozen (db : Db) (invoiceId : Nat) : Bool :=
  db.cfdis.any fun row => row.invoiceId == invoiceId &&
    (row.satStatus == .draft || row.satStatus == .vigente || row.satStatus == .cancelPending)

/-- An invoice that is not terminal, with no live CFDI unless its client and total are repeated. -/
def editableInvoice (org id clientId : Nat) (total : Int) (db : Db) : Option Invoice :=
  (invoiceOf id org db).filter fun row => !row.status.terminal &&
    ((row.clientId == clientId && row.total == total) || !db.frozen id)

/-- The row an edit of a payment or an invoice stores, if the request is not refused. -/
def Event.stores (tick : Nat) (db : Db) : Event → Option Write
  | .createPayment body =>
    if body.amount < 0 then none else some (.payment { body with id := tick, deletedAt := none })
  | .createInvoice body =>
    if body.total < 0 then none else some (.invoice { body with id := tick, deletedAt := none })
  | .updatePayment org id clientId amount =>
    (paymentOf id org db).map fun row => .payment { row with clientId, amount }
  | .updateInvoice org id clientId status total =>
    -- `rejectManualCancelled`; a body with status `void` is the void operation
    if status.terminal then none
    else (editableInvoice org id clientId total db).map fun row =>
      .invoice { row with clientId, status, total }
  | .addItem org id delta =>
    ((invoiceOf id org db).filter fun row => !row.status.terminal && !db.frozen id).map fun row =>
      .invoice { row with total := row.total + delta }
  | _ => none

/-- What an edit does once its row is stored. -/
def Event.refreshes : Event → Request Unit
  | .addItem _ id _ => refreshInvoicePaidStatus id
  | _ => return ()

def Books.after (world : Nat → (e : Effect) → e.Answer) (s : Books) : Event → Books
  | .operation op => s.step world op
  | .storeCfdis rows => ⟨s.tick + 1, { s.db with cfdis := rows }⟩
  | event =>
    match event.stores s.tick s.db with
    | none => ⟨s.tick + 1, s.db⟩
    | some row =>
      let o := alone engine world event.refreshes (s.tick + 1) (s.db.apply row) none
      ⟨o.tick, o.db⟩

/-- Payments and invoices with ids already handed out, and nothing allocated yet. -/
structure Books.Opening (s : Books) : Prop where
  keyed : s.db.WellKeyed
  payments : ∀ row ∈ s.db.payments, row.id < s.tick ∧ 0 ≤ row.amount
  invoices : ∀ row ∈ s.db.invoices, row.id < s.tick ∧ 0 ≤ row.total
  allocations : s.db.allocations = []

/-- The triggers let an allocation go: no statement that releases it is refused. -/
structure Db.Releasable (db : Db) (row : Allocation) : Prop where
  /-- `unapply`. -/
  unapply : ∀ tick, ((Stmt.softDeleteAllocation row.id false).exec tick db db).1 = .ok ()
  /-- `reversePaymentAllocations`. -/
  deletePayment : ∀ tick, ((Stmt.deleteAllocationsOf row.paymentId).exec tick db db).1 = .ok ()
  /-- `releaseInvoiceAllocations`. -/
  settleInvoice : ∀ tick, ((Stmt.releaseAllocationsTo row.invoiceId).exec tick db db).1 = .ok ()

def Db.AllReleasable (db : Db) : Prop :=
  ∀ row ∈ db.allocations, row.live = true → db.Releasable row

/-- An edit leaves an amount that covers what is allocated. -/
def Event.Covers (db : Db) : Event → Prop
  | .updatePayment org id _ amount =>
    (paymentOf id org db).isSome = true → allocatedFrom id db.allocations ≤ amount
  | .updateInvoice org id clientId status total =>
    status.terminal = false → (editableInvoice org id clientId total db).isSome = true →
      allocatedTo id db.allocations ≤ total
  | _ => True

/-- No negative amount is reallocated. -/
def Event.AmountsNonneg : Event → Prop
  | .operation op => op.AmountsNonneg
  | _ => True

/-- Ids of payments and invoices come from earlier ticks. -/
structure Db.Placed (tick : Nat) (db : Db) : Prop where
  payments : ∀ row ∈ db.payments, row.id < tick
  invoices : ∀ row ∈ db.invoices, row.id < tick
  allocations : ∀ row ∈ db.allocations, row.paymentId < tick ∧ row.invoiceId < tick

theorem forall_mem_put {ρ : Type} {key : ρ → Nat} {new : ρ} {rows : List ρ} {p : ρ → Prop}
    (hnew : p new) (hrows : ∀ row ∈ rows, p row) : ∀ row ∈ Table.put key new rows, p row := by
  intro row hrow
  rcases Table.mem_of_mem_put hrow with rfl | hmem
  · exact hnew
  · exact hrows row hmem

variable {tick : Nat} {db : Db}

theorem Db.Placed.later {tick' : Nat} (h : db.Placed tick) (hle : tick ≤ tick') :
    db.Placed tick' :=
  ⟨fun row hrow => (h.payments row hrow).trans_le hle,
    fun row hrow => (h.invoices row hrow).trans_le hle,
    fun row hrow => ⟨(h.allocations row hrow).1.trans_le hle,
      (h.allocations row hrow).2.trans_le hle⟩⟩

theorem Db.Placed.exec (h : db.Placed tick) (stmt : Stmt) :
    (engine.visible db (stmt.exec tick db db).2).Placed (tick + 1) := by
  have hlater := h.later (Nat.le_succ tick)
  refine Engine.visible_invariant (E := engine) (I := fun state => Db.Placed (tick + 1) state)
    (fun state w hw hstate => ?_) hlater
  cases exec_wrote stmt tick db db w hw with
  | payment old hold =>
    exact ⟨forall_mem_put (hlater.payments old hold) hstate.payments, hstate.invoices,
      hstate.allocations⟩
  | invoice old hold =>
    exact ⟨hstate.payments, forall_mem_put (hlater.invoices old hold) hstate.invoices,
      hstate.allocations⟩
  | inserted paymentId invoiceId amount hstmt hguard hpayment hinvoice =>
    obtain ⟨payment, hmem, rfl⟩ := hpayment
    obtain ⟨invoice, hmem', rfl⟩ := hinvoice
    exact ⟨hstate.payments, hstate.invoices, forall_mem_put
      ⟨hlater.payments payment hmem, hlater.invoices invoice hmem'⟩ hstate.allocations⟩
  | deleted old hold =>
    exact ⟨hstate.payments, hstate.invoices,
      forall_mem_put (hlater.allocations old hold) hstate.allocations⟩
  | revived old hold =>
    exact ⟨hstate.payments, hstate.invoices,
      forall_mem_put (hlater.allocations old hold) hstate.allocations⟩
  | ledger row => exact ⟨hstate.payments, hstate.invoices, hstate.allocations⟩
  | dropLedger id => exact ⟨hstate.payments, hstate.invoices, hstate.allocations⟩

variable {world : Nat → (e : Effect) → e.Answer}

variable (world) in
theorem Db.Placed.alone {A : Type} (p : Request A) (h : db.Placed tick) :
    (Txn.alone engine world p tick db none).db.Placed (Txn.alone engine world p tick db none).tick :=
  (alone_preserves (I := fun tick db => Db.Placed tick db)
    (fun tick _ h => h.later (Nat.le_succ tick)) (fun stmt _ _ _ h => h.exec stmt)
    (Prog.uses_true _) h fun copy hcopy => by cases hcopy).1

theorem allocated_eq_zero {side : Allocation → Nat} {id : Nat} {rows : List Allocation}
    (h : ∀ row ∈ rows, row.live = true → side row ≠ id) : allocated side id rows = 0 := by
  refine List.sum_eq_zero fun value hvalue => ?_
  obtain ⟨row, hrow, rfl⟩ := List.mem_map.mp hvalue
  refine if_neg fun hmatch => ?_
  rw [Bool.and_eq_true, beq_iff_eq] at hmatch
  exact h row hrow hmatch.1 hmatch.2

theorem Db.Good.storePayment (h : db.Good tick) {new : Payment}
    (hcovers : allocatedFrom new.id db.allocations ≤ new.amount) :
    (db.apply (.payment new)).Good tick := by
  refine ⟨h.sound.applyOther (fun row he => by cases he), fun cap hcap => ?_, h.within.invoices⟩
  obtain ⟨row, hrow, rfl⟩ := List.mem_map.mp hcap
  rcases Table.mem_of_mem_put hrow with rfl | hmem
  · exact hcovers
  · exact h.within.payments _ (List.mem_map_of_mem hmem)

theorem Db.Good.storeInvoice (h : db.Good tick) {new : Invoice}
    (hcovers : allocatedTo new.id db.allocations ≤ new.total) :
    (db.apply (.invoice new)).Good tick := by
  refine ⟨h.sound.applyOther (fun row he => by cases he), h.within.payments, fun cap hcap => ?_⟩
  obtain ⟨row, hrow, rfl⟩ := List.mem_map.mp hcap
  rcases Table.mem_of_mem_put hrow with rfl | hmem
  · exact hcovers
  · exact h.within.invoices _ (List.mem_map_of_mem hmem)

theorem Db.Good.allReleasable (h : db.Good tick) : db.AllReleasable := by
  intro row hrow hlive
  have haccepts : ∀ (p : Allocation → Bool) (tick : Nat),
      (∀ other ∈ db.allocations, p other = true → other.live = true) →
      (statementReply (Billing.updateDeletedAt (some tick) (db.allocations.filter p) db db)).1 =
        .ok () := by
    intro p tick hp
    obtain ⟨writes, hok⟩ := updateDeletedAt_accepts h
      (h.sound.keyed.allocations.sublist (List.filter_sublist.map _)) (fun other hother =>
        ⟨(List.mem_filter.mp hother).1, hp other (List.mem_filter.mp hother).1
          (List.mem_filter.mp hother).2⟩) tick
    rw [hok]
    rfl
  refine ⟨fun tick => haccepts _ tick fun other hother hp => ?_,
    fun tick => haccepts _ tick fun other _ hp => (Bool.and_eq_true_iff.mp hp).2,
    fun tick => haccepts _ tick fun other _ hp => (Bool.and_eq_true_iff.mp hp).2⟩
  have hid : other.id = row.id := by simpa using hp
  rw [List.inj_on_of_nodup_map h.sound.keyed.allocations hother hrow hid]
  exact hlive

theorem Db.Releasable.guardsAccept (hkeyed : db.WellKeyed) {row : Allocation}
    (hrow : row ∈ db.allocations) (h : db.Releasable row) :
    guardsAccept db { row with deletedAt := some 0 } (some row.id) = true := by
  have hmem : row ∈ db.allocations.filter fun other => other.id == row.id && (!false || other.live) :=
    List.mem_filter.mpr ⟨hrow, by simp⟩
  have hok := h.unapply 0
  simp only [Stmt.exec] at hok
  generalize hfilter : (db.allocations.filter fun other =>
    other.id == row.id && (!false || other.live)) = rows at hok hmem
  cases rows with
  | nil => cases hmem
  | cons first rest =>
    have hfirst := List.mem_filter.mp (hfilter ▸ List.mem_cons_self : first ∈ _)
    have hid : first.id = row.id := by simpa using hfirst.2
    obtain rfl := List.inj_on_of_nodup_map hkeyed.allocations hfirst.1 hrow hid
    by_contra hrefused
    rw [Bool.not_eq_true] at hrefused
    rw [updateDeletedAt] at hok
    simp [hrefused, statementReply] at hok

theorem Db.AllReleasable.payments (h : db.AllReleasable) (hkeyed : db.WellKeyed) {cap : Nat × Int}
    (hcap : cap ∈ db.caps.payments) (hnonneg : 0 ≤ cap.2) :
    allocatedFrom cap.1 db.allocations ≤ cap.2 := by
  by_cases hlive : ∃ row ∈ db.allocations, row.live = true ∧ row.paymentId = cap.1
  · obtain ⟨row, hrow, hlive, hid⟩ := hlive
    have hfits := guardsAccept_payment hkeyed ((h row hrow hlive).guardsAccept hkeyed hrow) hcap hid
    rw [← hid] at hfits ⊢
    exact (guardSum_add_amount hkeyed hrow hlive Allocation.paymentId).symm.trans_le hfits
  · refine (allocated_eq_zero fun row hrow hlive' hid => ?_).trans_le hnonneg
    exact hlive ⟨row, hrow, hlive', hid⟩

theorem Db.AllReleasable.invoices (h : db.AllReleasable) (hkeyed : db.WellKeyed) {cap : Nat × Int}
    (hcap : cap ∈ db.caps.invoices) (hnonneg : 0 ≤ cap.2) :
    allocatedTo cap.1 db.allocations ≤ cap.2 := by
  by_cases hlive : ∃ row ∈ db.allocations, row.live = true ∧ row.invoiceId = cap.1
  · obtain ⟨row, hrow, hlive, hid⟩ := hlive
    have hfits := guardsAccept_invoice hkeyed ((h row hrow hlive).guardsAccept hkeyed hrow) hcap hid
    rw [← hid] at hfits ⊢
    exact (guardSum_add_amount hkeyed hrow hlive Allocation.invoiceId).symm.trans_le hfits
  · refine (allocated_eq_zero fun row hrow hlive' hid => ?_).trans_le hnonneg
    exact hlive ⟨row, hrow, hlive', hid⟩

/-- A good state whose ids come from earlier ticks. -/
structure Books.Kept (s : Books) : Prop where
  good : s.db.Good s.tick
  placed : s.db.Placed s.tick

variable {s : Books}

theorem Books.Opening.kept (h : s.Opening) : s.Kept := by
  have hnone : ∀ {row : Allocation}, row ∉ s.db.allocations := fun {row} hrow => by
    rw [h.allocations] at hrow
    cases hrow
  have hzero : ∀ (side : Allocation → Nat) (id : Nat), allocated side id s.db.allocations = 0 :=
    fun side id => allocated_eq_zero fun row hrow => absurd hrow hnone
  refine ⟨⟨⟨h.keyed, fun row hrow => absurd hrow hnone, fun row hrow => absurd hrow hnone⟩,
    fun cap hcap => ?_, fun cap hcap => ?_⟩, fun row hrow => (h.payments row hrow).1,
    fun row hrow => (h.invoices row hrow).1, fun row hrow => absurd hrow hnone⟩
  · obtain ⟨row, hrow, rfl⟩ := List.mem_map.mp hcap
    exact (hzero _ _).trans_le (h.payments row hrow).2
  · obtain ⟨row, hrow, rfl⟩ := List.mem_map.mp hcap
    exact (hzero _ _).trans_le (h.invoices row hrow).2

/-- What the row of an edit has to satisfy. -/
def Write.Fits (tick : Nat) (db : Db) : Write → Prop
  | .payment row => row.id ≤ tick ∧ allocatedFrom row.id db.allocations ≤ row.amount
  | .invoice row => row.id ≤ tick ∧ allocatedTo row.id db.allocations ≤ row.total
  | _ => False

theorem Books.Kept.store (h : s.Kept) {row : Write} (hfits : row.Fits s.tick s.db) (event : Event) :
    Books.Kept ⟨(alone engine world event.refreshes (s.tick + 1) (s.db.apply row) none).tick,
      (alone engine world event.refreshes (s.tick + 1) (s.db.apply row) none).db⟩ := by
  have hgood := h.good.later (Nat.le_succ s.tick)
  have hplaced := h.placed.later (Nat.le_succ s.tick)
  have hstored : (s.db.apply row).Good (s.tick + 1) ∧ (s.db.apply row).Placed (s.tick + 1) := by
    cases row with
    | payment row =>
      exact ⟨hgood.storePayment hfits.2, forall_mem_put (Nat.lt_succ_of_le hfits.1)
        hplaced.payments, hplaced.invoices, hplaced.allocations⟩
    | invoice row =>
      exact ⟨hgood.storeInvoice hfits.2, hplaced.payments, forall_mem_put
        (Nat.lt_succ_of_le hfits.1) hplaced.invoices, hplaced.allocations⟩
    | _ => exact hfits.elim
  have huses : event.refreshes.Uses Stmt.InsertsNonneg := by
    cases event with
    | addItem org id delta => exact uses_refreshInvoicePaidStatus trivial trivial trivial
    | _ => trivial
  exact ⟨hstored.1.alone world huses (fun copy hcopy => by cases hcopy), hstored.2.alone world _⟩

theorem mem_paymentOf {id org : Nat} {row : Payment} (h : paymentOf id org db = some row) :
    row ∈ db.payments ∧ row.id = id := by
  have hmatch := List.find?_some h
  simp only [Bool.and_eq_true, beq_iff_eq] at hmatch
  exact ⟨List.mem_of_find?_eq_some h, hmatch.1.1⟩

theorem mem_invoiceOf {id org : Nat} {row : Invoice} {p : Invoice → Bool}
    (h : (invoiceOf id org db).filter p = some row) : row ∈ db.invoices ∧ row.id = id := by
  have hfind := (Option.filter_eq_some_iff.mp h).1
  have hmatch := List.find?_some hfind
  simp only [Bool.and_eq_true, beq_iff_eq] at hmatch
  exact ⟨List.mem_of_find?_eq_some hfind, hmatch.1.1⟩

theorem Books.Kept.covers_iff (h : s.Kept) (event : Event) :
    event.Covers s.db ↔ ∀ row, event.stores s.tick s.db = some row → row.Fits s.tick s.db := by
  have hfresh : ∀ side : Allocation → Nat, (∀ row ∈ s.db.allocations, side row < s.tick) →
      allocated side s.tick s.db.allocations = 0 := fun side hside =>
    allocated_eq_zero fun row hrow _ => Nat.ne_of_lt (hside row hrow)
  cases event with
  | operation op =>
    exact ⟨fun _ row hrow => absurd hrow (Option.some_ne_none row).symm, fun _ => trivial⟩
  | storeCfdis rows =>
    exact ⟨fun _ row hrow => absurd hrow (Option.some_ne_none row).symm, fun _ => trivial⟩
  | createPayment body =>
    refine ⟨fun _ row hrow => ?_, fun _ => trivial⟩
    simp only [Event.stores, Option.ite_none_left_eq_some, Option.some.injEq] at hrow
    obtain ⟨hnonneg, rfl⟩ := hrow
    exact ⟨le_refl _, (hfresh _ fun row hrow => (h.placed.allocations row hrow).1).trans_le
      (not_lt.mp hnonneg)⟩
  | createInvoice body =>
    refine ⟨fun _ row hrow => ?_, fun _ => trivial⟩
    simp only [Event.stores, Option.ite_none_left_eq_some, Option.some.injEq] at hrow
    obtain ⟨hnonneg, rfl⟩ := hrow
    exact ⟨le_refl _, (hfresh _ fun row hrow => (h.placed.allocations row hrow).2).trans_le
      (not_lt.mp hnonneg)⟩
  | updatePayment org id clientId amount =>
    constructor
    · intro hcovers row hrow
      obtain ⟨old, hold, rfl⟩ := Option.map_eq_some_iff.mp hrow
      obtain ⟨hmem, rfl⟩ := mem_paymentOf hold
      exact ⟨(h.placed.payments old hmem).le, hcovers (Option.isSome_of_eq_some hold)⟩
    · intro hfits hsome
      obtain ⟨old, hold⟩ := Option.isSome_iff_exists.mp hsome
      obtain ⟨-, rfl⟩ := mem_paymentOf hold
      refine (hfits (.payment { old with clientId, amount }) ?_).2
      rw [Event.stores, hold]
      rfl
  | updateInvoice org id clientId status total =>
    constructor
    · intro hcovers row hrow
      simp only [Event.stores, Option.ite_none_left_eq_some] at hrow
      obtain ⟨hstatus, hrow⟩ := hrow
      obtain ⟨old, hold, rfl⟩ := Option.map_eq_some_iff.mp hrow
      obtain ⟨hmem, rfl⟩ := mem_invoiceOf hold
      exact ⟨(h.placed.invoices old hmem).le,
        hcovers (Bool.not_eq_true _ ▸ hstatus) (Option.isSome_of_eq_some hold)⟩
    · intro hfits hstatus hsome
      obtain ⟨old, hold⟩ := Option.isSome_iff_exists.mp hsome
      obtain ⟨-, rfl⟩ := mem_invoiceOf hold
      refine (hfits (.invoice { old with clientId, status, total }) ?_).2
      rw [Event.stores, hstatus, if_neg Bool.false_ne_true, hold]
      rfl
  | addItem org id delta =>
    refine ⟨fun _ row hrow => ?_, fun _ => trivial⟩
    obtain ⟨old, hold, rfl⟩ := Option.map_eq_some_iff.mp hrow
    obtain ⟨hmem, rfl⟩ := mem_invoiceOf hold
    have hwithin := h.good.within.invoices (old.id, old.total) (List.mem_map_of_mem hmem)
    exact ⟨(h.placed.invoices old hmem).le, hwithin.trans (le_add_of_nonneg_right
      (Int.natCast_nonneg delta))⟩

theorem Books.Kept.after (h : s.Kept) {event : Event} (hnonneg : event.AmountsNonneg)
    (hcovers : event.Covers s.db) : (s.after world event).Kept := by
  have hfits := (h.covers_iff event).mp hcovers
  cases event with
  | operation op => exact ⟨Books.step_good h.good hnonneg, h.placed.alone world op.request⟩
  | storeCfdis rows =>
    have hgood := h.good.later (Nat.le_succ s.tick)
    have hplaced := h.placed.later (Nat.le_succ s.tick)
    exact ⟨⟨⟨⟨hgood.sound.keyed.payments, hgood.sound.keyed.invoices,
      hgood.sound.keyed.allocations⟩, hgood.sound.fresh, hgood.sound.nonneg⟩,
      ⟨hgood.within.payments, hgood.within.invoices⟩⟩,
      ⟨hplaced.payments, hplaced.invoices, hplaced.allocations⟩⟩
  | _ =>
    simp only [Books.after]
    split
    · exact ⟨h.good.later (Nat.le_succ s.tick), h.placed.later (Nat.le_succ s.tick)⟩
    · rename_i row hrow
      exact h.store (hfits row hrow) _

theorem Books.Kept.covers (h : s.Kept) {event : Event}
    (hreleasable : (s.after world event).db.AllReleasable) : event.Covers s.db := by
  cases event with
  | updatePayment org id clientId amount =>
    intro hsome
    obtain ⟨old, hold⟩ := Option.isSome_iff_exists.mp hsome
    have hdb : (s.after world (.updatePayment org id clientId amount)).db =
        s.db.apply (.payment { old with clientId, amount }) := by
      simp [Books.after, Event.stores, Event.refreshes, hold]
    obtain ⟨-, rfl⟩ := mem_paymentOf hold
    have hcap : (old.id, (amount : Int)) ∈
        (s.db.apply (.payment { old with clientId, amount })).caps.payments :=
      List.mem_map.mpr ⟨_, (Table.mem_put h.good.sound.keyed.payments).mpr (.inl rfl), rfl⟩
    rw [hdb] at hreleasable
    exact hreleasable.payments (h.good.sound.keyed.apply _) hcap (Int.natCast_nonneg amount)
  | updateInvoice org id clientId status total =>
    intro hstatus hsome
    obtain ⟨old, hold⟩ := Option.isSome_iff_exists.mp hsome
    have hdb : (s.after world (.updateInvoice org id clientId status total)).db =
        s.db.apply (.invoice { old with clientId, status, total }) := by
      simp [Books.after, Event.stores, Event.refreshes, hold, hstatus]
    obtain ⟨-, rfl⟩ := mem_invoiceOf hold
    have hcap : (old.id, (total : Int)) ∈
        (s.db.apply (.invoice { old with clientId, status, total })).caps.invoices :=
      List.mem_map.mpr ⟨_, (Table.mem_put h.good.sound.keyed.invoices).mpr (.inl rfl), rfl⟩
    rw [hdb] at hreleasable
    exact hreleasable.invoices (h.good.sound.keyed.apply _) hcap (Int.natCast_nonneg total)
  | _ => trivial

/-- Every allocation can be let go exactly when each edit covers what is allocated then. -/
theorem allReleasable_iff {s : Books} (hopening : s.Opening) {events : List Event}
    (hnonneg : ∀ event ∈ events, event.AmountsNonneg) :
    (∀ before, before <+: events →
      (Transition.run (Books.after world) s before).db.AllReleasable) ↔
      Transition.Along (Books.after world) (fun s event => event.Covers s.db) s events := by
  have hkept := hopening.kept
  clear hopening
  induction events generalizing s with
  | nil =>
    refine ⟨fun _ => trivial, fun _ before hbefore => ?_⟩
    rw [List.prefix_nil.mp hbefore]
    exact hkept.good.allReleasable
  | cons event events ih =>
    have hafter : event.Covers s.db → (s.after world event).Kept :=
      hkept.after (hnonneg event List.mem_cons_self)
    have hrest := fun hcovers =>
      ih (fun other hother => hnonneg other (List.mem_cons_of_mem _ hother)) (hafter hcovers)
    constructor
    · intro hreleasable
      have hone : (s.after world event).db.AllReleasable :=
        hreleasable [event] ((List.prefix_cons_inj event).mpr List.nil_prefix)
      have hcovers := hkept.covers hone
      exact ⟨hcovers, (hrest hcovers).mp fun before hbefore =>
        hreleasable (event :: before) ((List.prefix_cons_inj event).mpr hbefore)⟩
    · rintro ⟨hcovers, hlater⟩ before hbefore
      cases before with
      | nil => exact hkept.good.allReleasable
      | cons first before =>
        obtain ⟨rfl, htail⟩ := List.cons_prefix_cons.mp hbefore
        exact (hrest hcovers).mpr hlater before htail

theorem sampleBooks_opening : sampleBooks.Opening :=
  ⟨sampleBooks_good.sound.keyed, by decide, by decide, rfl⟩

/-- An allocation of 100.00, after which the payment is edited to `amount`. -/
def editedAfter (amount : Nat) : List Event :=
  [.operation (.allocate 1 1 1 10000), .updatePayment 1 1 1 amount]

/-- A payment edited to a larger amount. -/
theorem allReleasable_iff_sample :
    (∀ before, before <+: editedAfter 12000 →
      (Transition.run (Books.after quietWorld) sampleBooks before).db.AllReleasable) ↔
      Transition.Along (Books.after quietWorld) (fun s event => event.Covers s.db) sampleBooks
        (editedAfter 12000) :=
  allReleasable_iff sampleBooks_opening (by
    simp [editedAfter, Event.AmountsNonneg, Operation.AmountsNonneg])

/-- A payment edited to 50.00 keeps its allocation of 100.00, and cannot release it. -/
theorem not_allReleasable_reduced :
    let s := Transition.run (Books.after quietWorld) sampleBooks (editedAfter 5000)
    ¬s.db.AllReleasable ∧
      (alone engine quietWorld (unapply 1 1 1) s.tick s.db none).value = .thrown .overAllocation ∧
      (alone engine quietWorld (deletePayment 1 1) s.tick s.db none).value = .ok 204 .none ∧
      (liveAllocationsOf 1 (s.step quietWorld (.deletePayment 1 1)).db).map Allocation.amount =
        [10000] := by
  refine ⟨fun h => ?_, by decide +kernel, by decide +kernel, by decide +kernel⟩
  have hcap : ((1, 5000) : Nat × Int) ∈ (Transition.run (Books.after quietWorld) sampleBooks
      (editedAfter 5000)).db.caps.payments := by decide +kernel
  exact absurd (h.payments ⟨by decide +kernel, by decide +kernel, by decide +kernel⟩ hcap (by decide))
    (by decide +kernel)

end FireIsp.Billing
