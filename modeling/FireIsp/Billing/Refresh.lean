import FireIsp.Billing.Operations

/-!
# Paid-status refresh

What the refresh loop leaves behind: each listed invoice is paid or not according to the
live allocations it carries, and nothing but `status` and `paid_at` is touched.
-/

namespace FireIsp.Billing

open Txn

/-- The live allocations of the invoice reach its total. -/
def Invoice.covered (rows : List Allocation) (invoice : Invoice) : Bool :=
  decide (invoice.total ≤ allocatedTo invoice.id rows)

def InvoiceStatus.refreshed (covered : Bool) (status : InvoiceStatus) : InvoiceStatus :=
  if covered then .paid else if status = .paid then .issued else status

@[simp] theorem InvoiceStatus.refreshed_refreshed (covered : Bool) (status : InvoiceStatus) :
    (status.refreshed covered).refreshed covered = status.refreshed covered := by
  cases covered with
  | true => rfl
  | false => cases status <;> rfl

/-- The invoice without its `paid_at`. -/
def Invoice.undated (invoice : Invoice) : Invoice := { invoice with paidAt := none }

/-- The invoice after a refresh of the listed ids, without its `paid_at`. -/
def Invoice.refreshed (rows : List Allocation) (ids : List Nat) (invoice : Invoice) : Invoice :=
  { invoice with
    status := if invoice.id ∈ ids ∧ invoice.live = true then
        invoice.status.refreshed (invoice.covered rows)
      else invoice.status
    paidAt := none }

@[simp] theorem Invoice.refreshed_nil (rows : List Allocation) (invoice : Invoice) :
    invoice.refreshed rows [] = invoice.undated := by
  simp [Invoice.refreshed, Invoice.undated]

theorem Invoice.refreshed_cons (rows : List Allocation) (id : Nat) (ids : List Nat)
    (invoice : Invoice) :
    invoice.refreshed rows (id :: ids) = (invoice.refreshed rows [id]).refreshed rows ids := by
  by_cases hlive : invoice.deletedAt.isNone = true
  · by_cases hid : invoice.id = id
    · by_cases hmem : invoice.id ∈ ids
      · simp [Invoice.refreshed, Invoice.live, Invoice.covered, hlive, hid, hid ▸ hmem]
      · simp [Invoice.refreshed, Invoice.live, Invoice.covered, hlive, hid, hid ▸ hmem]
    · simp [Invoice.refreshed, Invoice.live, Invoice.covered, hlive, hid]
  · simp [Invoice.refreshed, Invoice.live, hlive]

/-- What a refresh of the listed invoices does to the tables. -/
structure Refreshed (ids : List Nat) (db db' : Db) : Prop where
  allocations : db'.allocations = db.allocations
  payments : db'.payments = db.payments
  invoices : db'.invoices.map Invoice.undated = db.invoices.map (Invoice.refreshed db.allocations ids)

theorem Refreshed.wellKeyed {ids : List Nat} {db db' : Db} (h : Refreshed ids db db')
    (hkeyed : db.WellKeyed) : db'.WellKeyed := by
  have hids : db'.invoices.map Invoice.id = db.invoices.map Invoice.id := by
    have hmap := congrArg (List.map Invoice.id) h.invoices
    rw [List.map_map, List.map_map] at hmap
    exact hmap
  refine ⟨h.payments ▸ hkeyed.payments, ?_, h.allocations ▸ hkeyed.allocations⟩
  unfold Table.Keyed
  rw [hids]
  exact hkeyed.invoices

theorem Refreshed.cons {id : Nat} {ids : List Nat} {db db' db'' : Db}
    (hfirst : Refreshed [id] db db') (hrest : Refreshed ids db' db'') :
    Refreshed (id :: ids) db db'' := by
  refine ⟨hrest.allocations.trans hfirst.allocations, hrest.payments.trans hfirst.payments, ?_⟩
  have hundated : db'.invoices.map (Invoice.refreshed db.allocations ids) =
      (db'.invoices.map Invoice.undated).map (Invoice.refreshed db.allocations ids) := by
    rw [List.map_map]
    rfl
  rw [hrest.invoices, hfirst.allocations, hundated, hfirst.invoices, List.map_map]
  exact List.map_congr_left fun invoice _ => (invoice.refreshed_cons db.allocations id ids).symm

theorem visible_invoices (db : Db) (rows : List Invoice) :
    engine.visible db (rows.map Write.invoice) =
      { db with invoices := Table.putAll Invoice.id db.invoices rows } := by
  induction rows generalizing db with
  | nil => rfl
  | cons row rows ih =>
    rw [List.map_cons, Engine.visible_cons, ih]
    rfl

theorem visible_invoice_updates {db : Db} (hkeyed : db.WellKeyed) (p : Invoice → Bool)
    (f : Invoice → Invoice) (hkey : ∀ row, (f row).id = row.id) :
    engine.visible db (updates p f .invoice db.invoices) =
      { db with invoices := db.invoices.map fun row => if p row then f row else row } := by
  have hwrites : updates p f .invoice db.invoices =
      ((db.invoices.filter p).map f).map Write.invoice := by
    rw [List.map_map]
    rfl
  rw [hwrites, visible_invoices, Table.putAll_updates hkeyed.invoices hkey]

theorem visible_markPaid {db : Db} (hkeyed : db.WellKeyed) (id tick : Nat) (unlessPaid : Bool) :
    engine.visible db ((Stmt.markPaid id unlessPaid).exec tick db db).2 =
      { db with invoices := db.invoices.map fun row =>
          if row.id == id && !(unlessPaid && row.status == .paid) then
            { row with status := .paid, paidAt := some tick }
          else row } :=
  visible_invoice_updates hkeyed _ _ fun _ => rfl

theorem visible_markIssued {db : Db} (hkeyed : db.WellKeyed) (id tick : Nat) :
    engine.visible db ((Stmt.markIssued id).exec tick db db).2 =
      { db with invoices := db.invoices.map fun row =>
          if row.id == id && row.status == .paid then { row with status := .issued, paidAt := none }
          else row } :=
  visible_invoice_updates hkeyed _ _ fun _ => rfl

section Refresh

variable (world : Nat → (e : Effect) → e.Answer)

theorem alone_refreshInvoicePaidStatus (id tick : Nat) {db : Db} (hkeyed : db.WellKeyed) :
    Refreshed [id] db (alone engine world (refreshInvoicePaidStatus id) tick db none).db := by
  cases hfound : db.invoices.find? fun row => row.id == id && row.live with
  | none =>
    have hrun : (alone engine world (refreshInvoicePaidStatus id) tick db none).db = db := by
      simp [refreshInvoicePaidStatus, Stmt.exec, hfound]
    rw [hrun]
    refine ⟨rfl, rfl, List.map_congr_left fun row hrow => ?_⟩
    have hnot := List.find?_eq_none.mp hfound row hrow
    simp only [Bool.and_eq_true, beq_iff_eq, not_and] at hnot
    have hother : ¬(row.id ∈ [id] ∧ row.live = true) := fun h =>
      hnot (List.mem_singleton.mp h.1) h.2
    simp only [Invoice.undated, Invoice.refreshed, if_neg hother]
  | some invoice =>
    have hmatch := List.find?_some hfound
    simp only [Bool.and_eq_true, beq_iff_eq] at hmatch
    have hmem := List.mem_of_find?_eq_some hfound
    -- the one row with this id is the live row the totals were read from
    have honly : ∀ row ∈ db.invoices, row.id = id → row = invoice := fun row hrow hid =>
      List.inj_on_of_nodup_map hkeyed.invoices hrow hmem (hid.trans hmatch.1.symm)
    have hlive : ∀ row ∈ db.invoices, row.id = id → row.live = true := fun row hrow hid =>
      honly row hrow hid ▸ hmatch.2
    by_cases hcovered : invoice.total ≤ allocatedTo id db.allocations
    · have hrun : (alone engine world (refreshInvoicePaidStatus id) tick db none).db =
          engine.visible db ((Stmt.markPaid id true).exec (tick + 1) db db).2 := by
        simp [refreshInvoicePaidStatus, Stmt.exec, hfound, hcovered]
      rw [hrun, visible_markPaid hkeyed]
      refine ⟨rfl, rfl, ?_⟩
      rw [List.map_map]
      refine List.map_congr_left fun row hrow => ?_
      by_cases hid : row.id = id
      · have hrowCovered : row.covered db.allocations = true := by
          rw [honly row hrow hid]
          exact decide_eq_true (hmatch.1.symm ▸ hcovered)
        cases hstatus : row.status <;>
          simp [Invoice.undated, Invoice.refreshed, hid, hlive row hrow hid, hrowCovered,
            InvoiceStatus.refreshed, hstatus]
      · simp [Invoice.undated, Invoice.refreshed, hid]
    · have hrun : (alone engine world (refreshInvoicePaidStatus id) tick db none).db =
          engine.visible db ((Stmt.markIssued id).exec (tick + 1) db db).2 := by
        simp [refreshInvoicePaidStatus, Stmt.exec, hfound, hcovered]
      rw [hrun, visible_markIssued hkeyed]
      refine ⟨rfl, rfl, ?_⟩
      rw [List.map_map]
      refine List.map_congr_left fun row hrow => ?_
      by_cases hid : row.id = id
      · have hrowCovered : row.covered db.allocations = false := by
          rw [honly row hrow hid]
          exact decide_eq_false (hmatch.1.symm ▸ hcovered)
        cases hstatus : row.status <;>
          simp [Invoice.undated, Invoice.refreshed, hid, hlive row hrow hid, hrowCovered,
            InvoiceStatus.refreshed, hstatus]
      · simp [Invoice.undated, Invoice.refreshed, hid]

theorem refreshInvoicePaidStatus_work (id tick : Nat) (db : Db) :
    (alone engine world (refreshInvoicePaidStatus id) tick db none).work = none := by
  cases hfound : db.invoices.find? fun row => row.id == id && row.live with
  | none => simp [refreshInvoicePaidStatus, Stmt.exec, hfound]
  | some invoice =>
    by_cases hcovered : invoice.total ≤ allocatedTo id db.allocations
    · simp [refreshInvoicePaidStatus, Stmt.exec, hfound, hcovered]
    · simp [refreshInvoicePaidStatus, Stmt.exec, hfound, hcovered]

theorem alone_refreshAll (ids : List Nat) (tick : Nat) {db : Db} (hkeyed : db.WellKeyed) :
    Refreshed ids db (alone engine world (refreshAll ids) tick db none).db := by
  induction ids generalizing tick db with
  | nil =>
    refine ⟨rfl, rfl, List.map_congr_left fun invoice _ => ?_⟩
    exact (invoice.refreshed_nil db.allocations).symm
  | cons id ids ih =>
    have hfirst := alone_refreshInvoicePaidStatus world id tick hkeyed
    rw [refreshAll, alone_bind, refreshInvoicePaidStatus_work]
    exact hfirst.cons (ih _ (hfirst.wellKeyed hkeyed))

/-- What follows the commit of the waterfall writes nothing. -/
theorem alone_afterWaterfall (org paymentId : Nat) (progress : Waterfall) (tick : Nat) (db : Db) :
    (alone engine world (reconnectAll progress.justPaid >>= fun _ =>
      generateReps org paymentId progress.applied >>= fun _ =>
        return Response.ok 201 (.applied progress.applied progress.remainder)) tick db none).db = db := by
  have huses : ((reconnectAll progress.justPaid >>= fun _ =>
      generateReps org paymentId progress.applied >>= fun _ =>
        return .ok 201 (.applied progress.applied progress.remainder)) :
          Request Response).Uses fun _ => False :=
    (uses_reconnectAll _).bind fun _ => (uses_generateReps _ _ _).bind fun _ => trivial
  exact alone_unchanged (fun _ h => h.elim) huses tick db

end Refresh

section Finalize

variable (world : Nat → (e : Effect) → e.Answer)

/-- Tables once `finalizeIfFullyPaid` ran at `tick`. -/
def Db.finalized (db : Db) (invoice : Invoice) (tick : Nat) : Db :=
  if allocatedTo invoice.id db.allocations < invoice.total then db
  else engine.visible db ((Stmt.markPaid invoice.id false).exec tick db db).2

theorem refreshed_finalized {db : Db} {invoice : Invoice} {tick : Nat} (hkeyed : db.WellKeyed)
    (hrow : ∀ row ∈ db.invoices, row.id = invoice.id → row.total = invoice.total ∧
      row.live = true ∧ (row.covered db.allocations = false → row.status ≠ .paid)) :
    Refreshed [invoice.id] db (db.finalized invoice tick) := by
  unfold Db.finalized
  split
  · rename_i hlt
    refine ⟨rfl, rfl, List.map_congr_left fun row hmem => ?_⟩
    by_cases hid : row.id = invoice.id
    · obtain ⟨htotal, hlive, hunpaid⟩ := hrow row hmem hid
      have hcovered : row.covered db.allocations = false :=
        decide_eq_false (by rw [htotal, hid]; omega)
      simp [Invoice.undated, Invoice.refreshed, hid, hlive, hcovered, InvoiceStatus.refreshed,
        hunpaid hcovered]
    · simp [Invoice.undated, Invoice.refreshed, hid]
  · rename_i hlt
    rw [visible_markPaid hkeyed]
    refine ⟨rfl, rfl, ?_⟩
    rw [List.map_map]
    refine List.map_congr_left fun row hmem => ?_
    by_cases hid : row.id = invoice.id
    · obtain ⟨htotal, hlive, -⟩ := hrow row hmem hid
      have hcovered : row.covered db.allocations = true :=
        decide_eq_true (by rw [htotal, hid]; omega)
      simp [Invoice.undated, Invoice.refreshed, hid, hlive, hcovered, InvoiceStatus.refreshed]
    · simp [Invoice.undated, Invoice.refreshed, hid]

theorem finalized_other {db : Db} (hkeyed : db.WellKeyed) (invoice : Invoice) (tick : Nat) :
    (db.finalized invoice tick).allocations = db.allocations ∧
      (db.finalized invoice tick).payments = db.payments ∧
      (db.finalized invoice tick).ledger = db.ledger ∧ (db.finalized invoice tick).WellKeyed := by
  unfold Db.finalized
  split
  · exact ⟨rfl, rfl, rfl, hkeyed⟩
  · refine ⟨?_, ?_, ?_, Engine.visible_invariant (E := engine) (I := Db.WellKeyed)
      (fun _ _ _ h => h.apply _) hkeyed⟩ <;> rw [visible_markPaid hkeyed]

theorem alone_finalize_conn (invoice : Invoice) (tick : Nat) (db work : Db) :
    ∃ paid tick', tick ≤ tick' ∧
      alone engine world (finalizeIfFullyPaid .conn invoice) tick db (some work) =
        ⟨paid, tick', db, some (work.finalized invoice (tick + 1))⟩ := by
  by_cases hlt : allocatedTo invoice.id work.allocations < invoice.total
  · refine ⟨false, tick + 1, by omega, ?_⟩
    simp [finalizeIfFullyPaid, Stmt.exec, Db.finalized, hlt]
  · refine ⟨true, tick + 2, by omega, ?_⟩
    simp [finalizeIfFullyPaid, Stmt.exec, Db.finalized, hlt]

theorem alone_finalize_pool (invoice : Invoice) (tick : Nat) (db : Db) :
    ∃ paid tick', alone engine world (finalizeIfFullyPaid .pool invoice) tick db none =
      ⟨paid, tick', db.finalized invoice (tick + 1), none⟩ := by
  by_cases hlt : allocatedTo invoice.id db.allocations < invoice.total
  · refine ⟨false, tick + 1, ?_⟩
    simp [finalizeIfFullyPaid, Stmt.exec, Db.finalized, hlt]
  · refine ⟨true, tick + 2, ?_⟩
    simp [finalizeIfFullyPaid, Stmt.exec, Db.finalized, hlt]

end Finalize

end FireIsp.Billing
