import FireIsp.Base.Pour
import FireIsp.Billing.Refresh

/-!
# The order of automatic allocation

`allocate-auto` pours the credit of a payment over the targeted invoices, oldest first.  An invoice
that already holds an allocation of the payment is passed over, also when it is not covered.
-/

namespace FireIsp.Billing

open Txn

/-- What a live invoice is still owed. -/
def Db.balanceDue (db : Db) (invoice : Invoice) : Int :=
  invoice.total - allocatedTo invoice.id db.allocations

def Db.holds (db : Db) (paymentId : Nat) (invoice : Invoice) : Bool :=
  db.allocations.any fun row => row.live && row.paymentId == paymentId && row.invoiceId == invoice.id

/-- What the invoice can still get from the payment. -/
def Db.due (db : Db) (paymentId : Nat) (invoice : Invoice) : Int :=
  if db.holds paymentId invoice then 0 else db.balanceDue invoice

/-- An invoice gets money only if older ones are covered, and credit is left only if all are. -/
structure Fifo (payment : Payment) (targeted : List Invoice) (db db' : Db) : Prop where
  given : ∀ older ∈ targeted, ∀ newer ∈ targeted, issuedBefore older newer → older ≠ newer →
    allocatedTo newer.id db.allocations < allocatedTo newer.id db'.allocations →
      older.total ≤ allocatedTo older.id db'.allocations
  left : allocatedFrom payment.id db'.allocations < payment.amount →
    ∀ invoice ∈ targeted, invoice.total ≤ allocatedTo invoice.id db'.allocations

section Loop

variable {paymentId tick : Nat} {amount : Int} {base books : Db}

/-- Money for an invoice among some portions. -/
def portionTo (id : Nat) (portions : List (Invoice × Int)) : Int :=
  (portions.map fun portion => if portion.1.id = id then portion.2 else 0).sum

@[simp] theorem portionTo_cons (id : Nat) (portion : Invoice × Int)
    (portions : List (Invoice × Int)) :
    portionTo id (portion :: portions) =
      (if portion.1.id = id then portion.2 else 0) + portionTo id portions := List.sum_cons

variable {new : Allocation}

theorem allocated_snoc (side : Allocation → Nat) (id : Nat) (rows : List Allocation)
    (h : new.live = true) :
    allocated side id (rows ++ [new]) =
      allocated side id rows + if side new = id then new.amount else 0 := by
  simp only [allocated, sumAmounts, List.map_append, List.sum_append, List.map_cons, List.map_nil,
    List.sum_singleton, h, Bool.true_and, beq_iff_eq]

theorem guardsAccept_insert (hpayment : ∀ cap ∈ books.caps.payments, cap.1 = new.paymentId →
      allocatedFrom new.paymentId books.allocations + new.amount ≤ cap.2)
    (hinvoice : ∀ cap ∈ books.caps.invoices, cap.1 = new.invoiceId →
      allocatedTo new.invoiceId books.allocations + new.amount ≤ cap.2) :
    guardsAccept books new none = true := by
  rw [guardsAccept, guardSum_none Allocation.paymentId, guardSum_none Allocation.invoiceId,
    Bool.and_eq_true]
  constructor
  · cases hfind : books.payments.find? fun row => row.id == new.paymentId with
    | none => rfl
    | some payment => exact decide_eq_true (hpayment (payment.id, payment.amount)
        (List.mem_map.mpr ⟨payment, List.mem_of_find?_eq_some hfind, rfl⟩)
        (by simpa using List.find?_some hfind))
  · cases hfind : books.invoices.find? fun row => row.id == new.invoiceId with
    | none => rfl
    | some invoice => exact decide_eq_true (hinvoice (invoice.id, invoice.total)
        (List.mem_map.mpr ⟨invoice, List.mem_of_find?_eq_some hfind, rfl⟩)
        (by simpa using List.find?_some hfind))

theorem cap_unique {α : Type} {key : α → Nat} {value : α → Int} {rows : List α}
    (h : Table.Keyed key rows) {id : Nat} {a b : Int}
    (ha : (id, a) ∈ rows.map fun row => (key row, value row))
    (hb : (id, b) ∈ rows.map fun row => (key row, value row)) : a = b := by
  obtain ⟨x, hx, hxa⟩ := List.mem_map.mp ha
  obtain ⟨y, hy, hyb⟩ := List.mem_map.mp hb
  obtain ⟨hxid, rfl⟩ := Prod.mk.inj hxa
  obtain ⟨hyid, rfl⟩ := Prod.mk.inj hyb
  rw [List.inj_on_of_nodup_map h hx hy (hxid.trans hyid.symm)]

theorem finalized_caps (hkeyed : books.WellKeyed) (invoice : Invoice) (tick : Nat) :
    (books.finalized invoice tick).caps = books.caps := by
  unfold Db.finalized
  split
  · rfl
  · exact (visible_caps hkeyed fun w hw => (exec_wrote _ _ _ _ w hw).keepsCaps).2

structure Poured (paymentId : Nat) (portions : List (Invoice × Int)) (books books' : Db) : Prop where
  invoices : ∀ id, allocatedTo id books'.allocations =
    allocatedTo id books.allocations + portionTo id portions
  payment : allocatedFrom paymentId books'.allocations =
    allocatedFrom paymentId books.allocations + Pour.poured portions

/-- The loop ended on a working copy with the poured portions. -/
def Waterfall.Pours (paymentId : Nat) (portions : List (Invoice × Int)) (base books : Db)
    (o : Outcome (Except Response Waterfall) Db) : Prop :=
  o.db = base ∧ ∃ progress books', o.value = .ok progress ∧ o.work = some books' ∧
    Poured paymentId portions books books'

/-- Rows the loop can still come to carry the books' balance, part and total. -/
structure Pending (paymentId : Nat) (due : Invoice → Int) (books : Db) (row : Invoice × Int) :
    Prop where
  balance : row.2 = books.balanceDue row.1
  due : due row.1 = books.due paymentId row.1
  total : (row.1.id, row.1.total) ∈ books.caps.invoices

theorem Pending.other {due : Invoice → Int} {row : Invoice × Int} {books' : Db}
    (h : Pending paymentId due books row) (hlive : new.live = true) (hne : new.invoiceId ≠ row.1.id)
    (hrows : books'.allocations = books.allocations ++ [new])
    (hinvoices : books'.caps.invoices = books.caps.invoices) :
    Pending paymentId due books' row := by
  have hbalance : books'.balanceDue row.1 = books.balanceDue row.1 := by
    rw [Db.balanceDue, Db.balanceDue, hrows, allocatedTo, allocated_snoc _ _ _ hlive, if_neg hne]
    exact congrArg (row.1.total - ·) (Int.add_zero _)
  have hholds : books'.holds paymentId row.1 = books.holds paymentId row.1 := by
    rw [Db.holds, hrows, List.any_append, ← Db.holds]
    simp [hne]
  refine ⟨h.balance.trans hbalance.symm, ?_, hinvoices ▸ h.total⟩
  rw [h.due, Db.due, Db.due, hholds, hbalance]

theorem exec_insertAllocation (hkeyed : books.WellKeyed)
    (hfresh : ∀ row ∈ books.allocations, row.id < tick) {invoice : Invoice} {portion : Int}
    (hpayment : (paymentId, amount) ∈ books.caps.payments)
    (hinvoice : (invoice.id, invoice.total) ∈ books.caps.invoices)
    (hleft : portion ≤ amount - allocatedFrom paymentId books.allocations)
    (hdue : portion ≤ books.balanceDue invoice) :
    (Stmt.insertAllocation paymentId invoice.id portion).exec tick books books =
      if books.holds paymentId invoice then (.error .dupEntry, [])
      else (.ok tick, [.allocation ⟨tick, paymentId, invoice.id, portion, none⟩]) := by
  have hguard : guardsAccept books ⟨tick, paymentId, invoice.id, portion, none⟩ none = true := by
    refine guardsAccept_insert ?_ ?_
    · rintro ⟨id, value⟩ hcap rfl
      rw [cap_unique hkeyed.payments hcap hpayment]
      exact Int.add_le_of_le_sub_left hleft
    · rintro ⟨id, value⟩ hcap rfl
      rw [cap_unique hkeyed.invoices hcap hinvoice]
      exact Int.add_le_of_le_sub_left hdue
  have hpair : pairTaken books ⟨tick, paymentId, invoice.id, portion, none⟩ =
      books.holds paymentId invoice := by
    rw [pairTaken, Db.holds, Bool.eq_iff_iff, List.any_eq_true, List.any_eq_true]
    refine exists_congr fun row => and_congr_right fun hrow => ?_
    have hid : row.id ≠ tick := Nat.ne_of_lt (hfresh row hrow)
    simp [Allocation.samePair, hid, and_assoc]
  have hparents : ((books.payments.any fun row => row.id == paymentId) &&
      books.invoices.any fun row => row.id == invoice.id) = true := by
    obtain ⟨payment, hmem, heq⟩ := List.mem_map.mp hpayment
    obtain ⟨row, hrow, hequal⟩ := List.mem_map.mp hinvoice
    exact Bool.and_eq_true_iff.mpr
      ⟨List.any_eq_true.mpr ⟨payment, hmem, beq_iff_eq.mpr (Prod.mk.inj heq).1⟩,
        List.any_eq_true.mpr ⟨row, hrow, beq_iff_eq.mpr (Prod.mk.inj hequal).1⟩⟩
  simp only [Stmt.exec, hguard, hpair, hparents, Bool.not_true, Bool.false_eq_true, if_false, if_true]

variable (world : Nat → (e : Effect) → e.Answer)

theorem waterfall_pours {due : Invoice → Int} {rows : List (Invoice × Int)} (progress : Waterfall)
    (hkeyed : books.WellKeyed) (hfresh : ∀ row ∈ books.allocations, row.id < tick)
    (hnodup : (rows.map fun row => row.1.id).Nodup)
    (hrows : ∀ row ∈ rows, Pending paymentId due books row)
    (hamount : (paymentId, amount) ∈ books.caps.payments)
    (hleft : progress.remainder = amount - allocatedFrom paymentId books.allocations) :
    Waterfall.Pours paymentId (Pour.pour due progress.remainder (rows.map Prod.fst)) base books
      (alone engine world (waterfall paymentId rows progress) tick base (some books)) := by
  have hnil : ∀ books : Db, Poured paymentId [] books books := fun books =>
    ⟨fun _ => (Int.add_zero _).symm, (Int.add_zero _).symm⟩
  induction rows generalizing progress tick books with
  | nil => exact ⟨rfl, progress, books, rfl, rfl, hnil books⟩
  | cons row rows ih =>
    obtain ⟨invoice, balanceDue⟩ := row
    obtain ⟨hhead, hrest⟩ := List.forall_mem_cons.mp hrows
    obtain ⟨hnot, hnodup'⟩ := List.nodup_cons.mp hnodup
    rw [List.map_cons]
    by_cases hremainder : progress.remainder ≤ 0
    · rw [waterfall, if_pos hremainder, Pour.pour_of_nonpos hremainder]
      exact ⟨rfl, progress, books, rfl, rfl, hnil books⟩
    by_cases hbalance : max 0 balanceDue ≤ 0
    · have hdue : due invoice ≤ 0 := by
        rw [hhead.due, Db.due, ← hhead.balance]
        split <;> omega
      rw [waterfall, if_neg hremainder, if_pos hbalance, Pour.pour, if_neg hremainder,
        if_pos hdue]
      exact ih progress hkeyed hfresh hnodup' hrest hamount hleft
    · have hportion : min progress.remainder (max 0 balanceDue) = min progress.remainder balanceDue := by
        omega
      have hexec := exec_insertAllocation hkeyed hfresh hamount hhead.total
        ((min_le_left progress.remainder balanceDue).trans_eq hleft)
        ((min_le_right progress.remainder balanceDue).trans_eq hhead.balance)
      rw [waterfall, if_neg hremainder, if_neg hbalance, hportion]
      simp only [execute, send]
      rw [alone_send_conn, engine_exec, hexec]
      cases hholds : books.holds paymentId invoice with
      | true =>
        -- the duplicate key is skipped
        have hdue : due invoice ≤ 0 := by
          rw [hhead.due, Db.due, if_pos hholds]
        rw [if_pos rfl, Pour.pour, if_neg hremainder, if_pos hdue]
        exact ih progress hkeyed (fun a ha => Nat.lt_succ_of_lt (hfresh a ha)) hnodup' hrest hamount
          hleft
      | false =>
        set new : Allocation := ⟨tick, paymentId, invoice.id, min progress.remainder balanceDue, none⟩
          with hnew
        have hdue : due invoice = balanceDue := by
          rw [hhead.due, Db.due, hholds, ← hhead.balance]
          rfl
        have hput : (books.apply (.allocation new)).allocations = books.allocations ++ [new] :=
          Table.put_fresh fun h => by
            obtain ⟨old, hold, hid⟩ := List.mem_map.mp h
            exact Nat.ne_of_lt (hfresh old hold) hid
        obtain ⟨paid, tick', hle, hrun⟩ := alone_finalize_conn world invoice (tick + 1) base
          (books.apply (.allocation new))
        obtain ⟨hallocations, hpayments, -, hkeyed'⟩ :=
          finalized_other (hkeyed.apply (.allocation new)) invoice (tick + 2)
        have hcaps :
            ((books.apply (.allocation new)).finalized invoice (tick + 2)).caps = books.caps :=
          finalized_caps (hkeyed.apply (.allocation new)) invoice (tick + 2)
        have hsame := hallocations.trans hput
        have hfrom := allocated_snoc Allocation.paymentId paymentId books.allocations
          (show new.live = true from rfl)
        rw [if_pos (show new.paymentId = paymentId from rfl), ← hsame,
          show new.amount = min progress.remainder balanceDue from rfl] at hfrom
        have hfresh' : ∀ a ∈ ((books.apply (.allocation new)).finalized invoice
            (tick + 2)).allocations, a.id < tick' := by
          intro a ha
          rw [hsame] at ha
          rcases List.mem_append.mp ha with hold | hold
          · exact (hfresh a hold).trans_le (Nat.le_of_succ_le hle)
          · rw [List.mem_singleton.mp hold]
            exact hle
        have hnext := ih ⟨progress.remainder - min progress.remainder balanceDue,
            progress.applied ++ [⟨tick, invoice.id, invoice.invoiceNumber,
              min progress.remainder balanceDue, paid⟩],
            if paid then progress.justPaid ++ [invoice] else progress.justPaid⟩ hkeyed'
          hfresh' hnodup'
          (fun row hrow => (hrest row hrow).other rfl
            (fun hid : invoice.id = row.1.id => hnot (List.mem_map.mpr ⟨row, hrow, hid.symm⟩)) hsame
            (congrArg Caps.invoices hcaps))
          (hcaps ▸ hamount) (by simp only [allocatedFrom] at hfrom hleft ⊢; omega)
        rw [if_neg Bool.false_ne_true, Pour.pour, if_neg hremainder, if_neg (by omega), hdue]
        have hvisible : engine.visible books [.allocation new] = books.apply (.allocation new) := rfl
        dsimp only
        rw [alone_bind, hvisible, hrun]
        obtain ⟨hdb, progress', books', hvalue, hwork, hpoured⟩ := hnext
        refine ⟨hdb, progress', books', hvalue, hwork, fun id => ?_, ?_⟩
        · rw [hpoured.invoices id, allocatedTo, hsame, allocated_snoc _ _ _ rfl, portionTo_cons]
          exact Int.add_assoc _ _ _
        · rw [hpoured.payment, Pour.poured_cons]
          simp only [allocatedFrom] at hfrom ⊢
          omega

theorem distribute_pours (org : Nat) {due : Invoice → Int} {rows : List (Invoice × Int)}
    {remainder : Int} (hkeyed : books.WellKeyed) (hfresh : ∀ row ∈ books.allocations, row.id < tick)
    (hnodup : (rows.map fun row => row.1.id).Nodup)
    (hrows : ∀ row ∈ rows, Pending paymentId due books row)
    (hamount : (paymentId, amount) ∈ books.caps.payments)
    (hleft : remainder = amount - allocatedFrom paymentId books.allocations) :
    Poured paymentId (Pour.pour due remainder (rows.map Prod.fst)) books
      (alone engine world (distribute org paymentId rows remainder) tick base (some books)).db := by
  obtain ⟨hdb, progress, books', hvalue, hwork, hpoured⟩ := @waterfall_pours paymentId tick amount base
    books world due rows ⟨remainder, [], []⟩ hkeyed hfresh hnodup hrows hamount hleft
  unfold distribute
  rw [alone_bind, hvalue, hwork, hdb]
  exact (alone_afterWaterfall world org paymentId progress _ books').symm ▸ hpoured

end Loop

section Order

open Pour

variable {due : Invoice → Int} {remainder : Int} {targeted : List Invoice} {id : Nat}

theorem portionTo_nonneg : 0 ≤ portionTo id (pour due remainder targeted) := by
  refine List.sum_nonneg fun value hvalue => ?_
  obtain ⟨portion, hportion, rfl⟩ := List.mem_map.mp hvalue
  split
  · exact (of_mem_pour hportion).2.1.le
  · exact le_refl 0

theorem le_portionTo {invoice : Invoice} {portion : Int}
    (h : (invoice, portion) ∈ pour due remainder targeted) :
    portion ≤ portionTo invoice.id (pour due remainder targeted) := by
  refine List.single_le_sum (fun value hvalue => ?_) portion
    (List.mem_map.mpr ⟨(invoice, portion), h, if_pos rfl⟩)
  obtain ⟨other, hother, rfl⟩ := List.mem_map.mp hvalue
  split
  · exact (of_mem_pour hother).2.1.le
  · exact le_refl 0

theorem served_of_portionTo_pos (h : 0 < portionTo id (pour due remainder targeted)) :
    ∃ invoice portion, (invoice, portion) ∈ pour due remainder targeted ∧ invoice.id = id := by
  by_contra hnone
  have hzero : portionTo id (pour due remainder targeted) = 0 := by
    refine List.sum_eq_zero fun value hvalue => ?_
    obtain ⟨portion, hportion, rfl⟩ := List.mem_map.mp hvalue
    exact if_neg fun hid => hnone ⟨portion.1, portion.2, hportion, hid⟩
  omega

def dueBefore (due : Invoice → Int) (older : List Invoice) : Int :=
  (older.map fun invoice => max 0 (due invoice)).sum

theorem pour_split (hpos : 0 < remainder) {older newer : List Invoice} {invoice : Invoice} :
    pour due remainder (older ++ invoice :: newer) = pour due remainder older ++
      pour due (remainder - min remainder (dueBefore due older)) (invoice :: newer) := by
  rw [pour_append, poured_eq_min hpos.le]
  rfl

/-- Money is poured in order iff it is used up before an uncovered invoice is passed over. -/
theorem fifo_iff {payment : Payment} {db db' : Db} (hnodup : (targeted.map Invoice.id).Nodup)
    (hsorted : targeted.Pairwise issuedBefore)
    (hremainder : remainder = payment.amount - allocatedFrom payment.id db.allocations)
    (hpos : 0 < remainder)
    (hpoured : Poured payment.id (pour (db.due payment.id) remainder targeted) db db') :
    Fifo payment targeted db db' ↔
      ∀ older invoice newer, targeted = older ++ invoice :: newer →
        db.holds payment.id invoice = true → 0 < db.balanceDue invoice →
          remainder ≤ dueBefore (db.due payment.id) older := by
  have hsame : ∀ {a b : Invoice}, a ∈ targeted → b ∈ targeted → a.id = b.id → a = b :=
    fun ha hb hid => List.inj_on_of_nodup_map hnodup ha hb hid
  have hcovered : ∀ invoice : Invoice, invoice.total ≤ allocatedTo invoice.id db'.allocations ↔
      db.balanceDue invoice ≤
        portionTo invoice.id (pour (db.due payment.id) remainder targeted) := fun invoice => by
    rw [hpoured.invoices, Db.balanceDue]
    omega
  have hspent := @poured_le _ (db.due payment.id) remainder targeted hpos.le
  constructor
  · rintro h older invoice newer rfl hholds hbalance
    by_contra hless
    have hmem : invoice ∈ older ++ invoice :: newer := List.mem_append_cons_self
    have hdue : db.due payment.id invoice = 0 := if_pos hholds
    have huncovered : ¬invoice.total ≤ allocatedTo invoice.id db'.allocations := by
      rw [hcovered]
      intro hle
      obtain ⟨served, portion, hserved, hid⟩ := served_of_portionTo_pos (hbalance.trans_le hle)
      obtain ⟨hin, hportion, hwithin⟩ := of_mem_pour hserved
      rw [hsame hin hmem hid, hdue] at hwithin
      omega
    have hsplit := @pour_split (db.due payment.id) remainder hpos older newer invoice
    have hskip : ∀ left : Int, pour (db.due payment.id) left (invoice :: newer) =
        pour (db.due payment.id) left newer := by
      intro left
      rw [pour, hdue]
      split
      · rename_i hleft
        exact (pour_of_nonpos hleft).symm
      · rfl
    rw [hskip, min_eq_right (Int.not_le.mp hless).le] at hsplit
    rcases lt_or_ge (poured (pour (db.due payment.id) remainder (older ++ invoice :: newer)))
      remainder with hleft | hall
    · exact huncovered (h.left (by rw [hpoured.payment]; omega) invoice hmem)
    · -- the rest went to a newer invoice
      cases hrest : pour (db.due payment.id) (remainder - dueBefore (db.due payment.id) older) newer with
      | nil =>
        rw [hrest, List.append_nil] at hsplit
        rw [hsplit, poured_eq_min hpos.le] at hall
        exact hless (hall.trans (min_le_right _ _))
      | cons portion portions =>
        have hin : portion ∈ pour (db.due payment.id)
            (remainder - dueBefore (db.due payment.id) older) newer := hrest ▸ List.mem_cons_self
        obtain ⟨hnewer, hpositive, -⟩ := of_mem_pour hin
        have hserved : portion ∈ pour (db.due payment.id) remainder (older ++ invoice :: newer) :=
          hsplit ▸ List.mem_append_right _ hin
        have hgot := le_portionTo hserved
        have hlater := (List.pairwise_cons.mp (List.pairwise_append.mp hsorted).2.1).1 portion.1 hnewer
        have hother : invoice ≠ portion.1 := by
          rintro rfl
          rw [List.map_append, List.map_cons] at hnodup
          exact (List.nodup_cons.mp (List.Nodup.of_append_right hnodup)).1
            (List.mem_map.mpr ⟨portion.1, hnewer, rfl⟩)
        refine huncovered (h.given invoice hmem portion.1 (of_mem_pour hserved).1 hlater hother ?_)
        rw [hpoured.invoices]
        omega
  · intro h
    -- an invoice that is passed over uncovered ends the distribution
    have hends : ∀ invoice ∈ targeted, db.holds payment.id invoice = true →
        0 < db.balanceDue invoice → ∃ older newer, targeted = older ++ invoice :: newer ∧
          remainder ≤ dueBefore (db.due payment.id) older ∧
          pour (db.due payment.id) remainder targeted = pour (db.due payment.id) remainder older := by
      intro invoice hmem hholds hbalance
      obtain ⟨older, newer, rfl⟩ := List.append_of_mem hmem
      have hused := h older invoice newer rfl hholds hbalance
      refine ⟨older, newer, rfl, hused, ?_⟩
      rw [pour_split hpos, min_eq_left hused, Int.sub_self, pour_of_nonpos (le_refl 0), List.append_nil]
    have hdue : ∀ invoice : Invoice, ¬db.holds payment.id invoice = true →
        db.due payment.id invoice = db.balanceDue invoice := fun _ hnone => if_neg hnone
    constructor
    · intro older holder newer hnewer hbefore hne hgets
      rw [hpoured.invoices] at hgets
      obtain ⟨served, portion, hserved, hid⟩ := served_of_portionTo_pos
        (show 0 < portionTo newer.id (pour (db.due payment.id) remainder targeted) by omega)
      obtain rfl : served = newer := hsame (of_mem_pour hserved).1 hnewer hid
      have hnot : ¬issuedBefore served older := by
        rintro (hearlier | ⟨hequal, hsmaller⟩)
        · rcases hbefore with hdate | ⟨hdate, -⟩ <;> omega
        · rcases hbefore with hdate | ⟨hdate, hid'⟩
          · omega
          · exact hne (hsame holder hnewer (le_antisymm hid' hsmaller))
      rw [hcovered]
      rcases Int.lt_or_le 0 (db.balanceDue older) with hbalance | hnone
      · by_cases hholds : db.holds payment.id older = true
        · obtain ⟨before, after, hsplit, -, hpour⟩ := hends older holder hholds hbalance
          rw [hpour] at hserved
          rw [hsplit] at hsorted
          exact absurd ((List.pairwise_append.mp hsorted).2.2 served (of_mem_pour hserved).1 older
            List.mem_cons_self) hnot
        · have hself : ∀ a : Invoice, issuedBefore a a := fun _ => .inr ⟨rfl, le_refl _⟩
          have hfull := served_before hself hsorted hserved holder hnot
            ((hdue older hholds).symm ▸ hbalance)
          exact (hdue older hholds).symm.le.trans (le_portionTo hfull)
      · exact hnone.trans portionTo_nonneg
    · intro hcredit invoice hmem
      rw [hpoured.payment] at hcredit
      rw [hcovered]
      rcases Int.lt_or_le 0 (db.balanceDue invoice) with hbalance | hnone
      · by_cases hholds : db.holds payment.id invoice = true
        · obtain ⟨before, after, -, hused, hpour⟩ := hends invoice hmem hholds hbalance
          rw [hpour, poured_eq_min hpos.le] at hcredit
          rw [dueBefore] at hused
          omega
        · obtain ⟨before, after, rfl⟩ := List.append_of_mem hmem
          have hall := @poured_eq_min _ (db.due payment.id) remainder (before ++ invoice :: after) hpos.le
          rw [List.map_append, List.sum_append, List.map_cons, List.sum_cons] at hall
          have hrest : 0 ≤ dueBefore (db.due payment.id) after := List.sum_nonneg fun value hvalue => by
            obtain ⟨x, -, rfl⟩ := List.mem_map.mp hvalue
            exact le_max_left 0 _
          have hinvoice := hdue invoice hholds
          rw [dueBefore] at hrest
          have hserved : (invoice, db.due payment.id invoice) ∈
              pour (db.due payment.id) remainder (before ++ invoice :: after) := by
            rw [pour_split hpos]
            refine List.mem_append_right _ ?_
            rw [dueBefore, pour, if_neg (by omega), if_neg (by omega), min_eq_right (by omega)]
            exact List.mem_cons_self
          exact hinvoice.symm.le.trans (le_portionTo hserved)
      · exact hnone.trans portionTo_nonneg

theorem nodup_payableInvoices {db : Db} (hkeyed : db.WellKeyed) (org clientId : Nat)
    (ids : Option (List Nat)) :
    ((payableInvoices org clientId ids db.invoices).map Invoice.id).Nodup := by
  refine ((List.perm_insertionSort _ _).map _).nodup_iff.mpr ?_
  exact List.Nodup.sublist (List.filter_sublist.map _) hkeyed.invoices

theorem sorted_payableInvoices (org clientId : Nat) (ids : Option (List Nat)) (rows : List Invoice) :
    (payableInvoices org clientId ids rows).Pairwise issuedBefore := by
  have htotal : Std.Total issuedBefore := ⟨fun a b => by
    simp only [issuedBefore]
    omega⟩
  have htrans : IsTrans Invoice issuedBefore := ⟨fun a b c hab hbc => by
    simp only [issuedBefore] at hab hbc ⊢
    omega⟩
  exact List.pairwise_insertionSort issuedBefore _

variable (world : Nat → (e : Effect) → e.Answer)

/-- It is first in, first out iff no uncovered invoice that holds an allocation is passed over. -/
theorem allocateAuto_fifo_iff {org paymentId tick : Nat} {ids : Option (List Nat)} {db : Db}
    {payment : Payment} (hkeyed : db.WellKeyed) (hfresh : ∀ row ∈ db.allocations, row.id < tick)
    (hpayment : paymentOf paymentId org db = some payment)
    (hcredit : 0 < payment.amount - allocatedFrom payment.id db.allocations) (hids : ids ≠ some [])
    (hpayable : ∀ id ∈ ids.getD [], ∃ invoice ∈ payableInvoices org payment.clientId ids db.invoices,
      invoice.id = id) :
    Fifo payment (payableInvoices org payment.clientId ids db.invoices) db
        (alone engine world (allocateAuto org paymentId ids) tick db none).db ↔
      ∀ older invoice newer,
        payableInvoices org payment.clientId ids db.invoices = older ++ invoice :: newer →
        db.holds payment.id invoice = true → 0 < db.balanceDue invoice →
          payment.amount - allocatedFrom payment.id db.allocations ≤
            dueBefore (db.due payment.id) older := by
  obtain ⟨hmem, hmatch⟩ := And.intro (List.mem_of_find?_eq_some hpayment) (List.find?_some hpayment)
  simp only [Bool.and_eq_true, beq_iff_eq] at hmatch
  obtain rfl : payment.id = paymentId := hmatch.1.1
  have hmissing : missingIds ids ((payableInvoices org payment.clientId ids db.invoices).map
      fun row => (row, row.total - allocatedTo row.id db.allocations)) = [] := by
    refine List.filter_eq_nil_iff.mpr fun id hid => ?_
    obtain ⟨invoice, hinvoice, rfl⟩ := hpayable id hid
    rw [Bool.not_eq_true, Bool.not_eq_false']
    exact List.any_eq_true.mpr ⟨_, List.mem_map_of_mem hinvoice, beq_self_eq_true _⟩
  have hrun : alone engine world (allocateAuto org payment.id ids) tick db none =
      alone engine world (distribute org payment.id ((payableInvoices org payment.clientId ids
        db.invoices).map fun row => (row, row.total - allocatedTo row.id db.allocations))
        (payment.amount - allocatedFrom payment.id db.allocations)) (tick + 4) db (some db) := by
    have hremainder : ¬payment.amount ≤ allocatedFrom payment.id db.allocations := by omega
    simp [allocateAuto, Stmt.exec, hids, hpayment, hremainder, hmissing]
  have hnodup := nodup_payableInvoices hkeyed org payment.clientId ids
  have hpoured : Poured payment.id (pour (db.due payment.id)
      (payment.amount - allocatedFrom payment.id db.allocations)
      (payableInvoices org payment.clientId ids db.invoices)) db
      (alone engine world (allocateAuto org payment.id ids) tick db none).db := by
    rw [hrun]
    have h := @distribute_pours payment.id (tick + 4) payment.amount db db world org
      (db.due payment.id) ((payableInvoices org payment.clientId ids db.invoices).map fun row =>
        (row, row.total - allocatedTo row.id db.allocations)) _ hkeyed
      (fun row hrow => Nat.lt_add_right 4 (hfresh row hrow)) (by rwa [List.map_map])
      (fun row hrow => by
        obtain ⟨invoice, hinvoice, rfl⟩ := List.mem_map.mp hrow
        exact ⟨rfl, rfl, List.mem_map.mpr ⟨invoice, (of_mem_payableInvoices hinvoice).1, rfl⟩⟩)
      (List.mem_map.mpr ⟨payment, hmem, rfl⟩) rfl
    have hinvoices : (((payableInvoices org payment.clientId ids db.invoices).map fun row =>
        (row, row.total - allocatedTo row.id db.allocations)).map Prod.fst) =
        payableInvoices org payment.clientId ids db.invoices := by
      rw [List.map_map]
      exact List.map_id _
    rwa [hinvoices] at h
  exact fifo_iff hnodup (sorted_payableInvoices org payment.clientId ids db.invoices) rfl hcredit hpoured

/-- A payment of 200.00, 50.00 of it on the older of two invoices. -/
def partlyApplied : Db where
  payments := [⟨1, 1, 1, 20000, "MXN", none, none⟩]
  invoices := [⟨1, 1, 1, none, "A", 1, 15000, .issued, none, none⟩,
    ⟨2, 1, 1, none, "B", 2, 10000, .issued, none, none⟩]
  allocations := [⟨1, 1, 1, 5000, none⟩]
  ledger := []
  cfdis := []

/-- Nothing else happens. -/
def noEffects : Nat → (e : Effect) → e.Answer := fun _ e =>
  match e with
  | .reconnectIfSuspended .. => false
  | .maybeGenerateRep .. => ()
  | .auditLog .. => ()

/-- The newer invoice is paid and the older one is not. -/
theorem not_fifo_partlyApplied :
    ¬Fifo ⟨1, 1, 1, 20000, "MXN", none, none⟩ (payableInvoices 1 1 none partlyApplied.invoices)
      partlyApplied (alone engine noEffects (allocateAuto 1 1 none) 2 partlyApplied none).db := by
  intro h
  have hpaid := h.given ⟨1, 1, 1, none, "A", 1, 15000, .issued, none, none⟩ (by decide +kernel)
    ⟨2, 1, 1, none, "B", 2, 10000, .issued, none, none⟩ (by decide +kernel) (by decide) (by decide)
    (by decide +kernel)
  exact absurd hpaid (by decide +kernel)

/-- The requirement on these tables. -/
theorem allocateAuto_fifo_iff_partlyApplied :
    Fifo ⟨1, 1, 1, 20000, "MXN", none, none⟩ (payableInvoices 1 1 none partlyApplied.invoices)
        partlyApplied (alone engine noEffects (allocateAuto 1 1 none) 2 partlyApplied none).db ↔
      ∀ older invoice newer,
        payableInvoices 1 1 none partlyApplied.invoices = older ++ invoice :: newer →
        partlyApplied.holds 1 invoice = true → 0 < partlyApplied.balanceDue invoice →
          20000 - allocatedFrom 1 partlyApplied.allocations ≤
            dueBefore (partlyApplied.due 1) older :=
  @allocateAuto_fifo_iff noEffects 1 1 2 none partlyApplied ⟨1, 1, 1, 20000, "MXN", none, none⟩
    ⟨by decide, by decide, by decide⟩ (by decide) (by decide +kernel) (by decide +kernel)
    (Option.some_ne_none []).symm (fun _ hid => absurd hid List.not_mem_nil)

end Order

end FireIsp.Billing
