import FireIsp.Billing.Writes

/-!
# Allocations within the amounts on record

The guard triggers compare live sums with the payment amount and the invoice total.
Here is what an accepted row version does to these sums, for both parents of an
allocation at once, and that a statement reading the current state keeps every sum
within its cap.
-/

namespace FireIsp.Billing

open Txn

/-- Live allocations stay within the amounts on record. -/
structure Db.Within (db : Db) : Prop where
  payments : ∀ cap ∈ db.caps.payments, allocatedFrom cap.1 db.allocations ≤ cap.2
  invoices : ∀ cap ∈ db.caps.invoices, allocatedTo cap.1 db.allocations ≤ cap.2

/-- Distinct keys, allocation ids already handed out, and no negative allocation. -/
structure Db.Sound (tick : Nat) (db : Db) : Prop where
  keyed : db.WellKeyed
  fresh : ∀ row ∈ db.allocations, row.id < tick
  nonneg : ∀ row ∈ db.allocations, 0 ≤ row.amount

variable {tick : Nat} {db : Db}

theorem Db.Sound.later {tick' : Nat} (h : db.Sound tick) (hle : tick ≤ tick') :
    db.Sound tick' :=
  ⟨h.keyed, fun row hrow => lt_of_lt_of_le (h.fresh row hrow) hle, h.nonneg⟩

/-- Contribution of a row to the live total of `id`. -/
def liveWeight (side : Allocation → Nat) (id : Nat) (row : Allocation) : Int :=
  if row.live && side row == id then row.amount else 0

theorem allocated_eq_total (side : Allocation → Nat) (id : Nat) (rows : List Allocation) :
    allocated side id rows = Table.total (liveWeight side id) rows := rfl

variable {side : Allocation → Nat} {id : Nat} {rows : List Allocation}

theorem liveWeight_nonneg (h : ∀ row ∈ rows, 0 ≤ row.amount) :
    ∀ row ∈ rows, 0 ≤ liveWeight side id row := by
  intro row hrow
  unfold liveWeight
  split
  · exact h row hrow
  · exact le_refl 0

theorem guardSum_some (side : Allocation → Nat) (id skip : Nat) (rows : List Allocation) :
    guardSum (fun row => side row == id) (some skip) rows =
      Table.total (fun row => if row.id = skip then 0 else liveWeight side id row) rows := by
  have hrow : (fun row : Allocation =>
      if row.live && some row.id != some skip && side row == id then row.amount else 0) =
      fun row => if row.id = skip then 0 else liveWeight side id row := by
    funext row
    by_cases h : row.id = skip <;> simp [liveWeight, h]
  exact congrArg (fun w => (rows.map w).sum) hrow

theorem guardSum_none (side : Allocation → Nat) (id : Nat) (rows : List Allocation) :
    guardSum (fun row => side row == id) none rows = allocated side id rows := by
  have hrow : (fun row : Allocation =>
      row.live && some row.id != none && side row == id) =
      fun row => row.live && side row == id := by
    funext row
    have hsome : (some row.id != none) = true := rfl
    rw [hsome, Bool.and_true]
  simp only [guardSum, allocated, hrow]

theorem find?_of_keyed {ρ : Type} {key : ρ → Nat} {row : ρ} {rows : List ρ}
    (h : Table.Keyed key rows) (hrow : row ∈ rows) :
    rows.find? (fun x => key x == key row) = some row :=
  Table.find?_eq_some h hrow (beq_self_eq_true _) fun _ _ hx => by simpa using hx

variable {new : Allocation}

theorem guardsAccept_payment (hkeyed : db.WellKeyed) {skip : Option Nat}
    (h : guardsAccept db new skip = true) {cap : Nat × Int} (hcap : cap ∈ db.caps.payments)
    (hid : new.paymentId = cap.1) :
    guardSum (fun row => row.paymentId == cap.1) skip db.allocations + new.amount ≤ cap.2 := by
  obtain ⟨payment, hpayment, rfl⟩ := List.mem_map.mp hcap
  simp only [guardsAccept, Bool.and_eq_true, hid,
    find?_of_keyed hkeyed.payments hpayment, decide_eq_true_eq] at h
  exact h.1

theorem guardsAccept_invoice (hkeyed : db.WellKeyed) {skip : Option Nat}
    (h : guardsAccept db new skip = true) {cap : Nat × Int} (hcap : cap ∈ db.caps.invoices)
    (hid : new.invoiceId = cap.1) :
    guardSum (fun row => row.invoiceId == cap.1) skip db.allocations + new.amount ≤ cap.2 := by
  obtain ⟨invoice, hinvoice, rfl⟩ := List.mem_map.mp hcap
  simp only [guardsAccept, Bool.and_eq_true, hid,
    find?_of_keyed hkeyed.invoices hinvoice, decide_eq_true_eq] at h
  exact h.2

theorem allocated_put_le (hkeyed : Table.Keyed Allocation.id rows)
    (hnonneg : ∀ row ∈ rows, 0 ≤ row.amount) (hnew : new.live = false ∨ side new ≠ id) :
    allocated side id (Table.put Allocation.id new rows) ≤ allocated side id rows := by
  refine Table.total_put_le hkeyed (liveWeight_nonneg hnonneg) (if_neg ?_)
  rcases hnew with h | h <;> simp [h]

theorem allocated_put_fresh (hfresh : ∀ row ∈ rows, row.id ≠ new.id) (hlive : new.live = true)
    (hside : side new = id) :
    allocated side id (Table.put Allocation.id new rows) = allocated side id rows + new.amount := by
  have hnot : new.id ∉ rows.map Allocation.id := fun h => by
    obtain ⟨row, hrow, heq⟩ := List.mem_map.mp h
    exact hfresh row hrow heq
  rw [allocated_eq_total, Table.total_put_fresh hnot, ← allocated_eq_total]
  simp [liveWeight, hlive, hside]

theorem allocated_put_le_guardSum (hkeyed : Table.Keyed Allocation.id rows)
    (hamount : 0 ≤ new.amount) :
    allocated side id (Table.put Allocation.id new rows) ≤
      guardSum (fun row => side row == id) (some new.id) rows + new.amount := by
  rw [allocated_eq_total, Table.total_put hkeyed, guardSum_some]
  have hle : liveWeight side id new ≤ new.amount := by
    unfold liveWeight
    split
    · exact le_refl _
    · exact hamount
  omega

theorem within_update (hsound : db.Sound tick) (hwithin : db.Within) (hamount : 0 ≤ new.amount)
    (hguard : guardsAccept db new (some new.id) = true) :
    (db.apply (.allocation new)).Within := by
  constructor
  · intro cap hcap
    by_cases hid : new.paymentId = cap.1
    · exact (allocated_put_le_guardSum hsound.keyed.allocations hamount).trans
        (guardsAccept_payment hsound.keyed hguard hcap hid)
    · exact (allocated_put_le hsound.keyed.allocations hsound.nonneg (Or.inr hid)).trans
        (hwithin.payments cap hcap)
  · intro cap hcap
    by_cases hid : new.invoiceId = cap.1
    · exact (allocated_put_le_guardSum hsound.keyed.allocations hamount).trans
        (guardsAccept_invoice hsound.keyed hguard hcap hid)
    · exact (allocated_put_le hsound.keyed.allocations hsound.nonneg (Or.inr hid)).trans
        (hwithin.invoices cap hcap)

theorem within_insert (hsound : db.Sound tick) (hwithin : db.Within) (hid : new.id = tick)
    (hlive : new.live = true) (hpayment : ∀ cap ∈ db.caps.payments, new.paymentId = cap.1 →
      allocatedFrom cap.1 db.allocations + new.amount ≤ cap.2)
    (hinvoice : ∀ cap ∈ db.caps.invoices, new.invoiceId = cap.1 →
      allocatedTo cap.1 db.allocations + new.amount ≤ cap.2) :
    (db.apply (.allocation new)).Within := by
  have hfresh : ∀ row ∈ db.allocations, row.id ≠ new.id := fun row hrow =>
    hid ▸ Nat.ne_of_lt (hsound.fresh row hrow)
  constructor
  · intro cap hcap
    by_cases hparent : new.paymentId = cap.1
    · exact (allocated_put_fresh hfresh hlive hparent).le.trans (hpayment cap hcap hparent)
    · exact (allocated_put_le hsound.keyed.allocations hsound.nonneg (Or.inr hparent)).trans
        (hwithin.payments cap hcap)
  · intro cap hcap
    by_cases hparent : new.invoiceId = cap.1
    · exact (allocated_put_fresh hfresh hlive hparent).le.trans (hinvoice cap hcap hparent)
    · exact (allocated_put_le hsound.keyed.allocations hsound.nonneg (Or.inr hparent)).trans
        (hwithin.invoices cap hcap)

theorem guardSum_add_amount (hkeyed : db.WellKeyed) {row : Allocation} (hrow : row ∈ db.allocations)
    (hlive : row.live = true) (side : Allocation → Nat) :
    guardSum (fun x => side x == side row) (some row.id) db.allocations + row.amount =
      allocated side (side row) db.allocations := by
  have hweight : liveWeight side (side row) row = row.amount := by
    simp [liveWeight, hlive]
  have htotal := Table.total_without (w := liveWeight side (side row)) hkeyed.allocations hrow
  rw [hweight] at htotal
  rw [guardSum_some, allocated_eq_total, ← htotal]

theorem guardsAccept_of_within (hsound : db.Sound tick) (hwithin : db.Within) {row : Allocation}
    (hrow : row ∈ db.allocations) (hlive : row.live = true) (deletedAt : Option Nat) :
    guardsAccept db { row with deletedAt } (some row.id) = true := by
  have hsum := guardSum_add_amount hsound.keyed hrow hlive
  unfold guardsAccept
  rw [Bool.and_eq_true]
  constructor
  · cases hfind : db.payments.find? fun x => x.id == row.paymentId with
    | none => rfl
    | some payment =>
      have hid : payment.id = row.paymentId := by simpa using List.find?_some hfind
      have hcap := hwithin.payments (payment.id, payment.amount)
        (List.mem_map.mpr ⟨payment, List.mem_of_find?_eq_some hfind, rfl⟩)
      refine decide_eq_true ?_
      rw [hsum Allocation.paymentId, ← hid]
      exact hcap
  · cases hfind : db.invoices.find? fun x => x.id == row.invoiceId with
    | none => rfl
    | some invoice =>
      have hid : invoice.id = row.invoiceId := by simpa using List.find?_some hfind
      have hcap := hwithin.invoices (invoice.id, invoice.total)
        (List.mem_map.mpr ⟨invoice, List.mem_of_find?_eq_some hfind, rfl⟩)
      refine decide_eq_true ?_
      rw [hsum Allocation.invoiceId, ← hid]
      exact hcap

theorem Db.Sound.applyVersion (h : db.Sound tick) (hid : new.id < tick) (hamount : 0 ≤ new.amount) :
    (db.apply (.allocation new)).Sound tick := by
  refine ⟨h.keyed.apply _, fun row hrow => ?_, fun row hrow => ?_⟩
  · rcases Table.mem_of_mem_put hrow with rfl | hmem
    · exact hid
    · exact h.fresh row hmem
  · rcases Table.mem_of_mem_put hrow with rfl | hmem
    · exact hamount
    · exact h.nonneg row hmem

theorem Db.Sound.applyOther (h : db.Sound tick) {w : Write} (hw : ∀ row, w ≠ .allocation row) :
    (db.apply w).Sound tick := by
  cases w with
  | allocation row => exact absurd rfl (hw row)
  | payment row => exact ⟨h.keyed.apply _, h.fresh, h.nonneg⟩
  | invoice row => exact ⟨h.keyed.apply _, h.fresh, h.nonneg⟩
  | ledger row => exact ⟨h.keyed.apply _, h.fresh, h.nonneg⟩
  | dropLedger id => exact ⟨h.keyed.apply _, h.fresh, h.nonneg⟩

/-- Sound state with every live total within its cap. -/
structure Db.Good (tick : Nat) (db : Db) : Prop where
  sound : db.Sound tick
  within : db.Within

theorem Db.Good.later {tick' : Nat} (h : db.Good tick) (hle : tick ≤ tick') :
    db.Good tick' :=
  ⟨h.sound.later hle, h.within⟩

theorem Db.Good.visible_other (h : db.Good tick) (writes : List Write)
    (hcaps : ∀ w ∈ writes, w.KeepsCaps db.caps)
    (hother : ∀ w ∈ writes, ∀ row, w ≠ .allocation row) :
    (engine.visible db writes).Good tick := by
  have hkept : (engine.visible db writes).Sound tick ∧
      (engine.visible db writes).allocations = db.allocations ∧
        (engine.visible db writes).caps = db.caps := by
    refine Engine.visible_invariant (E := engine)
      (I := fun state => state.Sound tick ∧ state.allocations = db.allocations ∧
        state.caps = db.caps) ?_ ⟨h.sound, rfl, rfl⟩
    rintro state w hw ⟨hsound, hrows, hstate⟩
    refine ⟨hsound.applyOther (hother w hw), ?_,
      (Db.caps_apply hsound.keyed (hstate ▸ hcaps w hw)).trans hstate⟩
    rw [← hrows]
    cases w with
    | allocation row => exact absurd rfl (hother _ hw row)
    | _ => rfl
  obtain ⟨hsound, hrows, hsame⟩ := hkept
  exact ⟨hsound, ⟨by rw [hsame, hrows]; exact h.within.payments,
    by rw [hsame, hrows]; exact h.within.invoices⟩⟩

theorem Db.Good.updateDeletedAt {deletedAt : Option Nat} {writes : List Write} (h : db.Good tick)
    (hrows : ∀ row ∈ rows, row.id < tick ∧ 0 ≤ row.amount)
    (hok : updateDeletedAt deletedAt rows db db = .ok writes) :
    (engine.visible db writes).Good tick := by
  induction rows generalizing db writes with
  | nil =>
    obtain rfl := Except.ok.inj hok
    exact h
  | cons row rows ih =>
    obtain ⟨hid, hamount⟩ := hrows row List.mem_cons_self
    simp only [Billing.updateDeletedAt] at hok
    split at hok
    · cases hok
    · rename_i hguard
      split at hok
      · cases hok
      · split at hok
        · cases hok
        · rename_i rest hrest
          rw [← Except.ok.inj hok, Engine.visible_cons]
          refine ih ⟨h.sound.applyVersion hid hamount, ?_⟩
            (fun row hrow => hrows row (List.mem_cons_of_mem _ hrow)) hrest
          exact within_update h.sound h.within hamount (by simpa using hguard)

def Stmt.InsertsNonneg : Stmt → Prop
  | .insertAllocation _ _ amount => 0 ≤ amount
  | _ => True

theorem good_statementReply (h : db.Good tick) (deletedAt : Option Nat) (p : Allocation → Bool) :
    (engine.visible db
      (statementReply (updateDeletedAt deletedAt (db.allocations.filter p) db db)).2).Good tick := by
  cases hupdate : updateDeletedAt deletedAt (db.allocations.filter p) db db with
  | error e => exact h
  | ok writes =>
    exact h.updateDeletedAt (fun row hrow =>
      ⟨h.sound.fresh row (List.mem_of_mem_filter hrow),
        h.sound.nonneg row (List.mem_of_mem_filter hrow)⟩) hupdate

theorem Db.Good.exec (h : db.Good tick) (stmt : Stmt) (hstmt : stmt.InsertsNonneg) :
    (engine.visible db (stmt.exec tick db db).2).Good (tick + 1) := by
  have hcaps : ∀ w ∈ (stmt.exec tick db db).2, w.KeepsCaps db.caps := fun w hw =>
    (exec_wrote stmt tick db db w hw).keepsCaps
  cases stmt with
  | insertAllocation paymentId invoiceId amount =>
    rcases insertAllocation_writes paymentId invoiceId amount tick db db with
      hwrites | ⟨hwrites, hguard⟩
    · rw [hwrites]
      exact h.later (Nat.le_succ tick)
    · rw [hwrites]
      refine ⟨(h.sound.later (Nat.le_succ tick)).applyVersion (Nat.lt_succ_self tick) hstmt, ?_⟩
      refine within_insert h.sound h.within rfl rfl ?_ ?_
      · intro cap hcap hid
        have hfits := guardsAccept_payment h.sound.keyed hguard hcap hid
        rwa [guardSum_none Allocation.paymentId] at hfits
      · intro cap hcap hid
        have hfits := guardsAccept_invoice h.sound.keyed hguard hcap hid
        rwa [guardSum_none Allocation.invoiceId] at hfits
  | softDeleteAllocation id onlyLive => exact (good_statementReply h _ _).later (Nat.le_succ tick)
  | deleteAllocationsOf paymentId => exact (good_statementReply h _ _).later (Nat.le_succ tick)
  | reviveAllocationsOf paymentId => exact (good_statementReply h _ _).later (Nat.le_succ tick)
  | releaseAllocationsTo invoiceId => exact (good_statementReply h _ _).later (Nat.le_succ tick)
  | _ =>
    refine (h.visible_other _ hcaps ?_).later (Nat.le_succ tick)
    intro w hw row heq
    have hwrote := exec_wrote _ tick db db w hw
    subst heq
    cases hwrote
    all_goals simp_all [Stmt.exec, updates]

end FireIsp.Billing
