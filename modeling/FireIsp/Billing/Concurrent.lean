import FireIsp.Base.Session
import FireIsp.Billing.Terminal

/-!
# Concurrent allocations

Allocation requests interleaved statement by statement.  The guard triggers read without
locking, so an insert is only as safe as what its reads can see: as long as no other open
transaction holds a live allocation of the same payment or invoice, and the snapshot is
not behind on either, every committed state stays within the amounts on record.
-/

namespace FireIsp.Billing

open Txn

/-- The billing tables with all requests on them. -/
abbrev System := Sys Db Write Key Stmt Stmt.Res Effect Effect.Answer Response

/-- Live allocation rows among writes. -/
def liveWrites (writes : List Write) : List Allocation :=
  (allocationWrites writes).filter Allocation.live

/-- Live allocations a session has written and not committed. -/
def pending (sess : Session Db Write Stmt Stmt.Res Effect Effect.Answer Response) :
    List Allocation :=
  match sess.tx with
  | none => []
  | some tx => liveWrites tx.writes

/-- Neither the same payment nor the same invoice. -/
def Allocation.Apart (a b : Allocation) : Prop :=
  a.paymentId ≠ b.paymentId ∧ a.invoiceId ≠ b.invoiceId

/-- The guards of an insert about to run see every live allocation of its two parents. -/
structure SeesAll (s : System) (i : Nat) (via : Via) (paymentId invoiceId : Nat) (amount : Int) :
    Prop where
  nonneg : 0 ≤ amount
  /-- No other open transaction holds a live allocation of the payment or of the invoice. -/
  committed : ∀ j, (j ≠ i ∨ Sys.inside via (s.sessions i).tx = false) →
    ∀ row ∈ pending (s.sessions j), row.paymentId ≠ paymentId ∧ row.invoiceId ≠ invoiceId
  payment_fresh : ∀ tx, via = .conn → (s.sessions i).tx = some tx →
    allocatedFrom paymentId (engine.current s.db tx).allocations ≤
      allocatedFrom paymentId (engine.snapshot s.db tx).allocations
  invoice_fresh : ∀ tx, via = .conn → (s.sessions i).tx = some tx →
    allocatedTo invoiceId (engine.current s.db tx).allocations ≤
      allocatedTo invoiceId (engine.snapshot s.db tx).allocations

/-- If the step runs an insert, its guards see everything. -/
def InsertSees (s : System) : Label Effect.Answer → Prop
  | .abort _ => True
  | .step i _ => ∀ via paymentId invoiceId amount next,
      (s.sessions i).prog = some (.stmt via (.insertAllocation paymentId invoiceId amount) next) →
      Sys.blocked s.held i (Sys.inside via (s.sessions i).tx) [.pair paymentId invoiceId] = false →
      SeesAll s i via paymentId invoiceId amount

/-- `allocate`, `allocate-auto`, `reallocate` or `unapply`. -/
def Operation.Allocates : Operation → Prop
  | .allocate .. => True
  | .allocateAuto .. => True
  | .reallocate .. => True
  | .unapply .. => True
  | _ => False

/-- A consistent database with allocation requests about to start. -/
structure Started (s : System) : Prop where
  good : s.db.Good s.tick
  held : s.held = []
  closed : ∀ i, (s.sessions i).tx = none
  request : ∀ i p, (s.sessions i).prog = some p → ∃ op : Operation, op.Allocates ∧ p = op.request

/-- The statement revives no soft-deleted allocation. -/
def Stmt.RevivesNothing : Stmt → Prop
  | .reviveAllocationsOf _ => False
  | _ => True

section Inventory

theorem uses_selectPayment (paymentId org : Nat) (forUpdate : Bool) :
    (execute (.selectPayment paymentId org forUpdate)).Uses Stmt.RevivesNothing :=
  Prog.Uses.send trivial

theorem Operation.Allocates.uses {op : Operation} (h : op.Allocates) :
    op.request.Uses Stmt.RevivesNothing := by
  cases op with
  | allocate org paymentId invoiceId amount =>
    refine (Prog.Uses.send trivial).bind fun payment => ?_
    cases payment with
    | none => trivial
    | some payment =>
      refine (Prog.Uses.send trivial).bind fun invoice => ?_
      cases invoice with
      | none => trivial
      | some invoice =>
        simp only []
        split
        · trivial
        · exact uses_applyAllocation trivial (fun _ => trivial) trivial trivial
  | allocateAuto org paymentId ids =>
    simp only [Operation.request, Billing.allocateAuto]
    split
    · trivial
    · refine (uses_selectPayment paymentId org true).bind fun payment => ?_
      cases payment with
      | none => exact uses_refuse _
      | some payment =>
        refine (Prog.Uses.send trivial).bind fun allocated => ?_
        split
        · exact uses_refuse _
        · refine (Prog.Uses.send trivial).bind fun rows => ?_
          split
          · exact uses_refuse _
          · exact uses_distribute (fun _ _ _ _ => trivial) (fun _ _ => trivial)
              fun _ _ => trivial
  | reallocate org paymentId fromId toId amount =>
    simp only [Operation.request, Billing.reallocate]
    split
    · trivial
    · refine (uses_selectPayment paymentId org false).bind fun payment => ?_
      cases payment with
      | none => exact uses_refuse _
      | some payment =>
        refine (Prog.Uses.send trivial).bind fun existing => ?_
        cases existing with
        | none => exact uses_refuse _
        | some existing =>
          refine (Prog.Uses.send trivial).bind fun rows => ?_
          split
          · exact uses_refuse _
          · exact uses_refuse _
          · split
            · exact uses_refuse _
            · split
              · exact uses_refuse _
              · split
                · exact uses_refuse _
                · exact uses_replaceAllocation trivial trivial (fun _ => trivial)
                    (fun _ _ => trivial) (fun _ _ => trivial) fun _ _ => trivial
  | unapply org paymentId invoiceId =>
    refine (uses_selectPayment paymentId org false).bind fun payment => ?_
    cases payment with
    | none => exact uses_refuse _
    | some payment =>
      refine (Prog.Uses.send trivial).bind fun row => ?_
      cases row with
      | none => exact uses_refuse _
      | some row => exact uses_removeAllocation trivial trivial trivial trivial
  | _ => exact h.elim

end Inventory

/-- Allocation versions carry ids already handed out and no negative amount. -/
def Write.Versions (tick : Nat) (w : Write) : Prop :=
  ∀ row, w = .allocation row → row.id < tick ∧ 0 ≤ row.amount

section Stacking

variable {tick : Nat} {db : Db} {first second : List Write}

theorem Db.Sound.visible (h : db.Sound tick) (hfirst : ∀ w ∈ first, w.Versions tick) :
    (engine.visible db first).Sound tick := by
  refine Engine.visible_invariant (E := engine) (fun state w hw hstate => ?_) h
  by_cases hallocation : ∃ row, w = .allocation row
  · obtain ⟨row, rfl⟩ := hallocation
    obtain ⟨hid, hamount⟩ := hfirst _ hw row rfl
    exact hstate.applyVersion hid hamount
  · exact hstate.applyOther fun row heq => hallocation ⟨row, heq⟩

theorem mem_liveWrites {row : Allocation} {writes : List Write} :
    row ∈ liveWrites writes ↔ Write.allocation row ∈ writes ∧ row.live = true := by
  rw [liveWrites, List.mem_filter, mem_allocationWrites]

theorem weightless_of_no_live {side : Allocation → Nat} {id : Nat} {writes : List Write}
    (h : ∀ row ∈ liveWrites writes, side row ≠ id) :
    ∀ row ∈ allocationWrites writes, liveWeight side id row = 0 := by
  intro row hrow
  refine if_neg fun hmatch => ?_
  simp only [Bool.and_eq_true, beq_iff_eq] at hmatch
  exact h row (List.mem_filter.mpr ⟨hrow, hmatch.1⟩) hmatch.2

theorem allocated_stack_le {side : Allocation → Nat} {id : Nat} {bound : Int}
    (hdb : db.Sound tick) (hversions : ∀ w ∈ first, w.Versions tick)
    (hfirst : allocated side id (engine.visible db first).allocations ≤ bound)
    (hsecond : allocated side id (engine.visible db second).allocations ≤ bound)
    (happart : (∀ row ∈ liveWrites first, side row ≠ id) ∨
      ∀ row ∈ liveWrites second, side row ≠ id) :
    allocated side id (engine.visible (engine.visible db first) second).allocations ≤ bound := by
  rcases happart with hnone | hnone
  · refine le_trans ?_ hsecond
    rw [visible_allocations, visible_allocations, visible_allocations]
    exact Table.total_putAll_le hdb.keyed.allocations (liveWeight_nonneg hdb.nonneg)
      (weightless_of_no_live hnone)
  · refine le_trans ?_ hfirst
    have hsound := hdb.visible hversions
    rw [visible_allocations (engine.visible db first) second]
    exact Table.total_putAll_le_of_weightless hsound.keyed.allocations
      (liveWeight_nonneg hsound.nonneg) (weightless_of_no_live hnone)

theorem Db.Good.stack (hdb : db.Sound tick) (hfirst : (engine.visible db first).Good tick)
    (hsecond : (engine.visible db second).Good tick)
    (hfirstCaps : ∀ w ∈ first, w.KeepsCaps db.caps)
    (hsecondCaps : ∀ w ∈ second, w.KeepsCaps db.caps)
    (hfirstVersions : ∀ w ∈ first, w.Versions tick)
    (hsecondVersions : ∀ w ∈ second, w.Versions tick)
    (happart : ∀ a ∈ liveWrites first, ∀ b ∈ liveWrites second, a.Apart b) :
    (engine.visible (engine.visible db first) second).Good tick := by
  obtain ⟨hkeyed₁, hcaps₁⟩ := visible_caps hdb.keyed hfirstCaps
  obtain ⟨-, hcaps₂⟩ := visible_caps hdb.keyed hsecondCaps
  obtain ⟨-, hcaps⟩ := visible_caps hkeyed₁ (hcaps₁.symm ▸ hsecondCaps)
  refine ⟨(hdb.visible hfirstVersions).visible hsecondVersions, ?_, ?_⟩
  · intro cap hcap
    rw [hcaps, hcaps₁] at hcap
    refine allocated_stack_le hdb hfirstVersions
      (hfirst.within.payments cap (hcaps₁.symm ▸ hcap))
      (hsecond.within.payments cap (hcaps₂.symm ▸ hcap)) ?_
    by_contra hboth
    push Not at hboth
    obtain ⟨⟨a, ha, hfrom⟩, b, hb, hfrom'⟩ := hboth
    exact (happart a ha b hb).1 (hfrom.trans hfrom'.symm)
  · intro cap hcap
    rw [hcaps, hcaps₁] at hcap
    refine allocated_stack_le hdb hfirstVersions
      (hfirst.within.invoices cap (hcaps₁.symm ▸ hcap))
      (hsecond.within.invoices cap (hcaps₂.symm ▸ hcap)) ?_
    by_contra hboth
    push Not at hboth
    obtain ⟨⟨a, ha, hto⟩, b, hb, hto'⟩ := hboth
    exact (happart a ha b hb).2 (hto.trans hto'.symm)

theorem Db.Good.visible_dead (h : db.Good tick) (hcaps : ∀ w ∈ first, w.KeepsCaps db.caps)
    (hversions : ∀ w ∈ first, w.Versions tick) (hdead : liveWrites first = []) :
    (engine.visible db first).Good tick := by
  have hsound := h.sound.visible hversions
  obtain ⟨-, hsame⟩ := visible_caps h.sound.keyed hcaps
  have hnone : ∀ (side : Allocation → Nat) (id : Nat), ∀ row ∈ liveWrites first, side row ≠ id :=
    fun side id row hrow => by
      rw [hdead] at hrow
      cases hrow
  have hle : ∀ (side : Allocation → Nat) (id : Nat),
      allocated side id (engine.visible db first).allocations ≤ allocated side id db.allocations :=
    fun side id => by
      rw [visible_allocations]
      exact Table.total_putAll_le_of_weightless h.sound.keyed.allocations
        (liveWeight_nonneg h.sound.nonneg) (weightless_of_no_live (hnone side id))
  refine ⟨hsound, fun cap hcap => ?_, fun cap hcap => ?_⟩
  · rw [hsame] at hcap
    exact (hle _ _).trans (h.within.payments cap hcap)
  · rw [hsame] at hcap
    exact (hle _ _).trans (h.within.invoices cap hcap)

end Stacking

section Statements

variable {stmt : Stmt} {tick : Nat} {current view : Db}

theorem Wrote.versions {w : Write} (h : Wrote stmt tick current view w)
    (hcurrent : current.Sound tick) (hstmt : stmt.InsertsNonneg) : w.Versions (tick + 1) := by
  intro row heq
  subst heq
  cases h with
  | inserted paymentId invoiceId amount hinsert =>
    subst hinsert
    exact ⟨Nat.lt_succ_self tick, hstmt⟩
  | deleted old hold => exact ⟨Nat.lt_succ_of_lt (hcurrent.fresh old hold), hcurrent.nonneg old hold⟩
  | revived old hold => exact ⟨Nat.lt_succ_of_lt (hcurrent.fresh old hold), hcurrent.nonneg old hold⟩

theorem Wrote.live_row {row : Allocation} (h : Wrote stmt tick current view (.allocation row))
    (hstmt : stmt.RevivesNothing) (hlive : row.live = true) :
    stmt = .insertAllocation row.paymentId row.invoiceId row.amount := by
  cases h with
  | inserted paymentId invoiceId amount hinsert => exact hinsert
  | deleted old hold => cases hlive
  | revived old hold hdead hrevive =>
    subst hrevive
    exact hstmt.elim

theorem liveWrites_of_not_insert (hstmt : stmt.RevivesNothing)
    (hinsert : ∀ paymentId invoiceId amount, stmt ≠ .insertAllocation paymentId invoiceId amount) :
    liveWrites (stmt.exec tick current view).2 = [] := by
  rw [List.eq_nil_iff_forall_not_mem]
  intro row hrow
  obtain ⟨hmem, hlive⟩ := mem_liveWrites.mp hrow
  exact hinsert _ _ _ ((exec_wrote stmt tick current view _ hmem).live_row hstmt hlive)

end Statements

/-- An open transaction whose commit keeps the amounts on record respected. -/
structure OpenOk (caps : Caps) (tick : Nat) (db : Db) (tx : Tx Db Write) : Prop where
  keeps : ∀ w ∈ tx.writes, w.KeepsCaps caps
  versions : ∀ w ∈ tx.writes, w.Versions tick
  view : ∀ view, tx.view = some view → view.WellKeyed ∧ view.caps = caps
  good : (engine.visible db tx.writes).Good tick

/-- What every reachable state of guarded allocation requests satisfies. -/
structure Consistent (caps : Caps) (s : System) : Prop where
  caps_eq : s.db.caps = caps
  good : s.db.Good s.tick
  opened : ∀ i tx, (s.sessions i).tx = some tx → OpenOk caps s.tick s.db tx
  /-- No two open transactions hold live rows of one payment or invoice. -/
  apart : ∀ i j, i ≠ j → ∀ a ∈ pending (s.sessions i), ∀ b ∈ pending (s.sessions j), a.Apart b
  sends : ∀ i, Sys.Sends Stmt.RevivesNothing (s.sessions i)

theorem Write.Versions.later {tick tick' : Nat} {w : Write} (h : w.Versions tick)
    (hle : tick ≤ tick') : w.Versions tick' := fun row heq =>
  ⟨lt_of_lt_of_le (h row heq).1 hle, (h row heq).2⟩

theorem Allocation.Apart.symm {a b : Allocation} (h : a.Apart b) : b.Apart a :=
  ⟨Ne.symm h.1, Ne.symm h.2⟩

section Steps

variable {caps : Caps} {s : System}

variable {tx : Tx Db Write}

theorem OpenOk.commit {tick tick' : Nat} {db : Db} (h : OpenOk caps tick db tx) (hle : tick ≤ tick')
    (hdb : db.Sound tick) (hcaps : db.caps = caps) {writes : List Write}
    (hgood : (engine.visible db writes).Good tick') (hkeeps : ∀ w ∈ writes, w.KeepsCaps caps)
    (hversions : ∀ w ∈ writes, w.Versions tick')
    (happart : ∀ a ∈ liveWrites writes, ∀ b ∈ liveWrites tx.writes, a.Apart b) :
    OpenOk caps tick' (engine.visible db writes) tx := by
  have hold : ∀ w ∈ tx.writes, w.Versions tick' := fun w hw => (h.versions w hw).later hle
  refine ⟨h.keeps, hold, h.view, ?_⟩
  exact Db.Good.stack (hdb.later hle) hgood (h.good.later hle) (hcaps ▸ hkeeps) (hcaps ▸ h.keeps)
    hversions hold happart

theorem OpenOk.later {tick tick' : Nat} {db : Db} (h : OpenOk caps tick db tx)
    (hle : tick ≤ tick') : OpenOk caps tick' db tx :=
  ⟨h.keeps, fun w hw => (h.versions w hw).later hle, h.view, h.good.later hle⟩

theorem OpenOk.empty {tick : Nat} {db : Db} (h : db.Good tick) : OpenOk caps tick db Tx.empty :=
  ⟨nofun, nofun, nofun, h⟩

variable {i : Nat} {sess : Session Db Write Stmt Stmt.Res Effect Effect.Answer Response}
  {s' : System}

theorem Consistent.move (h : Consistent caps s) {writes : List Write}
    (hgood : (engine.visible s.db writes).Good (s.tick + 1))
    (hkeeps : ∀ w ∈ writes, w.KeepsCaps caps) (hversions : ∀ w ∈ writes, w.Versions (s.tick + 1))
    (happart : ∀ j, j ≠ i → ∀ a ∈ liveWrites writes, ∀ b ∈ pending (s.sessions j), a.Apart b)
    (hopen : ∀ tx, sess.tx = some tx → OpenOk caps (s.tick + 1) (engine.visible s.db writes) tx)
    (hpending : ∀ j, j ≠ i → ∀ a ∈ pending sess, ∀ b ∈ pending (s.sessions j), a.Apart b)
    (hsends : Sys.Sends Stmt.RevivesNothing sess) (hdb : s'.db = engine.visible s.db writes)
    (hsessions : s'.sessions = Function.update s.sessions i sess) (htick : s'.tick = s.tick + 1) :
    Consistent caps s' := by
  have hself : s'.sessions i = sess := by rw [hsessions, Function.update_self]
  have hother : ∀ j, j ≠ i → s'.sessions j = s.sessions j := fun j hj => by
    rw [hsessions, Function.update_of_ne hj]
  refine ⟨?_, ?_, ?_, ?_, ?_⟩
  · rw [hdb]
    exact (visible_caps h.good.sound.keyed (h.caps_eq.symm ▸ hkeeps)).2.trans h.caps_eq
  · rw [hdb, htick]
    exact hgood
  · intro j tx htx
    rw [hdb, htick]
    by_cases hj : j = i
    · subst hj
      rw [hself] at htx
      exact hopen tx htx
    · rw [hother j hj] at htx
      refine (h.opened j tx htx).commit (Nat.le_succ _) h.good.sound h.caps_eq hgood hkeeps
        hversions fun a ha b hb => happart j hj a ha b ?_
      rw [pending, htx]
      exact hb
  · intro j k hjk a ha b hb
    by_cases hj : j = i
    · subst hj
      rw [hself] at ha
      rw [hother k hjk.symm] at hb
      exact hpending k hjk.symm a ha b hb
    · rw [hother j hj] at ha
      by_cases hk : k = i
      · subst hk
        rw [hself] at hb
        exact (hpending j hj b hb a ha).symm
      · rw [hother k hk] at hb
        exact h.apart j k hjk a ha b hb
  · intro j
    by_cases hj : j = i
    · subst hj
      rw [hself]
      exact hsends
    · rw [hother j hj]
      exact h.sends j

theorem Consistent.still (h : Consistent caps s)
    (hopen : ∀ tx, sess.tx = some tx → OpenOk caps (s.tick + 1) s.db tx)
    (hpending : ∀ j, j ≠ i → ∀ a ∈ pending sess, ∀ b ∈ pending (s.sessions j), a.Apart b)
    (hsends : Sys.Sends Stmt.RevivesNothing sess) (hdb : s'.db = s.db)
    (hsessions : s'.sessions = Function.update s.sessions i sess) (htick : s'.tick = s.tick + 1) :
    Consistent caps s' :=
  have hgood : (engine.visible s.db []).Good (s.tick + 1) := h.good.later (Nat.le_succ _)
  h.move hgood nofun nofun (fun _ _ _ ha => by cases ha) hopen hpending hsends hdb hsessions htick

theorem Consistent.settle (h : Consistent caps s) (htx : sess.tx = none ∨ sess.tx = some Tx.empty)
    (hsends : Sys.Sends Stmt.RevivesNothing sess)
    (hdb : s'.db = engine.settled s.db (s.sessions i).tx)
    (hsessions : s'.sessions = Function.update s.sessions i sess) (htick : s'.tick = s.tick + 1) :
    Consistent caps s' := by
  have hpending : pending sess = [] := by
    unfold pending
    rcases htx with htx | htx
    · rw [htx]
    · rw [htx]
      rfl
  have hopen : ∀ {db : Db}, db.Good (s.tick + 1) → ∀ tx, sess.tx = some tx →
      OpenOk caps (s.tick + 1) db tx := fun hdb tx hsome => by
    rcases htx with htx | htx
    · rw [htx] at hsome
      cases hsome
    · rw [htx] at hsome
      cases hsome
      exact OpenOk.empty hdb
  cases hold : (s.sessions i).tx with
  | none =>
    rw [hold] at hdb
    exact h.still (hopen (h.good.later (Nat.le_succ _)))
      (fun _ _ a ha => by rw [hpending] at ha; cases ha) hsends hdb hsessions htick
  | some tx =>
    rw [hold] at hdb
    have hok := (h.opened i tx hold).later (Nat.le_succ s.tick)
    refine h.move hok.good hok.keeps hok.versions (fun j hj a ha b hb => ?_) (hopen hok.good)
      (fun j hj a ha => by rw [hpending] at ha; cases ha) hsends hdb hsessions htick
    refine h.apart i j hj.symm a ?_ b hb
    rw [pending, hold]
    exact ha

theorem Consistent.auto (h : Consistent caps s) {via : Via} {stmt : Stmt}
    {next : stmt.Res → Request Response} (hprog : (s.sessions i).prog = some (.stmt via stmt next))
    (hin : Sys.inside via (s.sessions i).tx = false)
    (hsees : ∀ paymentId invoiceId amount, stmt = .insertAllocation paymentId invoiceId amount →
      SeesAll s i via paymentId invoiceId amount)
    (hdb : s'.db = engine.visible s.db (stmt.exec s.tick s.db s.db).2)
    (hsessions : s'.sessions = Function.update s.sessions i
      ⟨some (next (stmt.exec s.tick s.db s.db).1), (s.sessions i).tx⟩)
    (htick : s'.tick = s.tick + 1) : Consistent caps s' := by
  obtain ⟨hallowed, hnext⟩ := h.sends i _ hprog
  have hnonneg : stmt.InsertsNonneg := by
    cases stmt with
    | insertAllocation paymentId invoiceId amount => exact (hsees _ _ _ rfl).nonneg
    | _ => trivial
  have hwrote := exec_wrote stmt s.tick s.db s.db
  have hkeeps : ∀ w ∈ (stmt.exec s.tick s.db s.db).2, w.KeepsCaps caps := fun w hw =>
    h.caps_eq ▸ (hwrote w hw).keepsCaps
  have hversions : ∀ w ∈ (stmt.exec s.tick s.db s.db).2, w.Versions (s.tick + 1) := fun w hw =>
    (hwrote w hw).versions h.good.sound hnonneg
  have hgood := h.good.exec stmt hnonneg
  -- a pooled insert is checked against every open transaction, its own session's included
  have happart : ∀ j, ∀ a ∈ liveWrites (stmt.exec s.tick s.db s.db).2,
      ∀ b ∈ pending (s.sessions j), a.Apart b := by
    intro j a ha b hb
    obtain ⟨hmem, hlive⟩ := mem_liveWrites.mp ha
    have hinsert := (hwrote _ hmem).live_row hallowed hlive
    have hcommitted := (hsees _ _ _ hinsert).committed j (Or.inr hin) b hb
    exact ⟨Ne.symm hcommitted.1, Ne.symm hcommitted.2⟩
  refine h.move hgood hkeeps hversions (fun j _ => happart j) ?_ ?_ ?_ hdb hsessions htick
  · intro tx htx
    refine (h.opened i tx htx).commit (Nat.le_succ _) h.good.sound h.caps_eq hgood hkeeps
      hversions fun a ha b hb => happart i a ha b ?_
    rw [pending, htx]
    exact hb
  · exact fun j hj a ha => h.apart i j hj.symm a ha
  · intro p hp
    cases hp
    exact hnext _

theorem Db.Good.insert {tick : Nat} {current view : Db} (h : current.Good tick)
    (hview : view.WellKeyed) (hcaps : current.caps = view.caps) {paymentId invoiceId : Nat}
    {amount : Int} (hamount : 0 ≤ amount)
    (hguard : guardsAccept view ⟨tick, paymentId, invoiceId, amount, none⟩ none = true)
    (hpayment : allocatedFrom paymentId current.allocations ≤
      allocatedFrom paymentId view.allocations)
    (hinvoice : allocatedTo invoiceId current.allocations ≤
      allocatedTo invoiceId view.allocations) :
    (current.apply (.allocation ⟨tick, paymentId, invoiceId, amount, none⟩)).Good (tick + 1) := by
  refine ⟨(h.sound.later (Nat.le_succ tick)).applyVersion (Nat.lt_succ_self tick) hamount, ?_⟩
  refine within_insert h.sound h.within rfl rfl ?_ ?_
  · intro cap hcap hid
    have hfits := guardsAccept_payment hview hguard (hcaps ▸ hcap) hid
    rw [guardSum_none Allocation.paymentId] at hfits
    have hid' : paymentId = cap.1 := hid
    rw [hid'] at hpayment
    exact (Int.add_le_add_right hpayment amount).trans hfits
  · intro cap hcap hid
    have hfits := guardsAccept_invoice hview hguard (hcaps ▸ hcap) hid
    rw [guardSum_none Allocation.invoiceId] at hfits
    have hid' : invoiceId = cap.1 := hid
    rw [hid'] at hinvoice
    exact (Int.add_le_add_right hinvoice amount).trans hfits

theorem Consistent.within (h : Consistent caps s) {stmt : Stmt} {next : stmt.Res → Request Response}
    (hprog : (s.sessions i).prog = some (.stmt .conn stmt next)) (htx : (s.sessions i).tx = some tx)
    (hsees : ∀ paymentId invoiceId amount, stmt = .insertAllocation paymentId invoiceId amount →
      SeesAll s i .conn paymentId invoiceId amount) (hdb : s'.db = s.db)
    (hsessions : s'.sessions = Function.update s.sessions i
      ⟨some (next (stmt.exec s.tick (engine.current s.db tx) (engine.snapshot s.db tx)).1),
        some { engine.fix stmt s.db tx with
          writes := tx.writes ++
            (stmt.exec s.tick (engine.current s.db tx) (engine.snapshot s.db tx)).2 }⟩)
    (htick : s'.tick = s.tick + 1) : Consistent caps s' := by
  obtain ⟨hallowed, hnext⟩ := h.sends i _ hprog
  have hok := h.opened i tx htx
  have hfixed : ∀ view, tx.view.getD s.db = view → view.WellKeyed ∧ view.caps = caps := by
    rintro view rfl
    cases hview : tx.view with
    | none => exact ⟨h.good.sound.keyed, h.caps_eq⟩
    | some view => exact hok.view view hview
  obtain ⟨hviewKeyed, hviewCaps⟩ := hfixed _ rfl
  set current := engine.current s.db tx with hcurrent
  set view := engine.snapshot s.db tx with hview
  have hcurrentGood : current.Good s.tick := hok.good
  have hcurrentCaps : current.caps = caps :=
    (visible_caps h.good.sound.keyed (h.caps_eq.symm ▸ hok.keeps)).2.trans h.caps_eq
  obtain ⟨hkeyed, hcaps⟩ := visible_caps hviewKeyed (hviewCaps.symm ▸ hok.keeps)
  have hnonneg : stmt.InsertsNonneg := by
    cases stmt with
    | insertAllocation paymentId invoiceId amount => exact (hsees _ _ _ rfl).nonneg
    | _ => trivial
  have hwrote := exec_wrote stmt s.tick current view
  set writes := (stmt.exec s.tick current view).2 with hwrites
  have hkeeps : ∀ w ∈ writes, w.KeepsCaps caps := fun w hw =>
    hcurrentCaps ▸ (hwrote w hw).keepsCaps
  have hversions : ∀ w ∈ writes, w.Versions (s.tick + 1) := fun w hw =>
    (hwrote w hw).versions hcurrentGood.sound hnonneg
  have hgood : (engine.visible current writes).Good (s.tick + 1) := by
    by_cases hinsert : ∃ paymentId invoiceId amount,
        stmt = .insertAllocation paymentId invoiceId amount
    · obtain ⟨paymentId, invoiceId, amount, rfl⟩ := hinsert
      have hseen := hsees _ _ _ rfl
      rcases insertAllocation_writes paymentId invoiceId amount s.tick current view with
        hnone | ⟨hone, hguard⟩
      · rw [hwrites, hnone]
        exact hcurrentGood.later (Nat.le_succ _)
      · rw [hwrites, hone]
        exact hcurrentGood.insert hkeyed (hcurrentCaps.trans (hcaps.trans hviewCaps).symm)
          hseen.nonneg hguard (hseen.payment_fresh tx rfl htx) (hseen.invoice_fresh tx rfl htx)
    · refine (hcurrentGood.later (Nat.le_succ _)).visible_dead (hcurrentCaps.symm ▸ hkeeps)
        hversions (liveWrites_of_not_insert hallowed fun paymentId invoiceId amount heq => ?_)
      exact hinsert ⟨paymentId, invoiceId, amount, heq⟩
  have hmem : ∀ w, w ∈ tx.writes ++ writes → w ∈ tx.writes ∨ w ∈ writes := fun w =>
    List.mem_append.mp
  refine h.still ?_ ?_ ?_ hdb hsessions htick
  · intro tx' htx'
    cases htx'
    refine ⟨fun w hw => ?_, fun w hw => ?_, fun view' hview' => ?_, ?_⟩
    · exact (hmem w hw).elim (hok.keeps w) (hkeeps w)
    · exact (hmem w hw).elim (fun hold => (hok.versions w hold).later (Nat.le_succ _)) (hversions w)
    · simp only [Engine.fix] at hview'
      split at hview'
      · exact hfixed view' (Option.some.inj hview')
      · exact hok.view view' hview'
    · change (engine.visible s.db (tx.writes ++ writes)).Good (s.tick + 1)
      rw [Engine.visible_append]
      exact hgood
  · intro j hj a ha b hb
    obtain ⟨hwritten, hlive⟩ := mem_liveWrites.mp ha
    rcases hmem _ hwritten with hold | hnew
    · refine h.apart i j hj.symm a ?_ b hb
      rw [pending, htx]
      exact mem_liveWrites.mpr ⟨hold, hlive⟩
    · have hinsert := (hwrote _ hnew).live_row hallowed hlive
      have hcommitted := (hsees _ _ _ hinsert).committed j (Or.inl hj) b hb
      exact ⟨Ne.symm hcommitted.1, Ne.symm hcommitted.2⟩
  · intro p hp
    cases hp
    exact hnext _

theorem Consistent.step (h : Consistent caps s) (l : Label Effect.Answer) (hl : InsertSees s l) :
    Consistent caps (s.step engine l) := by
  cases l with
  | abort i =>
    have hclosed : ∀ tx, (⟨none, none⟩ : Session Db Write Stmt Stmt.Res Effect Effect.Answer
        Response).tx = some tx → OpenOk caps (s.tick + 1) s.db tx := nofun
    exact h.still hclosed (fun _ _ _ ha => by cases ha) nofun rfl rfl rfl
  | step i answer =>
    obtain ⟨sess, hmove, hsessions, htick⟩ := Sys.step_move (E := engine) s (.step i answer)
    have hsends := hmove.sends (h.sends i)
    have hopened : ∀ tx, (s.sessions i).tx = some tx → OpenOk caps (s.tick + 1) s.db tx :=
      fun tx htx => (h.opened i tx htx).later (Nat.le_succ _)
    have hapart : ∀ j, j ≠ i → ∀ a ∈ pending (s.sessions i), ∀ b ∈ pending (s.sessions j),
        a.Apart b := fun j hj => h.apart i j hj.symm
    simp only [Label.session] at hmove hsessions hsends
    generalize hdb : (s.step engine (.step i answer)).db = db' at hmove
    generalize (s.step engine (.step i answer)).held = held' at hmove
    generalize hold : s.sessions i = old at hmove hopened hapart
    cases hmove with
    | idle => exact h.still hopened hapart hsends hdb hsessions htick
    | abort =>
      exact h.still (fun _ htx => by cases htx) (fun _ _ _ ha => by cases ha) hsends hdb
        hsessions htick
    | start next tx =>
      exact h.settle (Or.inr rfl) hsends (by rw [hdb, hold]) hsessions htick
    | commit next tx =>
      exact h.settle (Or.inl rfl) hsends (by rw [hdb, hold]) hsessions htick
    | rollback next tx =>
      exact h.still (fun _ htx => by cases htx) (fun _ _ _ ha => by cases ha) hsends hdb
        hsessions htick
    | auto via op next tx hin hfree =>
      have hprog : (s.sessions i).prog = some (.stmt via op next) := by rw [hold]
      have htx : (s.sessions i).tx = tx := by rw [hold]
      refine h.auto hprog (htx ▸ hin) (fun paymentId invoiceId amount heq => ?_) hdb
        (htx ▸ hsessions) htick
      subst heq
      exact hl via paymentId invoiceId amount next hprog (by rw [htx, hin]; exact hfree)
    | within op next tx hfree =>
      have hprog : (s.sessions i).prog = some (.stmt .conn op next) := by rw [hold]
      have htx : (s.sessions i).tx = some tx := by rw [hold]
      rw [Engine.snapshot_fix] at hsessions
      refine h.within hprog htx (fun paymentId invoiceId amount heq => ?_) hdb hsessions htick
      subst heq
      exact hl .conn paymentId invoiceId amount next hprog (by rw [htx]; exact hfree)
    | call query next tx answer =>
      refine h.still ?_ ?_ hsends hdb hsessions htick
      · exact hopened
      · exact hapart

end Steps

theorem Started.consistent {s : System} (h : Started s) : Consistent s.db.caps s := by
  have hnone : ∀ i, pending (s.sessions i) = [] := fun i => by rw [pending, h.closed i]
  refine ⟨rfl, h.good, fun i tx htx => ?_, fun i j _ a ha => ?_, fun i p hp => ?_⟩
  · rw [h.closed i] at htx
    cases htx
  · rw [hnone i] at ha
    cases ha
  · obtain ⟨op, hop, rfl⟩ := h.request i p hp
    exact hop.uses

/-- As long as guards see all live allocations, every committed state keeps the amounts on record. -/
theorem no_over_allocation {s : System} (hstart : Started s) {labels : List (Label Effect.Answer)}
    (hrun : Transition.Along (Sys.step engine) InsertSees s labels) :
    (Transition.run (Sys.step engine) s labels).db.Within :=
  (Transition.run_invariant (I := Consistent s.db.caps) (fun _ l h hl => h.step l hl)
    hstart.consistent hrun).good.within

/-- One payment of 100.00, half of it on the first of three invoices. -/
def racingBooks : Books where
  tick := 10
  db := {
    payments := [⟨1, 1, 1, 10000, "MXN", none, none⟩]
    invoices := [⟨1, 1, 1, none, "A-1", 1, 10000, .issued, none, none⟩,
      ⟨2, 1, 1, none, "A-2", 2, 10000, .issued, none, none⟩,
      ⟨3, 1, 1, none, "A-3", 3, 10000, .issued, none, none⟩]
    allocations := [⟨1, 1, 1, 5000, none⟩]
    ledger := []
    cfdis := [] }

/-- A reallocation of the payment in session 0 and an allocation of it in session 1. -/
def racingSystem : System where
  db := racingBooks.db
  tick := racingBooks.tick
  held := []
  sessions := fun i =>
    if i = 0 then ⟨some (reallocate 1 1 1 2 (some 10000)), none⟩
    else if i = 1 then ⟨some (allocate 1 1 3 5000), none⟩
    else ⟨none, none⟩
  calls := []

/-- One step of a session in a world where nothing happens. -/
def quietStep (i : Nat) : Label Effect.Answer := .step i (quietWorld 0)

theorem racingSystem_started : Started racingSystem := by
  refine ⟨⟨⟨⟨by decide, by decide, by decide⟩, by decide, by decide⟩, ⟨by decide, by decide⟩⟩, rfl,
    fun i => ?_, fun i p hp => ?_⟩
  · simp only [racingSystem]
    split
    · rfl
    · split <;> rfl
  · simp only [racingSystem] at hp
    split at hp
    · exact ⟨.reallocate 1 1 1 2 (some 10000), trivial, (Option.some.inj hp).symm⟩
    · split at hp
      · exact ⟨.allocate 1 1 3 5000, trivial, (Option.some.inj hp).symm⟩
      · cases hp

theorem sessions_step_other (s : System) {i j : Nat} (hj : j ≠ i) :
    (s.step engine (quietStep i)).sessions j = s.sessions j := by
  obtain ⟨sess, -, hsessions, -⟩ := Sys.step_move (E := engine) s (quietStep i)
  rw [hsessions]
  exact Function.update_of_ne hj _ _

/-- The allocation alone, with the reallocation not yet begun, is safe. -/
theorem no_over_allocation_sample :
    (Transition.run (Sys.step engine) racingSystem
      [quietStep 1, quietStep 1, quietStep 1]).db.Within := by
  refine no_over_allocation racingSystem_started ⟨?_, ?_, ?_, trivial⟩
  · intro via paymentId invoiceId amount next hprog
    cases hprog
  · intro via paymentId invoiceId amount next hprog
    cases hprog
  · intro via paymentId invoiceId amount next hprog hfree
    cases hprog
    refine ⟨by decide, fun j _ row hrow => ?_, nofun, nofun⟩
    by_cases hj : j = 1
    · subst hj
      cases hrow
    · rw [sessions_step_other _ hj, sessions_step_other _ hj, pending,
        racingSystem_started.closed j] at hrow
      cases hrow

/-- A slipped-in allocation takes 150.00 out of a payment of 100.00. -/
theorem concurrent_over_allocation :
    Started racingSystem ∧ ¬(Transition.run (Sys.step engine) racingSystem
      ([0, 0, 0, 0, 0, 0, 1, 1, 1, 0].map quietStep)).db.Within := by
  refine ⟨racingSystem_started, fun h => ?_⟩
  have hpayment := h.payments (1, 10000) (by decide)
  exact absurd hpayment (by decide)

end FireIsp.Billing
