import FireIsp.Lifecycle.Unique

/-!
# Orders settle

The invariant of calls on one order: who knows the order as it is holds its row, and what has become
of the order is what could become of it since the calls began.
-/

namespace FireIsp.Lifecycle

open Txn

/-- What a transaction has written of the order before it moves it. -/
def Progress.applied : Progress → Outcome → Outcome
  | .untouched, s => s
  | .created _, s => { s with contracts := s.contracts + 1 }
  | .invoiced, s => { s with invoices := s.invoices + 1 }

/-- The outcome once writes are committed. -/
def movedBy (o : Nat) (writes : List Write) (s : Outcome) : Outcome :=
  writes.foldl (fun s w => w.moves o s) s

/-- A transaction has written what its call knows. -/
def Know.Fits (o : Nat) (s : Outcome) (writes : List Write) : Know → Prop
  | .idle => False
  | .begun => ∀ s, movedBy o writes s = s
  | .held status contractId progress =>
    s.status = status ∧ s.contractId = contractId ∧ movedBy o writes s = progress.applied s
  | .closed => Advance s (movedBy o writes s)

/-- What a call knows is true. -/
structure Sound (o i : Nat) (s : Outcome) (held : List (Nat × Key)) (ghost : Ghost Db Write Know) :
    Prop where
  fits : ∀ tx know, ghost.tx = some tx → ghost.know = some know → know.Fits o s tx.writes
  idle : ghost.tx = none → ∀ know, ghost.know = some know → know = .idle
  lock : ∀ know, ghost.know = some know → know.holds = true → (i, Key.order o) ∈ held

/-- The order settles, and every call knows it as it is. -/
structure Inv (o : Nat) (base : Outcome) (db : Db) (held : List (Nat × Key))
    (ghosts : Nat → Ghost Db Write Know) : Prop where
  exclusive : Sys.Exclusive held
  settles : ∃ s, db.outcome o = some s ∧ Settles base s ∧ ∀ i, Sound o i s held (ghosts i)

variable {o i j : Nat} {s s' base : Outcome} {held held' : List (Nat × Key)} {know know' : Know}
  {ghost ghost' : Ghost Db Write Know} {ghosts : Nat → Ghost Db Write Know} {db db' : Db}
  {tx : Option (Tx Db Write)} {writes : List Write}

theorem Know.Fits.free (h : know.Fits o s writes) (hholds : know.holds = false) (s' : Outcome) :
    know.Fits o s' writes := by
  cases know with
  | idle => exact h
  | begun => exact h
  | held status contractId progress => cases hholds
  | closed => cases hholds

theorem Sound.locks (h : Sound o i s held ghost) (hheld : (i, Key.order o) ∈ held →
    (i, Key.order o) ∈ held') : Sound o i s held' ghost :=
  ⟨h.fits, h.idle, fun know hknow hholds => hheld (h.lock know hknow hholds)⟩

theorem Sound.moved (h : Sound o i s held ghost) (hfree : (i, Key.order o) ∉ held)
    (s' : Outcome) : Sound o i s' held ghost := by
  refine ⟨fun tx know htx hknow => (h.fits tx know htx hknow).free ?_ s', h.idle, h.lock⟩
  exact Bool.eq_false_iff.mpr fun hholds => hfree (h.lock know hknow hholds)

theorem sound_cut : Sound o i s held ⟨none, none⟩ := ⟨nofun, nofun, nofun⟩

theorem sound_idle : Sound o i s held ⟨some .idle, none⟩ :=
  ⟨nofun, fun _ know hknow => (Option.some.inj hknow).symm, fun know hknow hholds => by
    obtain rfl := Option.some.inj hknow
    cases hholds⟩

theorem sound_begun : Sound o i s held ⟨some .begun, some Tx.empty⟩ := by
  refine ⟨fun tx know htx hknow => ?_, nofun, fun know hknow hholds => ?_⟩
  · obtain rfl := Option.some.inj htx
    obtain rfl := Option.some.inj hknow
    exact fun _ => rfl
  · obtain rfl := Option.some.inj hknow
    cases hholds

theorem Inv.quiet (h : Inv o base db held ghosts) (hexclusive : Sys.Exclusive held')
    (hother : ∀ j, j ≠ i → (j, Key.order o) ∈ held → (j, Key.order o) ∈ held')
    (hself : ∀ s, db.outcome o = some s → Sound o i s held (ghosts i) →
      Sound o i s held' ghost') :
    Inv o base db held' (Function.update ghosts i ghost') := by
  obtain ⟨hex, s, hs, hsettles, hsound⟩ := h
  refine ⟨hexclusive, s, hs, hsettles, fun j => ?_⟩
  by_cases hj : j = i
  · subst hj
    rw [Function.update_self]
    exact hself s hs (hsound j)
  · rw [Function.update_of_ne hj]
    exact (hsound j).locks (hother j hj)

theorem Inv.commit (h : Inv o base db held ghosts)
    (hghost : ghosts i = ⟨some .closed, tx⟩) :
    Inv o base (engine.settled db tx) (Sys.releasedBy held i)
      (Function.update ghosts i ⟨some .idle, none⟩) := by
  obtain ⟨hex, s, hs, hsettles, hsound⟩ := h
  have hself := hsound i
  rw [hghost] at hself
  have hlock := hself.lock _ rfl rfl
  cases tx with
  | none => exact nomatch hself.idle rfl _ rfl
  | some tx =>
    have hadvance : Advance s (movedBy o tx.writes s) := hself.fits tx .closed rfl rfl
    refine ⟨Sys.exclusive_releasedBy hex, movedBy o tx.writes s, outcome_visible hs,
      hsettles.step hadvance, fun j => ?_⟩
    by_cases hj : j = i
    · subst hj
      rw [Function.update_self]
      exact sound_idle
    · rw [Function.update_of_ne hj]
      have hfree : (j, Key.order o) ∉ held := fun hj' => hj (hex j i _ hj' hlock)
      exact ((hsound j).moved hfree _).locks fun hj' => absurd hj' hfree

theorem movedBy_append (first second : List Write) (s : Outcome) :
    movedBy o (first ++ second) s = movedBy o second (movedBy o first s) := List.foldl_append

theorem Know.Fits.unmoved (h : know.Fits o s writes) {new : List Write}
    (hnew : ∀ s, movedBy o new s = s) : know.Fits o s (writes ++ new) := by
  cases know with
  | idle => exact h
  | begun => exact fun s => by rw [movedBy_append, h, hnew]
  | held status contractId progress =>
    exact ⟨h.1, h.2.1, by rw [movedBy_append, hnew, h.2.2]⟩
  | closed =>
    unfold Know.Fits
    rw [movedBy_append, hnew]
    exact h

theorem Know.Fits.found (h : Know.begun.Fits o s writes) (hs : db.outcome o = some s)
    (scope : Scope) (live : Bool) :
    (Know.found ((engine.visible db writes).rows (.order o scope live))).Fits o s writes := by
  have hcurrent : (engine.visible db writes).outcome o = some (movedBy o writes s) :=
    outcome_visible hs
  rw [h s] at hcurrent
  cases hfound : (engine.visible db writes).rows (.order o scope live) with
  | none => exact h
  | some row =>
    obtain ⟨hrow, -⟩ := Option.filter_eq_some_iff.mp hfound
    rw [Db.outcome, hrow] at hcurrent
    obtain rfl := Option.some.inj hcurrent
    exact ⟨rfl, rfl, h _⟩

theorem advance_started {link : Option Nat} (h : know.Fits o s writes)
    (hstartable : know.startable link = true) (tick : Nat) (clientId : Option Nat) :
    Advance s (movedBy o (writes ++ [.started o tick clientId link]) s) := by
  rw [movedBy_append]
  cases know with
  | held status contractId progress =>
    obtain ⟨hstatus, hcontract, hmoved⟩ := h
    rw [hmoved]
    cases status <;> cases progress <;> try cases hstartable
    · obtain rfl := of_decide_eq_true hstartable
      simpa [movedBy, Write.moves, Progress.applied] using Advance.started s hstatus
    · cases contractId with
      | some linked => cases hstartable
      | none =>
        rename_i created
        obtain rfl := of_decide_eq_true hstartable
        simpa [movedBy, Write.moves, Progress.applied] using
          Advance.created s created hstatus hcontract
  | _ => cases hstartable

theorem advance_completed (h : know.Fits o s writes) (hcompletable : know.completable = true) :
    Advance s (movedBy o (writes ++ [.orderStatus o .done]) s) := by
  rw [movedBy_append]
  cases know with
  | held status contractId progress =>
    obtain ⟨hstatus, -, hmoved⟩ := h
    rw [hmoved]
    cases status <;> cases progress <;> try cases hcompletable
    · simpa [movedBy, Write.moves, Progress.applied] using Advance.completed s hstatus
    · simpa [movedBy, Write.moves, Progress.applied] using Advance.invoiced s hstatus
  | _ => cases hcompletable

theorem advance_cancelled (h : know.Fits o s writes) (hcancellable : know.cancellable = true) :
    Advance s (movedBy o (writes ++ [.orderStatus o .cancelled]) s) := by
  rw [movedBy_append]
  cases know with
  | held status contractId progress =>
    obtain ⟨hstatus, -, hmoved⟩ := h
    rw [hmoved]
    cases progress <;> try cases hcancellable
    subst hstatus
    simpa [movedBy, Write.moves, Progress.applied] using Advance.cancelled s hcancellable
  | _ => cases hcancellable

theorem Know.Fits.moved {allowed : Bool} {learn : Bool → Know} (h : know.Fits o s writes)
    (hk : know.moved allowed = some learn) {new : List Write}
    (hadvance : allowed = true → Advance s (movedBy o (writes ++ new) s)) (condition : Bool) :
    (learn (if condition then (true, new) else (false, [])).1).Fits o s
      (writes ++ (if condition then (true, new) else (false, [])).2) := by
  unfold Know.moved at hk
  split_ifs at hk with hallowed
  obtain rfl := Option.some.inj hk
  cases condition with
  | true => exact hadvance hallowed
  | false =>
    rw [if_neg Bool.false_ne_true, List.append_nil]
    exact h

theorem Know.Fits.inside {op : Stmt} {learn : op.Res → Know} (h : know.Fits o s writes)
    (hk : know.inside o op = some learn) (hs : db.outcome o = some s) (tick : Nat) (seen : Db) :
    (learn (exec tick (engine.visible db writes) seen op).1).Fits o s
      (writes ++ (exec tick (engine.visible db writes) seen op).2) := by
  have hminor : ∀ {op : Stmt} {learn : op.Res → Know},
      (if know.holds then some fun _ => know else none) = some learn →
      (∀ s, movedBy o (exec tick (engine.visible db writes) seen op).2 s = s) →
      (learn (exec tick (engine.visible db writes) seen op).1).Fits o s
        (writes ++ (exec tick (engine.visible db writes) seen op).2) := by
    intro op learn hk hnew
    split_ifs at hk
    obtain rfl := Option.some.inj hk
    exact h.unmoved hnew
  cases op with
  | select locking query =>
    cases locking with
    | false => exact hminor hk fun _ => rfl
    | true =>
      cases query with
      | order id scope live =>
        change (if id = o ∧ know = .begun then some Know.found else none) = _ at hk
        split_ifs at hk with hid
        obtain ⟨rfl, rfl⟩ := hid
        obtain rfl := Option.some.inj hk
        change Know.Fits id s (writes ++ []) _
        rw [List.append_nil]
        exact h.found hs scope live
      | _ => exact hminor hk fun _ => rfl
  | startRow id clientId link =>
    refine h.moved hk (fun hallowed => ?_) _
    obtain ⟨hid, hstartable⟩ := Bool.and_eq_true_iff.mp hallowed
    rw [of_decide_eq_true hid]
    exact advance_started h hstartable tick clientId
  | completeRow id =>
    refine h.moved hk (fun hallowed => ?_) _
    obtain ⟨hid, hcompletable⟩ := Bool.and_eq_true_iff.mp hallowed
    rw [of_decide_eq_true hid]
    exact advance_completed h hcompletable
  | cancelRow id =>
    refine h.moved hk (fun hallowed => ?_) _
    obtain ⟨hid, hcancellable⟩ := Bool.and_eq_true_iff.mp hallowed
    rw [of_decide_eq_true hid]
    exact advance_cancelled h hcancellable
  | insertOrder row => cases hk
  | assignOrder id assignedTo => cases hk
  | insertContract row =>
    change (if know = .held .new none .untouched then _ else none) = _ at hk
    split_ifs at hk with hknow
    obtain rfl := Option.some.inj hk
    subst hknow
    obtain ⟨hstatus, hcontract, hmoved⟩ := h
    refine ⟨hstatus, hcontract, ?_⟩
    rw [movedBy_append, hmoved]
    rfl
  | insertInvoice row =>
    change know.invoice = _ at hk
    unfold Know.invoice at hk
    split at hk
    · obtain rfl := Option.some.inj hk
      obtain ⟨hstatus, hcontract, hmoved⟩ := h
      refine ⟨hstatus, hcontract, ?_⟩
      rw [movedBy_append, hmoved]
      rfl
    · cases hk
  | activateContract id =>
    refine hminor hk fun s => ?_
    simp only [exec]
    split
    · rfl
    · split_ifs <;> rfl
  | cancelContract id live cleanupPending =>
    refine hminor hk fun s => ?_
    simp only [exec]
    split_ifs <;> rfl
  | _ => exact hminor hk fun _ => rfl

theorem inside_idle (op : Stmt) : Know.idle.inside o op = none := by
  cases op with
  | select locking query =>
    cases locking with
    | false => rfl
    | true =>
      cases query with
      | order id scope live => exact if_neg fun h => nomatch h.2
      | _ => rfl
  | startRow id clientId link => exact if_neg (by simp [Know.startable])
  | completeRow id => exact if_neg (by simp [Know.completable])
  | cancelRow id => exact if_neg (by simp [Know.cancellable])
  | _ => rfl

theorem holds_of_moved {allowed : Bool} {learn : Bool → Know}
    (hk : know.moved (decide (i = o) && allowed) = some learn)
    (h : allowed = true → know.holds = true) : know.holds = true :=
  h (Bool.and_eq_true_iff.mp (Option.ite_none_right_eq_some.mp hk).1).2

theorem holds_of_inside {op : Stmt} {learn : op.Res → Know} (hk : know.inside o op = some learn)
    (reply : op.Res) (hholds : (learn reply).holds = true) (db : Db) :
    know.holds = true ∨ Key.order o ∈ locks op db := by
  by_cases hknow : know.holds = true
  · exact Or.inl hknow
  · right
    cases op with
    | select locking query =>
      cases locking with
      | false => cases (if_neg hknow).symm.trans hk
      | true =>
        cases query with
        | order id scope live =>
          change (if id = o ∧ know = .begun then some Know.found else none) = _ at hk
          split_ifs at hk with hid
          rw [hid.1]
          exact List.mem_singleton_self _
        | _ => cases (if_neg hknow).symm.trans hk
    | startRow id clientId link =>
      refine absurd (holds_of_moved hk fun h => ?_) hknow
      cases know <;> first | rfl | cases h
    | completeRow id =>
      refine absurd (holds_of_moved hk fun h => ?_) hknow
      cases know <;> first | rfl | cases h
    | cancelRow id =>
      refine absurd (holds_of_moved hk fun h => ?_) hknow
      cases know <;> first | rfl | cases h
    | insertOrder row => cases hk
    | assignOrder id assignedTo => cases hk
    | insertContract row =>
      obtain ⟨rfl, -⟩ := Option.ite_none_right_eq_some.mp hk
      exact absurd rfl hknow
    | insertInvoice row => cases know <;> first | exact absurd rfl hknow | cases hk
    | _ => cases (if_neg hknow).symm.trans hk

theorem Inv.step (h : Inv o base db held ghosts) {tick : Nat}
    (hmove : Disciplined engine (discipline o) i tick db held (ghosts i) db' held' ghost') :
    Inv o base db' held' (Function.update ghosts i ghost') := by
  have hreleased : ∀ j, j ≠ i → (j, Key.order o) ∈ held →
      (j, Key.order o) ∈ Sys.releasedBy held i := fun j hj => Sys.mem_releasedBy_other hj
  generalize hghost : ghosts i = ghost at hmove
  cases hmove with
  | idle => exact h.quiet h.exclusive (fun _ _ => id) fun _ _ hsound => hghost ▸ hsound
  | abort =>
    exact h.quiet (Sys.exclusive_releasedBy h.exclusive) hreleased fun _ _ _ => sound_cut
  | start know know' tx hk =>
    obtain ⟨hidle, hbegun⟩ := Option.ite_none_right_eq_some.mp hk
    obtain rfl := Option.some.inj hbegun
    subst hidle
    have htx : tx = none := by
      obtain ⟨-, s, -, -, hsound⟩ := h
      have hself := hsound i
      rw [hghost] at hself
      cases tx with
      | none => rfl
      | some tx => exact (hself.fits tx .idle rfl rfl).elim
    subst htx
    exact h.quiet (Sys.exclusive_releasedBy h.exclusive) hreleased fun _ _ _ => sound_begun
  | commit know know' tx hk =>
    obtain ⟨hclosed, hidle⟩ := Option.ite_none_right_eq_some.mp hk
    obtain rfl := Option.some.inj hidle
    subst hclosed
    exact h.commit hghost
  | rollback know know' tx hk =>
    obtain rfl := Option.some.inj hk
    exact h.quiet (Sys.exclusive_releasedBy h.exclusive) hreleased fun _ _ _ => sound_idle
  | auto know via op learn tx hk hin hfree =>
    cases via with
    | conn =>
      obtain ⟨-, s, -, -, hsound⟩ := h
      have hself := hsound i
      rw [hghost] at hself
      cases tx with
      | some tx => cases hin
      | none =>
        rw [hself.idle rfl know rfl] at hk
        cases (inside_idle op).symm.trans hk
    | pool =>
      cases op with
      | select locking query =>
        cases locking with
        | true => cases hk
        | false =>
          obtain ⟨hidle, hlearn⟩ := Option.ite_none_right_eq_some.mp hk
          obtain rfl := Option.some.inj hlearn
          subst hidle
          exact h.quiet h.exclusive (fun _ _ => id) fun _ _ hsound => hghost ▸ hsound
      | _ => cases hk
  | within know op learn tx hk hfree =>
    refine h.quiet (Sys.exclusive_locked h.exclusive hfree)
      (fun _ _ hheld => List.mem_append_left _ hheld) fun s hs hsound => ?_
    rw [hghost] at hsound
    refine ⟨fun tx' know' htx hknow => ?_, nofun, fun know' hknow hholds => ?_⟩
    · obtain rfl := Option.some.inj htx
      obtain rfl := Option.some.inj hknow
      exact (hsound.fits tx know rfl rfl).inside hk hs tick _
    · obtain rfl := Option.some.inj hknow
      rcases holds_of_inside hk _ hholds (engine.current db tx) with hown | hlocks
      · exact List.mem_append_left _ (hsound.lock know rfl hown)
      · exact List.mem_append_right _ (List.mem_map_of_mem hlocks)
  | call know query learn tx hk answer =>
    obtain rfl := Option.some.inj hk
    exact h.quiet h.exclusive (fun _ _ => id) fun _ _ hsound => hghost ▸ hsound

/-- A service order with calls on it. -/
abbrev System := Sys Db Write Key Stmt Stmt.Res Query Query.Answer (Except Refusal (Option Order))

structure Ready (H : Hashing) (o : Nat) (calls : Nat → Call) (s : System) : Prop where
  order : (s.db.order o).isSome = true
  held : s.held = []
  sessions : ∀ i, s.sessions i = ⟨some ((calls i).run H o).run, none⟩

variable {H : Hashing} {calls : Nat → Call} {s₁ : System}

theorem Ready.kept (h : Ready H o calls s₁) : ∃ base, s₁.db.outcome o = some base ∧
    s₁.Kept (discipline o) fun _ db held ghosts => Inv o base db held ghosts := by
  obtain ⟨row, hrow⟩ := Option.isSome_iff_exists.mp h.order
  refine ⟨_, by rw [Db.outcome, hrow]; rfl, fun _ => ⟨some .idle, none⟩, ?_, fun i => ?_⟩
  · refine ⟨?_, _, by rw [Db.outcome, hrow]; rfl, Settles.refl _, fun _ => sound_idle⟩
    rw [h.held]
    exact fun _ _ _ hheld => by cases hheld
  · rw [h.sessions i]
    refine ⟨rfl, fun p hp => ⟨.idle, rfl, ?_⟩⟩
    obtain rfl := Option.some.inj hp
    exact Prog.Follows.mono (keeps_run H (calls i)) fun _ _ _ => trivial

/-- After any run an order has at most one contract and invoice, and ends once. -/
theorem outcomes_unique (H : Hashing) {o : Nat} {calls : Nat → Call} {s : System}
    (h : Ready H o calls s) (first labels : List (Label Query.Answer)) :
    let s₁ := Transition.run (Sys.step engine) s first
    let s₂ := Transition.run (Sys.step engine) s₁ labels
    ∃ base a b, s.db.outcome o = some base ∧ s₁.db.outcome o = some a ∧ s₂.db.outcome o = some b ∧
      Settles base a ∧ Settles a b := by
  intro s₁ s₂
  obtain ⟨base, hbase, hkept⟩ := h.kept
  have hstep : ∀ base i tick db held ghosts db' held' ghost', Inv o base db held ghosts →
      Disciplined engine (discipline o) i tick db held (ghosts i) db' held' ghost' →
      Inv o base db' held' (Function.update ghosts i ghost') :=
    fun base i tick db held ghosts db' held' ghost' hinv hmove => hinv.step hmove
  obtain ⟨ghosts, ⟨hex, a, ha, hsettled, hsound⟩, htracks⟩ := Sys.run_kept (hstep base) hkept first
  obtain ⟨ghosts', ⟨-, b, hb, hsettles, -⟩, -⟩ := Sys.run_kept (hstep a)
    ⟨ghosts, ⟨hex, a, ha, Settles.refl a, hsound⟩, htracks⟩ labels
  exact ⟨base, a, b, hbase, ha, hb, hsettled, hsettles⟩

/-- An order that was started. -/
def sampleOrder : Order where
  id := 1
  organizationId := some 1
  clientId := some 1
  leadId := none
  planId := some 1
  contractId := some 1
  orderType := .upgrade
  status := .inProcess
  assignedTo := none
  startedAt := some 0
  deleted := false

/-- A table with this order. -/
def sampleDb : Db := ⟨[sampleOrder], [], [], [], [], [], [], [], [], [], []⟩

def sampleCalls (i : Nat) : Call :=
  if i = 0 then .complete ⟨some 1, .alreadyPaid, none, true, true⟩ else .cancel ⟨some 1, true⟩

/-- The calls before they start. -/
def sampleSystem (H : Hashing) : System where
  db := sampleDb
  tick := 0
  held := []
  sessions := fun i => ⟨some ((sampleCalls i).run H 1).run, none⟩
  calls := []

/-- Texts are their own hashes. -/
def sampleHashing : Hashing := ⟨id, fun _ => ""⟩

/-- Nothing raises. -/
def sampleWorld : (query : Query) → query.Answer
  | .raises _ => false
  | .fails _ => false
  | .proceeds => true
  | .otherwise => ()
  | .now => 0
  | .planSelectable .. => true
  | .convertsLead .. => none
  | .generates _ => some []
  | .composes .. => some 0
  | .requiresCleanup _ => some false
  | .mayCommission .. => true

theorem sampleSystem_ready (H : Hashing) : Ready H 1 sampleCalls (sampleSystem H) :=
  ⟨rfl, rfl, fun _ => rfl⟩

/-- The order is completed, and the cancellation that comes after it changes nothing. -/
theorem outcomes_unique_sample :
    let first := List.replicate 20 (Label.step 0 sampleWorld)
    let labels := List.replicate 20 (Label.step 1 sampleWorld)
    let s := sampleSystem sampleHashing
    let s₁ := Transition.run (Sys.step engine) s first
    let s₂ := Transition.run (Sys.step engine) s₁ labels
    (s₂.db.outcome 1).map Outcome.status = some .done ∧
    ∃ base a b, s.db.outcome 1 = some base ∧ s₁.db.outcome 1 = some a ∧ s₂.db.outcome 1 = some b ∧
      Settles base a ∧ Settles a b :=
  ⟨by decide +kernel, outcomes_unique sampleHashing (sampleSystem_ready sampleHashing) _ _⟩

end FireIsp.Lifecycle
