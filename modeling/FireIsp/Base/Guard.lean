import FireIsp.Base.Discipline

/-!
# Guarded runs

What a label makes its session do, so that a condition on runs can speak of the statement that is
about to be sent and of the answer that is about to be heard.  An invariant kept by each allowed
disciplined move holds along every run whose steps are all allowed.
-/

namespace Txn

variable {σ W K Op : Type} {Res : Op → Type} {Query : Type} {Answer : Query → Type}
  {Know A : Type}

/-- What a session does in one step, as far as a condition may look at it. -/
inductive Act (Op : Type) (Query : Type) (Answer : Query → Type)
  /-- It has ended, waits for a lock, or opens or ends a transaction. -/
  | quiet
  | cut
  | sends (op : Op)
  | hears (query : Query) (answer : Answer query)

variable [DecidableEq K]

/-- What a label makes its session do. -/
def Sys.act (E : Engine σ W K Op Res) (s : Sys σ W K Op Res Query Answer A) :
    Label Answer → Act Op Query Answer
  | .abort _ => .cut
  | .step i answer =>
    match (s.sessions i).prog with
    | some (.stmt via op _) =>
      if Sys.blocked s.held i (Sys.inside via (s.sessions i).tx)
        (Sys.wanted E via op s.db (s.sessions i).tx) then .quiet
      else .sends op
    | some (.call query _) => .hears query (answer query)
    | _ => .quiet

/-- What a session has returned. -/
def Sys.answer (s : Sys σ W K Op Res Query Answer A) (i : Nat) : Option A :=
  match (s.sessions i).prog with
  | some (.done value) => some value
  | _ => none

variable {s : Sys σ W K Op Res Query Answer A}

omit [DecidableEq K] in
theorem Sys.prog_of_answer {i : Nat} {value : A} (h : s.answer i = some value) :
    (s.sessions i).prog = some (.done value) := by
  unfold Sys.answer at h
  split at h
  · rename_i value' hprog
    cases h
    exact hprog
  · cases h

omit [DecidableEq K] in
/-- What one step of a disciplined session can do if its act is allowed. -/
inductive Guarded (E : Engine σ W K Op Res) (D : Discipline Know Op Res Query Answer)
    (may : Act Op Query Answer → Prop) (i tick : Nat) (db : σ) (held : List (Nat × K)) :
    Ghost σ W Know → σ → List (Nat × K) → Ghost σ W Know → Prop
  /-- The session has ended or waits for a lock. -/
  | idle (ghost) : Guarded E D may i tick db held ghost db held ghost
  | abort (ghost) (hmay : may .cut) :
      Guarded E D may i tick db held ghost db (Sys.releasedBy held i) ⟨none, none⟩
  | start (know know' tx) (hk : D.started know = some know') :
      Guarded E D may i tick db held ⟨some know, tx⟩ (E.settled db tx) (Sys.releasedBy held i)
        ⟨some know', some Tx.empty⟩
  | commit (know know' tx) (hk : D.committed know = some know') :
      Guarded E D may i tick db held ⟨some know, tx⟩ (E.settled db tx) (Sys.releasedBy held i)
        ⟨some know', none⟩
  | rollback (know know' tx) (hk : D.rolledBack know = some know') :
      Guarded E D may i tick db held ⟨some know, tx⟩ db (Sys.releasedBy held i)
        ⟨some know', none⟩
  | auto (know via op learn tx) (hk : D.sent know via op = some learn)
      (hin : Sys.inside via tx = false) (hfree : ∀ j k, (j, k) ∈ held → k ∉ E.locks op db)
      (hmay : may (.sends op)) :
      Guarded E D may i tick db held ⟨some know, tx⟩
        (E.visible db (E.exec op tick db db).2) held
        ⟨some (learn (E.exec op tick db db).1), tx⟩
  /-- A statement inside the open transaction. -/
  | within (know op learn) (tx : Tx σ W) (hk : D.sent know .conn op = some learn)
      (hfree : ∀ j k, (j, k) ∈ held → k ∈ E.locks op (E.current db tx) → j = i)
      (hmay : may (.sends op)) :
      Guarded E D may i tick db held ⟨some know, some tx⟩ db
        (held ++ (E.locks op (E.current db tx)).map fun k => (i, k))
        ⟨some (learn (E.exec op tick (E.current db tx) (E.snapshot db (E.fix op db tx))).1),
          some { E.fix op db tx with
            writes := tx.writes ++
              (E.exec op tick (E.current db tx) (E.snapshot db (E.fix op db tx))).2 }⟩
  | call (know query learn tx) (hk : D.asked know query = some learn) (answer : Answer query)
      (hmay : may (.hears query answer)) :
      Guarded E D may i tick db held ⟨some know, tx⟩ db held ⟨some (learn answer), tx⟩

variable {E : Engine σ W K Op Res} {D : Discipline Know Op Res Query Answer}
  {may : Act Op Query Answer → Prop}

omit [DecidableEq K] in
theorem Guarded.disciplined {i tick : Nat} {db db' : σ} {held held' : List (Nat × K)}
    {ghost ghost' : Ghost σ W Know} (h : Guarded E D may i tick db held ghost db' held' ghost') :
    Disciplined E D i tick db held ghost db' held' ghost' := by
  cases h with
  | idle => exact .idle _
  | abort hmay => exact .abort _
  | start know know' tx hk => exact .start know know' tx hk
  | commit know know' tx hk => exact .commit know know' tx hk
  | rollback know know' tx hk => exact .rollback know know' tx hk
  | auto know via op learn tx hk hin hfree hmay => exact .auto know via op learn tx hk hin hfree
  | within know op learn tx hk hfree hmay => exact .within know op learn tx hk hfree
  | call know query learn tx hk answer hmay => exact .call know query learn tx hk answer

variable {post : A → Know → Prop}

theorem Sys.step_session {l : Label Answer} {ghost : Ghost σ W Know}
    (ht : TracksTo D post (s.sessions l.session) ghost) (hmay : may (s.act E l)) :
    ∃ ghost' sess', Guarded E D may l.session s.tick s.db s.held ghost (s.step E l).db
        (s.step E l).held ghost' ∧ TracksTo D post sess' ghost' ∧
      (s.step E l).sessions = Function.update s.sessions l.session sess' := by
  obtain ⟨know, tx⟩ := ghost
  cases l with
  | abort i => exact ⟨_, ⟨none, none⟩, .abort _ hmay, ⟨rfl, fun p hp => nomatch hp⟩, rfl⟩
  | step i answer =>
    simp only [Label.session] at ht ⊢
    rcases hsess : s.sessions i with ⟨prog, tx'⟩
    rw [hsess] at ht
    obtain rfl : tx' = tx := ht.tx
    have hself : s.sessions = Function.update s.sessions i ⟨prog, tx'⟩ := by
      rw [← hsess, Function.update_eq_self]
    cases prog with
    | none =>
      refine ⟨_, _, ?_, ht, ?_⟩ <;> simp only [Sys.step, hsess]
      · exact .idle _
      · exact hself
    | some p =>
      have hthen : ∀ (know' : Know) (next : Prog Op Res Query Answer A) (tx : Option (Tx σ W)),
          next.Follows D know' post → TracksTo D post ⟨some next, tx⟩ ⟨some know', tx⟩ :=
        fun know' next tx hn => ⟨rfl, fun p hp => ⟨know', rfl, Option.some.inj hp ▸ hn⟩⟩
      obtain ⟨know, rfl, hp⟩ := ht.follows p rfl
      cases p with
      | done value =>
        refine ⟨_, _, ?_, ht, ?_⟩ <;> simp only [Sys.step, hsess]
        · exact .idle _
        · exact hself
      | start next =>
        obtain ⟨know', hk, hn⟩ := hp
        refine ⟨_, _, ?_, hthen know' next (some Tx.empty) hn, ?_⟩ <;>
          simp only [Sys.step, hsess]
        exact .start _ know' _ hk
      | commit next =>
        obtain ⟨know', hk, hn⟩ := hp
        refine ⟨_, _, ?_, hthen know' next none hn, ?_⟩ <;> simp only [Sys.step, hsess]
        exact .commit _ know' _ hk
      | rollback next =>
        obtain ⟨know', hk, hn⟩ := hp
        refine ⟨_, _, ?_, hthen know' next none hn, ?_⟩ <;> simp only [Sys.step, hsess]
        exact .rollback _ know' _ hk
      | call query next =>
        obtain ⟨learn, hk, hn⟩ := hp
        simp only [Sys.act, hsess] at hmay
        refine ⟨_, _, ?_, hthen _ _ tx' (hn (answer query)), ?_⟩ <;>
          simp only [Sys.step, hsess]
        exact .call _ query learn _ hk (answer query) hmay
      | stmt via op next =>
        obtain ⟨learn, hk, hn⟩ := hp
        simp only [Sys.act, hsess] at hmay
        by_cases hb : Sys.blocked s.held i (Sys.inside via tx')
            (Sys.wanted E via op s.db tx') = true
        · refine ⟨_, _, ?_, ht, ?_⟩ <;> simp only [Sys.step, hsess, hb, if_true]
          · exact .idle _
          · exact hself
        · have hfree := Bool.eq_false_iff.mpr hb
          rw [hfree, if_neg Bool.false_ne_true] at hmay
          refine ⟨_, _, ?_, hthen _ _ (E.perform via op s.tick s.db tx').tx
            (hn (E.perform via op s.tick s.db tx').value), ?_⟩ <;>
            simp only [Sys.step, hsess, hfree, Bool.false_eq_true, if_false]
          have hother : Sys.inside via tx' = false →
              ∀ j k, (j, k) ∈ s.held → k ∉ E.locks op (Sys.lockable E via s.db tx') := by
            intro hin j k hj hk
            rw [hin] at hfree
            exact Bool.false_ne_true (Sys.blocked_false hfree hj hk).1
          cases via with
          | pool => exact .auto know .pool op learn tx' hk rfl (hother rfl) hmay
          | conn =>
            cases tx' with
            | none => exact .auto know .conn op learn none hk rfl (hother rfl) hmay
            | some tx =>
              refine .within know op learn tx hk (fun j k hj hk => ?_) hmay
              exact (Sys.blocked_false hfree hj hk).2

variable {ghosts : Nat → Ghost σ W Know}

theorem Sys.step_guarded (hs : ∀ i, TracksTo D post (s.sessions i) (ghosts i)) {l : Label Answer}
    (hmay : may (s.act E l)) :
    ∃ ghost', Guarded E D may l.session s.tick s.db s.held (ghosts l.session) (s.step E l).db
        (s.step E l).held ghost' ∧
      ∀ i, TracksTo D post ((s.step E l).sessions i)
        (Function.update ghosts l.session ghost' i) := by
  obtain ⟨ghost', sess', hguarded, ht', hsess⟩ := Sys.step_session (hs l.session) hmay
  refine ⟨ghost', hguarded, fun j => ?_⟩
  rw [hsess]
  by_cases hj : j = l.session
  · subst hj
    rw [Function.update_self, Function.update_self]
    exact ht'
  · rw [Function.update_of_ne hj, Function.update_of_ne hj]
    exact hs j

/-- Every step of the run does what is allowed in the state it is taken from. -/
def Sys.Keeping (E : Engine σ W K Op Res)
    (may : Sys σ W K Op Res Query Answer A → Act Op Query Answer → Prop)
    (s : Sys σ W K Op Res Query Answer A) (labels : List (Label Answer)) : Prop :=
  Transition.Along (Sys.step E) (fun s l => may s (s.act E l)) s labels

instance decidableKeeping
    (may : Sys σ W K Op Res Query Answer A → Act Op Query Answer → Prop)
    [∀ s act, Decidable (may s act)] (s : Sys σ W K Op Res Query Answer A)
    (labels : List (Label Answer)) : Decidable (s.Keeping E may labels) :=
  inferInstanceAs (Decidable (Transition.Along _ _ s labels))

theorem Sys.run_guarded {may : σ → Act Op Query Answer → Prop}
    {Inv : Nat → σ → List (Nat × K) → (Nat → Ghost σ W Know) → Prop}
    (hstep : ∀ i tick db held ghosts db' held' ghost', Inv tick db held ghosts →
      Guarded E D (may db) i tick db held (ghosts i) db' held' ghost' →
      Inv (tick + 1) db' held' (Function.update ghosts i ghost'))
    (hinv : Inv s.tick s.db s.held ghosts) (htrack : ∀ i, TracksTo D post (s.sessions i) (ghosts i))
    {labels : List (Label Answer)} (hrun : s.Keeping E (fun s => may s.db) labels) :
    ∃ ghosts', Inv (Transition.run (Sys.step E) s labels).tick
        (Transition.run (Sys.step E) s labels).db (Transition.run (Sys.step E) s labels).held
        ghosts' ∧
      (∀ i, TracksTo D post ((Transition.run (Sys.step E) s labels).sessions i) (ghosts' i)) ∧
      ∀ i, i ∉ labels.map Label.session → ghosts' i = ghosts i := by
  induction labels generalizing s ghosts with
  | nil => exact ⟨ghosts, hinv, htrack, fun _ _ => rfl⟩
  | cons l labels ih =>
    obtain ⟨ghost', hguarded, htrack'⟩ := Sys.step_guarded htrack hrun.1
    have hinv' := hstep _ _ _ _ _ _ _ _ hinv hguarded
    rw [← Sys.step_tick] at hinv'
    obtain ⟨ghosts', hend, htracks, hsame⟩ := ih hinv' htrack' hrun.2
    refine ⟨ghosts', hend, htracks, fun i hi => ?_⟩
    rw [List.map_cons, List.mem_cons, not_or] at hi
    rw [hsame i hi.2, Function.update_of_ne hi.1]

theorem Sys.along_guarded {may : σ → Act Op Query Answer → Prop}
    {Inv : Nat → σ → List (Nat × K) → (Nat → Ghost σ W Know) → Prop} {rel : σ → σ → Prop}
    (hstep : ∀ i tick db held ghosts db' held' ghost', Inv tick db held ghosts →
      Guarded E D (may db) i tick db held (ghosts i) db' held' ghost' →
      Inv (tick + 1) db' held' (Function.update ghosts i ghost') ∧ rel db db')
    (hinv : Inv s.tick s.db s.held ghosts) (htrack : ∀ i, TracksTo D post (s.sessions i) (ghosts i))
    {labels : List (Label Answer)} (hrun : s.Keeping E (fun s => may s.db) labels) :
    Transition.Along (Sys.step E) (fun s l => rel s.db (s.step E l).db) s labels := by
  induction labels generalizing s ghosts with
  | nil => trivial
  | cons l labels ih =>
    obtain ⟨ghost', hguarded, htrack'⟩ := Sys.step_guarded htrack hrun.1
    obtain ⟨hinv', hrel⟩ := hstep _ _ _ _ _ _ _ _ hinv hguarded
    rw [← Sys.step_tick] at hinv'
    exact ⟨hrel, ih hinv' htrack' hrun.2⟩

end Txn

/-!
## Sessions on the pool

A discipline of programs that open no transaction and send every statement on the pool.  Nothing is
locked or kept back, so an invariant speaks of the committed state and of what each session knows.
-/

namespace Txn

variable {σ W K Op : Type} {Res : Op → Type} {Query : Type} {Answer : Query → Type}
  {Know A : Type}

/-- A discipline without transactions. -/
def Discipline.pooled (sent : Know → (op : Op) → Option (Res op → Know))
    (asked : Know → (query : Query) → Option (Answer query → Know)) :
    Discipline Know Op Res Query Answer where
  started _ := none
  committed _ := none
  rolledBack _ := none
  sent know via op := match via with
    | .pool => sent know op
    | .conn => none
  asked := asked

variable {sent : Know → (op : Op) → Option (Res op → Know)}
  {asked : Know → (query : Query) → Option (Answer query → Know)}

/-- What one step of a session on the pool can do if its act is allowed. -/
inductive Pooled (E : Engine σ W K Op Res) (sent : Know → (op : Op) → Option (Res op → Know))
    (asked : Know → (query : Query) → Option (Answer query → Know))
    (may : Act Op Query Answer → Prop) (tick : Nat) (db : σ) :
    Option Know → σ → Option Know → Prop
  | idle (know) : Pooled E sent asked may tick db know db know
  | cut (know) (hcut : may .cut) : Pooled E sent asked may tick db know db none
  | send (know op learn) (hk : sent know op = some learn) (hmay : may (.sends op)) :
      Pooled E sent asked may tick db (some know) (E.visible db (E.exec op tick db db).2)
        (some (learn (E.exec op tick db db).1))
  | call (know query learn) (hk : asked know query = some learn) (answer : Answer query)
      (hmay : may (.hears query answer)) :
      Pooled E sent asked may tick db (some know) db (some (learn answer))

variable {E : Engine σ W K Op Res} {may : σ → Act Op Query Answer → Prop} {i tick : Nat}
  {db db' : σ} {held held' : List (Nat × K)} {ghost ghost' : Ghost σ W Know}

theorem Guarded.pooled (h : Guarded E (Discipline.pooled sent asked) (may db) i tick db held ghost
    db' held' ghost') (htx : ghost.tx = none) :
    Pooled E sent asked (may db) tick db ghost.know db' ghost'.know ∧ ghost'.tx = none := by
  cases h with
  | idle => exact ⟨.idle _, htx⟩
  | abort _ hcut => exact ⟨.cut _ hcut, rfl⟩
  | start know know' tx hk => exact nomatch hk
  | commit know know' tx hk => exact nomatch hk
  | rollback know know' tx hk => exact nomatch hk
  | auto know via op learn tx hk hin hfree hmay =>
    cases via with
    | pool => exact ⟨.send know op learn hk hmay, htx⟩
    | conn => exact nomatch hk
  | within know op learn tx hk hfree hmay => exact nomatch htx
  | call know query learn tx hk answer hmay => exact ⟨.call know query learn hk answer hmay, htx⟩

variable [DecidableEq K]

/-- An invariant kept by each allowed pool step holds along allowed runs. -/
theorem Sys.run_pooled {post : A → Know → Prop} {Inv : Nat → σ → (Nat → Option Know) → Prop}
    (hstep : ∀ i tick db knows db' know', Inv tick db knows →
      Pooled E sent asked (may db) tick db (knows i) db' know' →
      Inv (tick + 1) db' (Function.update knows i know'))
    {s : Sys σ W K Op Res Query Answer A} {knows : Nat → Option Know}
    (hinv : Inv s.tick s.db knows)
    (htrack : ∀ i, TracksTo (Discipline.pooled sent asked) post (s.sessions i) ⟨knows i, none⟩)
    {labels : List (Label Answer)} (hrun : s.Keeping E (fun s => may s.db) labels) :
    ∃ knows', Inv (Transition.run (Sys.step E) s labels).tick
        (Transition.run (Sys.step E) s labels).db knows' ∧
      ∀ i, TracksTo (Discipline.pooled sent asked) post
        ((Transition.run (Sys.step E) s labels).sessions i) ⟨knows' i, none⟩ := by
  let Inv' : Nat → σ → List (Nat × K) → (Nat → Ghost σ W Know) → Prop :=
    fun tick db _ ghosts => Inv tick db (fun i => (ghosts i).know) ∧ ∀ i, (ghosts i).tx = none
  have hstep' : ∀ i tick db held ghosts db' held' ghost', Inv' tick db held ghosts →
      Guarded E (Discipline.pooled sent asked) (may db) i tick db held (ghosts i) db' held' ghost' →
      Inv' (tick + 1) db' held' (Function.update ghosts i ghost') := by
    rintro i tick db held ghosts db' held' ghost' ⟨hinv, htx⟩ hd
    obtain ⟨hpooled, htx'⟩ := hd.pooled (htx i)
    have hknow : (fun j => (Function.update ghosts i ghost' j).know) =
        Function.update (fun j => (ghosts j).know) i ghost'.know := by
      funext j
      by_cases hj : j = i
      · subst hj
        rw [Function.update_self, Function.update_self]
      · rw [Function.update_of_ne hj, Function.update_of_ne hj]
    refine ⟨hknow ▸ hstep i tick db _ db' _ hinv hpooled, fun j => ?_⟩
    by_cases hj : j = i
    · subst hj
      rw [Function.update_self]
      exact htx'
    · rw [Function.update_of_ne hj]
      exact htx j
  have hinv' : Inv' s.tick s.db s.held fun i => ⟨knows i, none⟩ := ⟨hinv, fun _ => rfl⟩
  obtain ⟨ghosts, ⟨hend, htx⟩, htracks, -⟩ := Sys.run_guarded hstep' hinv' htrack hrun
  refine ⟨fun i => (ghosts i).know, hend, fun i => ?_⟩
  have hghost : (⟨(ghosts i).know, none⟩ : Ghost σ W Know) = ghosts i := by
    rw [← htx i]
  rw [hghost]
  exact htracks i

theorem Sys.step_prog (s : Sys σ W K Op Res Query Answer A) (j : Nat)
    (answer : (q : Query) → Answer q) {i : Nat} (h : (s.sessions i).prog ≠ none) :
    ((s.step E (.step j answer)).sessions i).prog ≠ none := by
  have hother : ∀ (next : Prog Op Res Query Answer A) (tx : Option (Tx σ W)),
      (Function.update s.sessions j ⟨some next, tx⟩ i).prog ≠ none := by
    intro next tx
    by_cases hi : i = j
    · subst hi
      rw [Function.update_self]
      exact Option.some_ne_none next
    · rw [Function.update_of_ne hi]
      exact h
  simp only [Sys.step]
  split
  · exact h
  · exact h
  · exact hother _ _
  · exact hother _ _
  · exact hother _ _
  · split
    · exact h
    · exact hother _ _
  · exact hother _ _

theorem Sys.run_prog {may : Sys σ W K Op Res Query Answer A → Act Op Query Answer → Prop}
    (hcut : ∀ s, ¬may s .cut) {s : Sys σ W K Op Res Query Answer A} {labels : List (Label Answer)}
    (hrun : s.Keeping E may labels) {i : Nat} (h : (s.sessions i).prog ≠ none) :
    ((Transition.run (Sys.step E) s labels).sessions i).prog ≠ none := by
  refine Transition.run_invariant (I := fun s => (s.sessions i).prog ≠ none)
    (fun s l hprog hmay => ?_) h hrun
  cases l with
  | abort j => exact (hcut s hmay).elim
  | step j answer => exact Sys.step_prog s j answer hprog

end Txn
