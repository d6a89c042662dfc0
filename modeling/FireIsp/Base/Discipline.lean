import FireIsp.Base.Session

/-!
# Disciplines

What a request program knows between two statements, and which statements it may send with
that knowledge.  An invariant over the committed state, the locks and the knowledge of every
session, kept by each disciplined move, holds in every interleaving.
-/

namespace Txn

variable {σ W K Op : Type} {Res : Op → Type} {Query : Type} {Answer : Query → Type}
  {Know A B : Type}

/-- What a program may do next, given what it knows, and what it knows then. -/
structure Discipline (Know Op : Type) (Res : Op → Type) (Query : Type)
    (Answer : Query → Type) where
  started : Know → Option Know
  committed : Know → Option Know
  rolledBack : Know → Option Know
  sent : Know → Via → (op : Op) → Option (Res op → Know)
  asked : Know → (query : Query) → Option (Answer query → Know)

namespace Prog

variable {D : Discipline Know Op Res Query Answer}

/-- The program keeps to the discipline and ends with `post`. -/
def Follows (D : Discipline Know Op Res Query Answer) :
    Know → Prog Op Res Query Answer A → (A → Know → Prop) → Prop
  | know, done value, post => post value know
  | know, start next, post => ∃ know', D.started know = some know' ∧ next.Follows D know' post
  | know, commit next, post => ∃ know', D.committed know = some know' ∧ next.Follows D know' post
  | know, rollback next, post =>
    ∃ know', D.rolledBack know = some know' ∧ next.Follows D know' post
  | know, stmt via op next, post =>
    ∃ learn, D.sent know via op = some learn ∧ ∀ r, (next r).Follows D (learn r) post
  | know, call query next, post =>
    ∃ learn, D.asked know query = some learn ∧ ∀ r, (next r).Follows D (learn r) post

variable {post post' : A → Know → Prop} {post₂ : B → Know → Prop}

variable {know : Know} {p : Prog Op Res Query Answer A}

theorem Follows.bind {f : A → Prog Op Res Query Answer B} (hp : p.Follows D know post)
    (hf : ∀ value know, post value know → (f value).Follows D know post₂) :
    (p >>= f).Follows D know post₂ := by
  induction p generalizing know with
  | done value => exact hf value know hp
  | start next ih =>
    obtain ⟨know', hk, hn⟩ := hp
    exact ⟨know', hk, ih hn⟩
  | commit next ih =>
    obtain ⟨know', hk, hn⟩ := hp
    exact ⟨know', hk, ih hn⟩
  | rollback next ih =>
    obtain ⟨know', hk, hn⟩ := hp
    exact ⟨know', hk, ih hn⟩
  | stmt via op next ih =>
    obtain ⟨learn, hk, hn⟩ := hp
    exact ⟨learn, hk, fun r => ih r (hn r)⟩
  | call query next ih =>
    obtain ⟨learn, hk, hn⟩ := hp
    exact ⟨learn, hk, fun r => ih r (hn r)⟩

theorem Follows.mono (hp : p.Follows D know post)
    (h : ∀ value know, post value know → post' value know) :
    p.Follows D know post' := by
  rw [← bind_done p]
  exact hp.bind h

/-- The program opens and ends no transaction, and sends only statements that are allowed. -/
def Within (allowed : Via → Op → Prop) : Prog Op Res Query Answer A → Prop
  | done _ => True
  | start _ => False
  | commit _ => False
  | rollback _ => False
  | stmt via op next => allowed via op ∧ ∀ r, (next r).Within allowed
  | call _ next => ∀ r, (next r).Within allowed

variable {allowed : Via → Op → Prop}

theorem Within.bind {f : A → Prog Op Res Query Answer B} (hp : p.Within allowed)
    (hf : ∀ value, (f value).Within allowed) : (p >>= f).Within allowed := by
  induction p with
  | done value => exact hf value
  | start next ih => exact hp.elim
  | commit next ih => exact hp.elim
  | rollback next ih => exact hp.elim
  | stmt via op next ih => exact ⟨hp.1, fun r => ih r (hp.2 r)⟩
  | call query next ih => exact fun r => ih r (hp r)

theorem Follows.of_within_kept {kept : Know → Prop}
    (hsent : ∀ know via op, kept know → allowed via op →
      ∃ learn, D.sent know via op = some learn ∧ ∀ r, kept (learn r))
    (hasked : ∀ know query, kept know →
      ∃ learn, D.asked know query = some learn ∧ ∀ r, kept (learn r)) (hp : p.Within allowed)
    (hknow : kept know) :
    p.Follows D know fun _ => kept := by
  induction p generalizing know with
  | done value => exact hknow
  | start next ih => exact hp.elim
  | commit next ih => exact hp.elim
  | rollback next ih => exact hp.elim
  | stmt via op next ih =>
    obtain ⟨learn, hk, hkept⟩ := hsent know via op hknow hp.1
    exact ⟨learn, hk, fun r => ih r (hp.2 r) (hkept r)⟩
  | call query next ih =>
    obtain ⟨learn, hk, hkept⟩ := hasked know query hknow
    exact ⟨learn, hk, fun r => ih r (hp r) (hkept r)⟩

theorem Follows.of_within
    (hsent : ∀ via op, allowed via op → D.sent know via op = some fun _ => know)
    (hasked : ∀ query, D.asked know query = some fun _ => know) (hp : p.Within allowed) :
    p.Follows D know fun _ know' => know' = know := by
  refine of_within_kept (fun know' via op hknow hop => ?_) (fun know' query hknow => ?_) hp rfl
  · subst hknow
    exact ⟨_, hsent via op hop, fun _ => rfl⟩
  · subst hknow
    exact ⟨_, hasked query, fun _ => rfl⟩

end Prog

/-- A session as a discipline sees it. -/
structure Ghost (σ W Know : Type) where
  /-- What it knows; `none` once the session was cut off. -/
  know : Option Know
  tx : Option (Tx σ W)

structure Tracks (D : Discipline Know Op Res Query Answer)
    (sess : Session σ W Op Res Query Answer A) (ghost : Ghost σ W Know) : Prop where
  tx : sess.tx = ghost.tx
  follows : ∀ p, sess.prog = some p →
    ∃ know, ghost.know = some know ∧ p.Follows D know fun _ _ => True

/-- The session keeps to the discipline from what its ghost knows and ends with `post`. -/
structure TracksTo (D : Discipline Know Op Res Query Answer) (post : A → Know → Prop)
    (sess : Session σ W Op Res Query Answer A) (ghost : Ghost σ W Know) : Prop where
  tx : sess.tx = ghost.tx
  /-- What is left to run keeps to the discipline and ends with `post`. -/
  follows : ∀ p, sess.prog = some p → ∃ know, ghost.know = some know ∧ p.Follows D know post

theorem tracksTo_true {D : Discipline Know Op Res Query Answer}
    {sess : Session σ W Op Res Query Answer A} {ghost : Ghost σ W Know} :
    TracksTo D (fun _ _ => True) sess ghost ↔ Tracks D sess ghost :=
  ⟨fun h => ⟨h.tx, h.follows⟩, fun h => ⟨h.tx, h.follows⟩⟩

/-- What one step of a disciplined session can do to the committed state and the locks. -/
inductive Disciplined (E : Engine σ W K Op Res) (D : Discipline Know Op Res Query Answer)
    (i tick : Nat) (db : σ) (held : List (Nat × K)) :
    Ghost σ W Know → σ → List (Nat × K) → Ghost σ W Know → Prop
  /-- The session has ended or waits for a lock. -/
  | idle (ghost) : Disciplined E D i tick db held ghost db held ghost
  | abort (ghost) : Disciplined E D i tick db held ghost db (Sys.releasedBy held i) ⟨none, none⟩
  | start (know know' tx) (hk : D.started know = some know') :
      Disciplined E D i tick db held ⟨some know, tx⟩ (E.settled db tx) (Sys.releasedBy held i)
        ⟨some know', some Tx.empty⟩
  | commit (know know' tx) (hk : D.committed know = some know') :
      Disciplined E D i tick db held ⟨some know, tx⟩ (E.settled db tx) (Sys.releasedBy held i)
        ⟨some know', none⟩
  | rollback (know know' tx) (hk : D.rolledBack know = some know') :
      Disciplined E D i tick db held ⟨some know, tx⟩ db (Sys.releasedBy held i)
        ⟨some know', none⟩
  | auto (know via op learn tx) (hk : D.sent know via op = some learn)
      (hin : Sys.inside via tx = false)
      (hfree : ∀ j k, (j, k) ∈ held → k ∉ E.locks op db) :
      Disciplined E D i tick db held ⟨some know, tx⟩
        (E.visible db (E.exec op tick db db).2) held
        ⟨some (learn (E.exec op tick db db).1), tx⟩
  /-- A statement inside the open transaction. -/
  | within (know op learn) (tx : Tx σ W) (hk : D.sent know .conn op = some learn)
      (hfree : ∀ j k, (j, k) ∈ held → k ∈ E.locks op (E.current db tx) → j = i) :
      Disciplined E D i tick db held ⟨some know, some tx⟩ db
        (held ++ (E.locks op (E.current db tx)).map fun k => (i, k))
        ⟨some (learn (E.exec op tick (E.current db tx) (E.snapshot db (E.fix op db tx))).1),
          some { E.fix op db tx with
            writes := tx.writes ++
              (E.exec op tick (E.current db tx) (E.snapshot db (E.fix op db tx))).2 }⟩
  | call (know query learn tx) (hk : D.asked know query = some learn) (answer : Answer query) :
      Disciplined E D i tick db held ⟨some know, tx⟩ db held ⟨some (learn answer), tx⟩

namespace Disciplined

variable {E : Engine σ W K Op Res} {D : Discipline Know Op Res Query Answer} {i tick : Nat}
  {db db' : σ} {held held' : List (Nat × K)} {ghost ghost' : Ghost σ W Know}

theorem exclusive (h : Disciplined E D i tick db held ghost db' held' ghost')
    (hex : Sys.Exclusive held) : Sys.Exclusive held' := by
  have hreleased : Sys.Exclusive (Sys.releasedBy held i) := Sys.exclusive_releasedBy hex
  cases h with
  | idle => exact hex
  | abort => exact hreleased
  | start know know' tx hk => exact hreleased
  | commit know know' tx hk => exact hreleased
  | rollback know know' tx hk => exact hreleased
  | auto know via op learn tx hk hin hfree => exact hex
  | within know op learn tx hk hfree => exact Sys.exclusive_locked hex hfree
  | call know query learn tx hk answer => exact hex

theorem held_other (h : Disciplined E D i tick db held ghost db' held' ghost') {j : Nat} {k : K}
    (hj : j ≠ i) (hk : (j, k) ∈ held) : (j, k) ∈ held' := by
  have hreleased : (j, k) ∈ Sys.releasedBy held i := Sys.mem_releasedBy_other hj hk
  cases h with
  | idle => exact hk
  | abort => exact hreleased
  | start know know' tx hk => exact hreleased
  | commit know know' tx hk => exact hreleased
  | rollback know know' tx hk => exact hreleased
  | auto know via op learn tx hk' hin hfree => exact hk
  | within know op learn tx hk' hfree => exact List.mem_append_left _ hk
  | call know query learn tx hk' answer => exact hk

end Disciplined

variable [DecidableEq K] {E : Engine σ W K Op Res} {D : Discipline Know Op Res Query Answer}

theorem Move.disciplinedTo {post : A → Know → Prop} {i tick : Nat} {db db' : σ} {held held' : List (Nat × K)}
    {sess sess' : Session σ W Op Res Query Answer A} {ghost : Ghost σ W Know}
    (h : Move E i tick db held sess db' held' sess') (ht : TracksTo D post sess ghost) :
    ∃ ghost', Disciplined E D i tick db held ghost db' held' ghost' ∧
      TracksTo D post sess' ghost' := by
  obtain ⟨know, tx⟩ := ghost
  cases h with
  | idle => exact ⟨_, .idle _, ht⟩
  | abort => exact ⟨_, .abort _, rfl, fun p hp => nomatch hp⟩
  | start next tx' =>
    obtain ⟨_, rfl, know', hk, hn⟩ := ht.follows _ rfl
    obtain rfl : tx' = tx := ht.tx
    exact ⟨_, .start _ know' _ hk, rfl, fun p hp => ⟨know', rfl, by cases hp; exact hn⟩⟩
  | commit next tx' =>
    obtain ⟨_, rfl, know', hk, hn⟩ := ht.follows _ rfl
    obtain rfl : tx' = tx := ht.tx
    exact ⟨_, .commit _ know' _ hk, rfl, fun p hp => ⟨know', rfl, by cases hp; exact hn⟩⟩
  | rollback next tx' =>
    obtain ⟨_, rfl, know', hk, hn⟩ := ht.follows _ rfl
    obtain rfl : tx' = tx := ht.tx
    exact ⟨_, .rollback _ know' _ hk, rfl, fun p hp => ⟨know', rfl, by cases hp; exact hn⟩⟩
  | auto via op next tx' hin hfree =>
    obtain ⟨_, rfl, learn, hk, hn⟩ := ht.follows _ rfl
    obtain rfl : tx' = tx := ht.tx
    refine ⟨_, .auto _ via op learn _ hk hin ?_, rfl, fun p hp => ⟨_, rfl, ?_⟩⟩
    · intro j k hj hk
      exact Bool.false_ne_true (Sys.blocked_false hfree hj hk).1
    · cases hp
      exact hn _
  | within op next tx' hfree =>
    obtain ⟨_, rfl, learn, hk, hn⟩ := ht.follows _ rfl
    obtain rfl : some tx' = tx := ht.tx
    refine ⟨_, .within _ op learn tx' hk ?_, rfl, fun p hp => ⟨_, rfl, ?_⟩⟩
    · intro j k hj hk
      exact (Sys.blocked_false hfree hj hk).2
    · cases hp
      exact hn _
  | call query next tx' answer =>
    obtain ⟨_, rfl, learn, hk, hn⟩ := ht.follows _ rfl
    obtain rfl : tx' = tx := ht.tx
    refine ⟨_, .call _ query learn _ hk (answer query), rfl, fun p hp => ⟨_, rfl, ?_⟩⟩
    cases hp
    exact hn _

/-- Every session keeps to the discipline with its end, and the ghosts satisfy `Inv`. -/
def Sys.KeptTo (D : Discipline Know Op Res Query Answer) (post : A → Know → Prop)
    (Inv : Nat → σ → List (Nat × K) → (Nat → Ghost σ W Know) → Prop)
    (s : Sys σ W K Op Res Query Answer A) : Prop :=
  ∃ ghosts, Inv s.tick s.db s.held ghosts ∧ ∀ i, TracksTo D post (s.sessions i) (ghosts i)

variable {s : Sys σ W K Op Res Query Answer A}

theorem Sys.step_disciplined {post : A → Know → Prop} {ghosts : Nat → Ghost σ W Know}
    (hs : ∀ i, TracksTo D post (s.sessions i) (ghosts i)) (l : Label Answer) :
    ∃ ghost', Disciplined E D l.session s.tick s.db s.held (ghosts l.session) (s.step E l).db
        (s.step E l).held ghost' ∧
      ∀ i, TracksTo D post ((s.step E l).sessions i) (Function.update ghosts l.session ghost' i) := by
  obtain ⟨sess', hmove, hsess, -⟩ := Sys.step_move (E := E) s l
  obtain ⟨ghost', hd, ht'⟩ := hmove.disciplinedTo (hs l.session)
  refine ⟨ghost', hd, fun j => ?_⟩
  rw [hsess]
  by_cases hj : j = l.session
  · subst hj
    rw [Function.update_self, Function.update_self]
    exact ht'
  · rw [Function.update_of_ne hj, Function.update_of_ne hj]
    exact hs j

theorem Sys.step_tick (s : Sys σ W K Op Res Query Answer A) (l : Label Answer) :
    (s.step E l).tick = s.tick + 1 := by
  obtain ⟨sess', -, -, htick⟩ := Sys.step_move (E := E) s l
  exact htick

theorem Sys.run_keptTo {post : A → Know → Prop}
    {Inv : Nat → σ → List (Nat × K) → (Nat → Ghost σ W Know) → Prop}
    (hstep : ∀ i tick db held ghosts db' held' ghost', Inv tick db held ghosts →
      Disciplined E D i tick db held (ghosts i) db' held' ghost' →
      Inv (tick + 1) db' held' (Function.update ghosts i ghost')) (hs : s.KeptTo D post Inv)
    (labels : List (Label Answer)) : (Transition.run (Sys.step E) s labels).KeptTo D post Inv := by
  refine Transition.run_preserves (fun s l hs => ?_) hs labels
  obtain ⟨ghosts, hinv, htrack⟩ := hs
  obtain ⟨ghost', hd, htrack'⟩ := Sys.step_disciplined (E := E) htrack l
  refine ⟨Function.update ghosts l.session ghost', ?_, htrack'⟩
  rw [Sys.step_tick]
  exact hstep _ _ _ _ _ _ _ _ hinv hd

/-- Every session keeps to the discipline and the ghosts satisfy `Inv`. -/
def Sys.Kept (D : Discipline Know Op Res Query Answer)
    (Inv : Nat → σ → List (Nat × K) → (Nat → Ghost σ W Know) → Prop)
    (s : Sys σ W K Op Res Query Answer A) : Prop :=
  ∃ ghosts, Inv s.tick s.db s.held ghosts ∧ ∀ i, Tracks D (s.sessions i) (ghosts i)

theorem Sys.run_kept {Inv : Nat → σ → List (Nat × K) → (Nat → Ghost σ W Know) → Prop}
    (hstep : ∀ i tick db held ghosts db' held' ghost', Inv tick db held ghosts →
      Disciplined E D i tick db held (ghosts i) db' held' ghost' →
      Inv (tick + 1) db' held' (Function.update ghosts i ghost')) (hs : s.Kept D Inv)
    (labels : List (Label Answer)) :
    (Transition.run (Sys.step E) s labels).Kept D Inv := by
  obtain ⟨ghosts, hinv, htrack⟩ := hs
  obtain ⟨ghosts', hinv', htrack'⟩ := Sys.run_keptTo hstep
    ⟨ghosts, hinv, fun i => tracksTo_true.mpr (htrack i)⟩ labels
  exact ⟨ghosts', hinv', fun i => tracksTo_true.mp (htrack' i)⟩

end Txn
