import FireIsp.Base.Program

/-!
# A program running alone

Sequential meaning of a request program: no other session takes a step between two
of its statements, so a transaction reads and extends one working copy.  `alone` is a
structural recursion, so a concrete request on a concrete database evaluates.
-/

namespace Txn

variable {σ W K Op : Type} {Res : Op → Type} {Query : Type} {Answer : Query → Type}
  {A B : Type}

/-- Everything a program leaves behind. -/
structure Outcome (A σ : Type) where
  value : A
  tick : Nat
  db : σ
  /-- Working copy of the handler's transaction, if one was left open. -/
  work : Option σ

/-- Run a program with no other session interleaved. -/
def alone (E : Engine σ W K Op Res) (world : Nat → (q : Query) → Answer q) :
    Prog Op Res Query Answer A → Nat → σ → Option σ → Outcome A σ
  | .done value, tick, db, work => ⟨value, tick, db, work⟩
  | .start next, tick, db, work =>
    alone E world next (tick + 1) (work.getD db) (some (work.getD db))
  | .commit next, tick, db, work => alone E world next (tick + 1) (work.getD db) none
  | .rollback next, tick, db, _ => alone E world next (tick + 1) db none
  | .stmt .conn op next, tick, db, some work =>
    alone E world (next (E.exec op tick work work).1) (tick + 1) db
      (some (E.visible work (E.exec op tick work work).2))
  | .stmt _ op next, tick, db, work =>
    alone E world (next (E.exec op tick db db).1) (tick + 1)
      (E.visible db (E.exec op tick db db).2) work
  | .call query next, tick, db, work => alone E world (next (world tick query)) (tick + 1) db work

variable {E : Engine σ W K Op Res} {world : Nat → (q : Query) → Answer q}

@[simp] theorem alone_done (value : A) (tick : Nat) (db : σ) (work : Option σ) :
    alone E world (.done value : Prog Op Res Query Answer A) tick db work =
      ⟨value, tick, db, work⟩ := rfl

@[simp] theorem alone_start (next : Prog Op Res Query Answer A) (tick : Nat) (db : σ)
    (work : Option σ) :
    alone E world (.start next) tick db work =
      alone E world next (tick + 1) (work.getD db) (some (work.getD db)) := rfl

@[simp] theorem alone_commit (next : Prog Op Res Query Answer A) (tick : Nat) (db : σ)
    (work : Option σ) :
    alone E world (.commit next) tick db work =
      alone E world next (tick + 1) (work.getD db) none := rfl

@[simp] theorem alone_rollback (next : Prog Op Res Query Answer A) (tick : Nat) (db : σ)
    (work : Option σ) :
    alone E world (.rollback next) tick db work = alone E world next (tick + 1) db none := rfl

@[simp] theorem alone_call (query : Query) (next : Answer query → Prog Op Res Query Answer A)
    (tick : Nat) (db : σ) (work : Option σ) :
    alone E world (.call query next) tick db work =
      alone E world (next (world tick query)) (tick + 1) db work := rfl

@[simp] theorem alone_pool (op : Op) (next : Res op → Prog Op Res Query Answer A)
    (tick : Nat) (db : σ) (work : Option σ) :
    alone E world (.stmt .pool op next) tick db work =
      alone E world (next (E.exec op tick db db).1) (tick + 1)
        (E.visible db (E.exec op tick db db).2) work := by
  cases work <;> rfl

@[simp] theorem alone_conn (op : Op) (next : Res op → Prog Op Res Query Answer A)
    (tick : Nat) (db work : σ) :
    alone E world (.stmt .conn op next) tick db (some work) =
      alone E world (next (E.exec op tick work work).1) (tick + 1) db
        (some (E.visible work (E.exec op tick work work).2)) := rfl

theorem alone_send_conn (op : Op) (f : Res op → Prog Op Res Query Answer A) (tick : Nat)
    (db work : σ) :
    alone E world (Prog.send .conn op >>= f) tick db (some work) =
      alone E world (f (E.exec op tick work work).1) (tick + 1) db
        (some (E.visible work (E.exec op tick work work).2)) := rfl

theorem alone_send_pool (op : Op) (f : Res op → Prog Op Res Query Answer A) (tick : Nat) (db : σ)
    (work : Option σ) :
    alone E world (Prog.send .pool op >>= f) tick db work =
      alone E world (f (E.exec op tick db db).1) (tick + 1)
        (E.visible db (E.exec op tick db db).2) work :=
  alone_pool op _ tick db work

theorem alone_bind (p : Prog Op Res Query Answer A) (f : A → Prog Op Res Query Answer B)
    (tick : Nat) (db : σ) (work : Option σ) :
    alone E world (p >>= f) tick db work =
      alone E world (f (alone E world p tick db work).value) (alone E world p tick db work).tick
        (alone E world p tick db work).db (alone E world p tick db work).work := by
  induction p generalizing tick db work with
  | done value => rfl
  | start next ih => exact ih _ _ _
  | commit next ih => exact ih _ _ _
  | rollback next ih => exact ih _ _ _
  | stmt via op next ih =>
    cases via
    · simp only [Prog.stmt_bind, alone_pool, ih]
    · cases work with
      | none => exact ih _ _ _ _
      | some work => exact ih _ _ _ _
  | call query next ih => exact ih _ _ _ _

theorem alone_tick_le (p : Prog Op Res Query Answer A) (tick : Nat) (db : σ) (work : Option σ) :
    tick ≤ (alone E world p tick db work).tick := by
  induction p generalizing tick db work with
  | done value => exact Nat.le_refl tick
  | start next ih => exact Nat.le_of_succ_le (ih _ _ _)
  | commit next ih => exact Nat.le_of_succ_le (ih _ _ _)
  | rollback next ih => exact Nat.le_of_succ_le (ih _ _ _)
  | call query next ih => exact Nat.le_of_succ_le (ih _ _ _ _)
  | stmt via op next ih =>
    cases via with
    | pool =>
      rw [alone_pool]
      exact Nat.le_of_succ_le (ih _ _ _ _)
    | conn =>
      cases work with
      | none => exact Nat.le_of_succ_le (ih _ _ _ _)
      | some work => exact Nat.le_of_succ_le (ih _ _ _ _)

/-- A property kept by every statement a program sends is kept by the program. -/
theorem alone_preserves {I : Nat → σ → Prop} {allowed : Op → Prop}
    (htick : ∀ tick db, I tick db → I (tick + 1) db)
    (hstmt : ∀ op, allowed op → ∀ tick db, I tick db →
      I (tick + 1) (E.visible db (E.exec op tick db db).2))
    {p : Prog Op Res Query Answer A} (hp : p.Uses allowed) {tick : Nat} {db : σ}
    {work : Option σ} (hdb : I tick db) (hwork : ∀ copy, work = some copy → I tick copy) :
    I (alone E world p tick db work).tick (alone E world p tick db work).db ∧
      ∀ copy, (alone E world p tick db work).work = some copy →
        I (alone E world p tick db work).tick copy := by
  have hsettled : ∀ {tick : Nat} {db : σ} {work : Option σ}, I tick db →
      (∀ copy, work = some copy → I tick copy) → I (tick + 1) (work.getD db) :=
    fun {tick db work} hdb hwork => by
      cases work with
      | none => exact htick _ _ hdb
      | some copy => exact htick _ _ (hwork copy rfl)
  induction p generalizing tick db work with
  | done value => exact ⟨hdb, hwork⟩
  | start next ih =>
    exact ih hp (hsettled hdb hwork) fun copy h => by cases h; exact hsettled hdb hwork
  | commit next ih => exact ih hp (hsettled hdb hwork) fun copy h => by cases h
  | rollback next ih => exact ih hp (htick _ _ hdb) fun copy h => by cases h
  | call query next ih =>
    exact ih _ (hp _) (htick _ _ hdb) fun copy h => htick _ _ (hwork copy h)
  | stmt via op next ih =>
    cases via with
    | pool =>
      rw [alone_pool]
      exact ih _ (hp.2 _) (hstmt op hp.1 tick db hdb) fun copy h => htick _ _ (hwork copy h)
    | conn =>
      cases work with
      | none => exact ih _ (hp.2 _) (hstmt op hp.1 tick db hdb) fun copy h => by cases h
      | some copy =>
        exact ih _ (hp.2 _) (htick _ _ hdb) fun copy' h => by
          cases h
          exact hstmt op hp.1 tick copy (hwork copy rfl)

theorem alone_unchanged {allowed : Op → Prop}
    (hread : ∀ op, allowed op → ∀ tick db, (E.exec op tick db db).2 = [])
    {p : Prog Op Res Query Answer A} (hp : p.Uses allowed) (tick : Nat) (db : σ) :
    (alone E world p tick db none).db = db := by
  refine (alone_preserves (I := fun _ state => state = db) (fun _ _ h => h) ?_ hp rfl
    fun copy h => by cases h).1
  rintro op hop tick state rfl
  rw [hread op hop]
  rfl

section Outside

/-- Outside of a transaction, the program ends in a value and a state with `post`. -/
def Ends (E : Engine σ W K Op Res) (world : Nat → (q : Query) → Answer q)
    (p : Prog Op Res Query Answer A) (tick : Nat) (db : σ) (post : A → Nat → σ → Prop) : Prop :=
  (alone E world p tick db none).work = none ∧
    post (alone E world p tick db none).value (alone E world p tick db none).tick
      (alone E world p tick db none).db

variable {db : σ} {tick : Nat} {post post' : A → Nat → σ → Prop}

theorem ends_pure {value : A} (h : post value tick db) :
    Ends E world (pure value) tick db post := ⟨rfl, h⟩

theorem ends_bind {p : Prog Op Res Query Answer A} {f : A → Prog Op Res Query Answer B}
    {post : B → Nat → σ → Prop}
    (h : Ends E world p tick db fun value tick db => Ends E world (f value) tick db post) :
    Ends E world (p >>= f) tick db post := by
  obtain ⟨hwork, hlast, hpost⟩ := h
  unfold Ends
  rw [alone_bind, hwork]
  exact ⟨hlast, hpost⟩

theorem Ends.mono {p : Prog Op Res Query Answer A} (hp : Ends E world p tick db post)
    (h : ∀ value tick db, post value tick db → post' value tick db) :
    Ends E world p tick db post' :=
  ⟨hp.1, h _ _ _ hp.2⟩

theorem ends_ask {query : Query} {post : Answer query → Nat → σ → Prop}
    (h : post (world tick query) (tick + 1) db) :
    Ends E world (Prog.ask query) tick db post := ⟨rfl, h⟩

theorem ends_pool {op : Op} {post : Res op → Nat → σ → Prop}
    (h : post (E.exec op tick db db).1 (tick + 1) (E.visible db (E.exec op tick db db).2)) :
    Ends E world (Prog.send .pool op) tick db post := ⟨rfl, h⟩

end Outside

section Inside

/-- Inside a transaction, the program ends in a working copy with `post` and commits nothing. -/
def Ensures (E : Engine σ W K Op Res) (world : Nat → (q : Query) → Answer q)
    (p : Prog Op Res Query Answer A) (tick : Nat) (db work : σ)
    (post : A → Nat → σ → Prop) : Prop :=
  ∃ copy, (alone E world p tick db (some work)).work = some copy ∧
    (alone E world p tick db (some work)).db = db ∧
    post (alone E world p tick db (some work)).value (alone E world p tick db (some work)).tick copy

variable {db work : σ} {tick : Nat} {post post' : A → Nat → σ → Prop}

theorem ensures_pure {value : A} (h : post value tick work) :
    Ensures E world (pure value) tick db work post :=
  ⟨work, rfl, rfl, h⟩

variable {p : Prog Op Res Query Answer A}

theorem ensures_bind {f : A → Prog Op Res Query Answer B} {post : B → Nat → σ → Prop}
    (h : Ensures E world p tick db work fun value tick copy =>
      Ensures E world (f value) tick db copy post) :
    Ensures E world (p >>= f) tick db work post := by
  obtain ⟨copy, hwork, hdb, last, hlast, hdb', hpost⟩ := h
  unfold Ensures
  rw [alone_bind, hwork, hdb]
  exact ⟨last, hlast, hdb', hpost⟩

theorem ensures_conn {op : Op} {f : Res op → Prog Op Res Query Answer A}
    (h : Ensures E world (f (E.exec op tick work work).1) (tick + 1) db
      (E.visible work (E.exec op tick work work).2) post) :
    Ensures E world (Prog.send .conn op >>= f) tick db work post := h

theorem ensures_read {op : Op} {r : Res op} {f : Res op → Prog Op Res Query Answer A}
    (hexec : E.exec op tick work work = (r, []))
    (h : Ensures E world (f r) (tick + 1) db work post) :
    Ensures E world (Prog.send .conn op >>= f) tick db work post := by
  refine ensures_conn ?_
  rw [hexec]
  exact h

theorem Ensures.mono (hp : Ensures E world p tick db work post)
    (h : ∀ value tick copy, post value tick copy → post' value tick copy) :
    Ensures E world p tick db work post' := by
  obtain ⟨copy, hwork, hdb, hpost⟩ := hp
  exact ⟨copy, hwork, hdb, h _ _ _ hpost⟩

theorem Ensures.and (hp : Ensures E world p tick db work post)
    (hp' : Ensures E world p tick db work post') :
    Ensures E world p tick db work fun value tick copy =>
      post value tick copy ∧ post' value tick copy := by
  obtain ⟨copy, hwork, hdb, hpost⟩ := hp
  obtain ⟨copy', hwork', -, hpost'⟩ := hp'
  obtain rfl : copy = copy' := Option.some.inj (hwork.symm.trans hwork')
  exact ⟨copy, hwork, hdb, hpost, hpost'⟩

end Inside

section Yields

/-- Answered by one world, the program ends with `post` at whatever tick it starts. -/
def Yields (E : Engine σ W K Op Res) (world : (q : Query) → Answer q)
    (p : Prog Op Res Query Answer A) (db : σ) (work : Option σ)
    (post : A → σ → Option σ → Prop) : Prop :=
  ∀ tick, post (alone E (fun _ => world) p tick db work).value
    (alone E (fun _ => world) p tick db work).db (alone E (fun _ => world) p tick db work).work

variable {world : (q : Query) → Answer q} {db : σ} {work : Option σ}
  {post post' : A → σ → Option σ → Prop}

theorem yields_pure {value : A} (h : post value db work) :
    Yields E world (pure value) db work post :=
  fun _ => h

variable {p : Prog Op Res Query Answer A}

theorem yields_bind {f : A → Prog Op Res Query Answer B} {post : B → σ → Option σ → Prop}
    (h : Yields E world p db work fun value db work => Yields E world (f value) db work post) :
    Yields E world (p >>= f) db work post := by
  intro tick
  rw [alone_bind]
  exact h tick _

theorem Yields.mono (hp : Yields E world p db work post)
    (h : ∀ value db work, post value db work → post' value db work) :
    Yields E world p db work post' :=
  fun tick => h _ _ _ (hp tick)

theorem yields_ask {query : Query} {f : Answer query → Prog Op Res Query Answer A}
    (h : Yields E world (f (world query)) db work post) :
    Yields E world (Prog.ask query >>= f) db work post :=
  fun tick => h (tick + 1)

theorem yields_pool {op : Op} {f : Res op → Prog Op Res Query Answer A}
    (h : ∀ tick, Yields E world (f (E.exec op tick db db).1)
      (E.visible db (E.exec op tick db db).2) work post) :
    Yields E world (Prog.send .pool op >>= f) db work post := by
  intro tick
  rw [alone_send_pool]
  exact h tick (tick + 1)

theorem yields_conn {op : Op} {copy : σ} {f : Res op → Prog Op Res Query Answer A}
    (h : ∀ tick, Yields E world (f (E.exec op tick copy copy).1) db
      (some (E.visible copy (E.exec op tick copy copy).2)) post) :
    Yields E world (Prog.send .conn op >>= f) db (some copy) post :=
  fun tick => h tick (tick + 1)

theorem yields_start (h : Yields E world p (work.getD db) (some (work.getD db)) post) :
    Yields E world (.start p) db work post :=
  fun tick => h (tick + 1)

theorem yields_commit (h : Yields E world p (work.getD db) none post) :
    Yields E world (.commit p) db work post :=
  fun tick => h (tick + 1)

theorem yields_rollback (h : Yields E world p db none post) :
    Yields E world (.rollback p) db work post :=
  fun tick => h (tick + 1)

end Yields

end Txn
