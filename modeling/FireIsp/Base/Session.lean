import Mathlib.Logic.Function.Basic
import FireIsp.Base.Alone
import FireIsp.Base.Run

/-!
# Interleaved sessions

Any number of request programs run against one store, one statement at a time in any
order.  An open transaction keeps its writes to itself until `COMMIT`; keys locked by
its statements are held until it ends, and a statement that needs a key held elsewhere
waits.  A session may also be cut off, which rolls its transaction back.
-/

namespace Txn

/-- One request in flight. -/
structure Session (σ W Op : Type) (Res : Op → Type) (Query : Type) (Answer : Query → Type)
    (A : Type) where
  /-- What is left to run; `none` once the session was cut off. -/
  prog : Option (Prog Op Res Query Answer A)
  tx : Option (Tx σ W)

/-- The store with all sessions on it. -/
structure Sys (σ W K Op : Type) (Res : Op → Type) (Query : Type) (Answer : Query → Type)
    (A : Type) where
  db : σ
  /-- Number of steps taken; also the next row id and the time. -/
  tick : Nat
  /-- Locked keys with the session holding each. -/
  held : List (Nat × K)
  sessions : Nat → Session σ W Op Res Query Answer A
  calls : List (Nat × Query)

/-- Scheduler choices. -/
inductive Label {Query : Type} (Answer : Query → Type)
  /-- Session `i` takes its next step; `answer` is what the outside world would reply. -/
  | step (i : Nat) (answer : (q : Query) → Answer q)
  | abort (i : Nat)

def Label.session {Query : Type} {Answer : Query → Type} : Label Answer → Nat
  | .step i _ => i
  | .abort i => i

variable {σ W K Op : Type} {Res : Op → Type} {Query : Type} {Answer : Query → Type} {A : Type}
  [DecidableEq K]

namespace Sys

/-- Keys not held by session `i`. -/
def releasedBy (held : List (Nat × K)) (i : Nat) : List (Nat × K) :=
  held.filter fun lock => lock.1 ≠ i

/-- Keys a statement waits for: on its own connection not those of its own transaction. -/
def blocked (held : List (Nat × K)) (i : Nat) (own : Bool) (wanted : List K) : Bool :=
  held.any fun lock => (!own || lock.1 ≠ i) && decide (lock.2 ∈ wanted)

/-- Whether the statement runs inside the session's transaction. -/
def inside (via : Via) (tx : Option (Tx σ W)) : Bool :=
  match via, tx with
  | .conn, some _ => true
  | _, _ => false

/-- State whose rows a statement locks. -/
def lockable (E : Engine σ W K Op Res) (via : Via) (db : σ) (tx : Option (Tx σ W)) : σ :=
  match via, tx with
  | .conn, some tx => E.current db tx
  | _, _ => db

/-- Keys a statement of the session locks. -/
def wanted (E : Engine σ W K Op Res) (via : Via) (op : Op) (db : σ) (tx : Option (Tx σ W)) :
    List K :=
  E.locks op (lockable E via db tx)

/-- One scheduler choice. -/
def step (E : Engine σ W K Op Res) (s : Sys σ W K Op Res Query Answer A) :
    Label Answer → Sys σ W K Op Res Query Answer A
  | .abort i =>
    { s with
      tick := s.tick + 1
      held := releasedBy s.held i
      sessions := Function.update s.sessions i ⟨none, none⟩ }
  | .step i answer =>
    let tx := (s.sessions i).tx
    match (s.sessions i).prog with
    | none => { s with tick := s.tick + 1 }
    | some (.done _) => { s with tick := s.tick + 1 }
    | some (.start next) =>
      { s with
        db := E.settled s.db tx
        tick := s.tick + 1
        held := releasedBy s.held i
        sessions := Function.update s.sessions i ⟨some next, some Tx.empty⟩ }
    | some (.commit next) =>
      { s with
        db := E.settled s.db tx
        tick := s.tick + 1
        held := releasedBy s.held i
        sessions := Function.update s.sessions i ⟨some next, none⟩ }
    | some (.rollback next) =>
      { s with
        tick := s.tick + 1
        held := releasedBy s.held i
        sessions := Function.update s.sessions i ⟨some next, none⟩ }
    | some (.stmt via op next) =>
      if blocked s.held i (inside via tx) (wanted E via op s.db tx) then
        { s with tick := s.tick + 1 }
      else
        let r := E.perform via op s.tick s.db tx
        { s with
          db := r.db
          tick := s.tick + 1
          held := if inside via tx then
              s.held ++ (wanted E via op s.db tx).map fun k => (i, k)
            else s.held
          sessions := Function.update s.sessions i ⟨some (next r.value), r.tx⟩ }
    | some (.call query next) =>
      { s with
        tick := s.tick + 1
        sessions := Function.update s.sessions i ⟨some (next (answer query)), tx⟩
        calls := s.calls ++ [(i, query)] }

end Sys

/-- What one step can do to the committed state, the lock table and its own session. -/
inductive Move (E : Engine σ W K Op Res) (i tick : Nat) (db : σ) (held : List (Nat × K)) :
    Session σ W Op Res Query Answer A → σ → List (Nat × K) →
      Session σ W Op Res Query Answer A → Prop
  /-- The session has ended or waits for a lock. -/
  | idle (sess) : Move E i tick db held sess db held sess
  | abort (sess) : Move E i tick db held sess db (Sys.releasedBy held i) ⟨none, none⟩
  | start (next tx) :
      Move E i tick db held ⟨some (.start next), tx⟩ (E.settled db tx) (Sys.releasedBy held i)
        ⟨some next, some Tx.empty⟩
  | commit (next tx) :
      Move E i tick db held ⟨some (.commit next), tx⟩ (E.settled db tx) (Sys.releasedBy held i)
        ⟨some next, none⟩
  | rollback (next tx) :
      Move E i tick db held ⟨some (.rollback next), tx⟩ db (Sys.releasedBy held i)
        ⟨some next, none⟩
  | auto (via op next tx) (hin : Sys.inside via tx = false)
      (hfree : Sys.blocked held i false (E.locks op db) = false) :
      Move E i tick db held ⟨some (.stmt via op next), tx⟩
        (E.visible db (E.exec op tick db db).2) held
        ⟨some (next (E.exec op tick db db).1), tx⟩
  | within (op next) (tx : Tx σ W)
      (hfree : Sys.blocked held i true (E.locks op (E.current db tx)) = false) :
      Move E i tick db held ⟨some (.stmt .conn op next), some tx⟩ db
        (held ++ (E.locks op (E.current db tx)).map fun k => (i, k))
        ⟨some (next (E.exec op tick (E.current db tx) (E.snapshot db (E.fix op db tx))).1),
          some { E.fix op db tx with
            writes := tx.writes ++
              (E.exec op tick (E.current db tx) (E.snapshot db (E.fix op db tx))).2 }⟩
  | call (query next tx) (answer : (q : Query) → Answer q) :
      Move E i tick db held ⟨some (.call query next), tx⟩ db held
        ⟨some (next (answer query)), tx⟩

namespace Sys

variable {E : Engine σ W K Op Res} {s : Sys σ W K Op Res Query Answer A}

theorem step_move (s : Sys σ W K Op Res Query Answer A) (l : Label Answer) :
    ∃ sess, Move E l.session s.tick s.db s.held (s.sessions l.session) (s.step E l).db
        (s.step E l).held sess ∧
      (s.step E l).sessions = Function.update s.sessions l.session sess ∧
      (s.step E l).tick = s.tick + 1 := by
  cases l with
  | abort i => exact ⟨_, .abort _, rfl, rfl⟩
  | step i answer =>
    rcases hsess : s.sessions i with ⟨prog, tx⟩
    have hself : Function.update s.sessions i ⟨prog, tx⟩ = s.sessions := by
      rw [← hsess, Function.update_eq_self]
    simp only [Label.session, hsess]
    match prog with
    | none => exact ⟨_, by simpa only [step, hsess] using .idle _, by
        simp only [step, hsess, hself], by simp only [step, hsess]⟩
    | some (.done value) => exact ⟨_, by simpa only [step, hsess] using .idle _, by
        simp only [step, hsess, hself], by simp only [step, hsess]⟩
    | some (.start next) => exact ⟨_, by simpa only [step, hsess] using .start next tx, by
        simp only [step, hsess], by simp only [step, hsess]⟩
    | some (.commit next) => exact ⟨_, by simpa only [step, hsess] using .commit next tx, by
        simp only [step, hsess], by simp only [step, hsess]⟩
    | some (.rollback next) => exact ⟨_, by simpa only [step, hsess] using .rollback next tx, by
        simp only [step, hsess], by simp only [step, hsess]⟩
    | some (.call query next) => exact ⟨_, by
        simpa only [step, hsess] using .call query next tx answer, by
        simp only [step, hsess], by simp only [step, hsess]⟩
    | some (.stmt via op next) =>
      by_cases hb : blocked s.held i (inside via tx) (wanted E via op s.db tx) = true
      · exact ⟨_, by simpa only [step, hsess, hb, if_true] using .idle _, by
          simp only [step, hsess, hb, if_true, hself], by
          simp only [step, hsess, hb, if_true]⟩
      · have hfree := Bool.eq_false_iff.mpr hb
        refine ⟨⟨some (next (E.perform via op s.tick s.db tx).value),
          (E.perform via op s.tick s.db tx).tx⟩, ?_, ?_, ?_⟩
        · simp only [step, hsess, hfree]
          cases via with
          | pool => exact .auto .pool op next tx rfl hfree
          | conn =>
            cases tx with
            | none => exact .auto .conn op next none rfl hfree
            | some tx => exact .within op next tx hfree
        · simp only [step, hsess, hfree, Bool.false_eq_true, if_false]
        · simp only [step, hsess, hfree, Bool.false_eq_true, if_false]

/-- No key is held by two sessions. -/
def Exclusive (held : List (Nat × K)) : Prop :=
  ∀ i j k, (i, k) ∈ held → (j, k) ∈ held → i = j

/-- Every statement a session can still send is allowed. -/
def Sends (allowed : Op → Prop) (sess : Session σ W Op Res Query Answer A) : Prop :=
  ∀ p, sess.prog = some p → p.Uses allowed

omit [DecidableEq K] in
theorem mem_releasedBy {held : List (Nat × K)} {i j : Nat} {k : K} :
    (j, k) ∈ releasedBy held i ↔ (j, k) ∈ held ∧ j ≠ i := by
  simp [releasedBy]

omit [DecidableEq K] in
theorem mem_releasedBy_other {held : List (Nat × K)} {i j : Nat} {k : K} (hj : j ≠ i)
    (hk : (j, k) ∈ held) : (j, k) ∈ releasedBy held i :=
  mem_releasedBy.mpr ⟨hk, hj⟩

omit [DecidableEq K] in
theorem exclusive_releasedBy {held : List (Nat × K)} {i : Nat} (h : Exclusive held) :
    Exclusive (releasedBy held i) :=
  fun a b k ha hb => h a b k (mem_releasedBy.mp ha).1 (mem_releasedBy.mp hb).1

omit [DecidableEq K] in
theorem exclusive_locked {held : List (Nat × K)} {i : Nat} {wanted : List K} (h : Exclusive held)
    (hfree : ∀ j k, (j, k) ∈ held → k ∈ wanted → j = i) :
    Exclusive (held ++ wanted.map fun k => (i, k)) := by
  intro a b k ha hb
  simp only [List.mem_append, List.mem_map, Prod.mk.injEq, exists_eq_right_right] at ha hb
  rcases ha with ha | ⟨ha, rfl⟩
  · rcases hb with hb | ⟨hb, rfl⟩
    · exact h a b k ha hb
    · exact hfree a k ha hb
  · rcases hb with hb | ⟨hb, rfl⟩
    · exact (hfree b k hb ha).symm
    · rfl

theorem blocked_false {held : List (Nat × K)} {i : Nat} {own : Bool} {wanted : List K}
    (h : blocked held i own wanted = false) {j : Nat} {k : K} (hj : (j, k) ∈ held)
    (hk : k ∈ wanted) : own = true ∧ j = i := by
  simp only [blocked, List.any_eq_false, Bool.and_eq_true, Bool.or_eq_true,
    Bool.not_eq_true', decide_eq_true_eq, not_and] at h
  have hlock := h (j, k) hj
  cases own with
  | false => exact absurd hk (hlock (Or.inl rfl))
  | true =>
    refine ⟨rfl, ?_⟩
    by_contra hne
    exact hlock (Or.inr hne) hk

end Sys

namespace Move

variable {E : Engine σ W K Op Res} {i tick : Nat} {db db' : σ} {held held' : List (Nat × K)}
  {sess sess' : Session σ W Op Res Query Answer A}

theorem sends {allowed : Op → Prop} (h : Move E i tick db held sess db' held' sess')
    (hs : Sys.Sends allowed sess) : Sys.Sends allowed sess' := by
  cases h with
  | idle => exact hs
  | abort => intro p hp; cases hp
  | start next tx => intro p hp; cases hp; exact hs (.start next) rfl
  | commit next tx => intro p hp; cases hp; exact hs (.commit next) rfl
  | rollback next tx => intro p hp; cases hp; exact hs (.rollback next) rfl
  | auto via op next tx hin hfree => intro p hp; cases hp; exact (hs _ rfl).2 _
  | within op next tx hfree => intro p hp; cases hp; exact (hs _ rfl).2 _
  | call query next tx answer => intro p hp; cases hp; exact hs _ rfl _

end Move

end Txn
