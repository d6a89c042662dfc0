import Mathlib.Data.List.Basic
import Mathlib.Data.Option.Basic

/-!
# Runs of a total step function

A system is a state type with a total step function; a label that cannot fire
leaves the state as it is.  This file packages the induction over finite runs
once: guarded runs, invariants of guarded runs, and properties of every state a
run passes through.
-/

namespace Transition

variable {σ α : Type*}

/-- State reached by taking the labels of a list in order. -/
def run (step : σ → α → σ) (s : σ) (labels : List α) : σ :=
  labels.foldl step s

/-- Every label of the run satisfies `guard` in the state it is taken from. -/
def Along (step : σ → α → σ) (guard : σ → α → Prop) : σ → List α → Prop
  | _, [] => True
  | s, a :: labels => guard s a ∧ Along step guard (step s a) labels

variable {step : σ → α → σ} {guard : σ → α → Prop}

instance decidableAlong [∀ s a, Decidable (guard s a)] :
    ∀ (s : σ) (labels : List α), Decidable (Along step guard s labels)
  | _, [] => isTrue trivial
  | s, a :: labels =>
    have := decidableAlong (step s a) labels
    inferInstanceAs (Decidable (_ ∧ _))

@[simp] theorem run_nil (s : σ) : run step s [] = s := rfl

@[simp] theorem run_cons (s : σ) (a : α) (labels : List α) :
    run step s (a :: labels) = run step (step s a) labels := rfl

@[simp] theorem run_append (s : σ) (first second : List α) :
    run step s (first ++ second) = run step (run step s first) second :=
  List.foldl_append

@[simp] theorem along_nil (s : σ) : Along step guard s [] := trivial

@[simp] theorem along_cons (s : σ) (a : α) (labels : List α) :
    Along step guard s (a :: labels) ↔ guard s a ∧ Along step guard (step s a) labels :=
  Iff.rfl

variable {s : σ}

theorem along_append {first second : List α} :
    Along step guard s (first ++ second) ↔
      Along step guard s first ∧ Along step guard (run step s first) second := by
  induction first generalizing s with
  | nil => simp
  | cons a labels ih => simp only [List.cons_append, along_cons, ih, run_cons, and_assoc]

variable {labels : List α}

theorem Along.and {guard' : σ → α → Prop} (h : Along step guard s labels)
    (h' : Along step guard' s labels) :
    Along step (fun s a => guard s a ∧ guard' s a) s labels := by
  induction labels generalizing s with
  | nil => trivial
  | cons a labels ih => exact ⟨⟨h.1, h'.1⟩, ih h.2 h'.2⟩

variable {I : σ → Prop}

theorem run_invariant (hstep : ∀ s a, I s → guard s a → I (step s a)) (hinit : I s)
    (hrun : Along step guard s labels) :
    I (run step s labels) := by
  induction labels generalizing s with
  | nil => exact hinit
  | cons a labels ih => exact ih (hstep s a hinit hrun.1) hrun.2

theorem Along.kept {kept : σ → α → Prop} (hstep : ∀ s a, I s → guard s a → I (step s a))
    (hkept : ∀ s a, I s → guard s a → kept s a) (hinit : I s) (hrun : Along step guard s labels) :
    Along step kept s labels := by
  induction labels generalizing s with
  | nil => trivial
  | cons a labels ih => exact ⟨hkept s a hinit hrun.1, ih (hstep s a hinit hrun.1) hrun.2⟩

theorem run_preserves (hstep : ∀ s a, I s → I (step s a)) (hinit : I s) (labels : List α) :
    I (run step s labels) := by
  induction labels generalizing s with
  | nil => exact hinit
  | cons a labels ih => exact ih (hstep s a hinit)

end Transition

/-!
## Loops without a bound

A loop takes turns until one of them ends it.  It need not come to an end; one whose turns decrease a
measure does.
-/

namespace Loop

variable {σ : Type} {turn : σ → Option σ}

/-- The states a loop passes through. -/
inductive Reached (turn : σ → Option σ) (s : σ) : σ → Prop
  | start : Reached turn s s
  | next {t u : σ} : Reached turn s t → turn t = some u → Reached turn s u

/-- The state in which a loop ends, if it does so within some turns. -/
def last (turn : σ → Option σ) : Nat → σ → Option σ
  | 0, _ => none
  | fuel + 1, s =>
    match turn s with
    | none => some s
    | some t => last turn fuel t

/-- A loop comes to an end. -/
def Ends (turn : σ → Option σ) (s : σ) : Prop := ∃ fuel, (last turn fuel s).isSome

variable {s t : σ}

theorem Reached.head {u : σ} (hturn : turn s = some t) (h : Reached turn t u) :
    Reached turn s u := by
  induction h with
  | start => exact .next .start hturn
  | next _ hnext ih => exact .next ih hnext

variable {I : σ → Prop}

theorem Reached.kept (hstep : ∀ s t, I s → turn s = some t → I t) (h : Reached turn s t)
    (hinit : I s) : I t := by
  induction h with
  | start => exact hinit
  | next _ hnext ih => exact hstep _ _ ih hnext

theorem reached_last {fuel : Nat} (h : last turn fuel s = some t) :
    Reached turn s t ∧ turn t = none := by
  induction fuel generalizing s with
  | zero => exact nomatch h
  | succ fuel ih =>
    simp only [last] at h
    cases hturn : turn s with
    | none =>
      rw [hturn] at h
      obtain rfl := Option.some.inj h
      exact ⟨.start, hturn⟩
    | some u =>
      rw [hturn] at h
      obtain ⟨hreached, hnone⟩ := ih h
      exact ⟨hreached.head hturn, hnone⟩

theorem last_isSome (measure : σ → Nat)
    (hstep : ∀ s t, I s → turn s = some t → I t ∧ measure t < measure s) (hinit : I s) {fuel : Nat}
    (hfuel : measure s < fuel) : (last turn fuel s).isSome := by
  induction fuel generalizing s with
  | zero => omega
  | succ fuel ih =>
    simp only [last]
    cases hturn : turn s with
    | none => rfl
    | some t =>
      obtain ⟨hkept, hless⟩ := hstep s t hinit hturn
      exact ih hkept (by omega)

theorem ends_of_measure (measure : σ → Nat)
    (hstep : ∀ s t, I s → turn s = some t → I t ∧ measure t < measure s) (hinit : I s) :
    Ends turn s :=
  ⟨measure s + 1, last_isSome measure hstep hinit (Nat.lt_succ_self _)⟩

end Loop
