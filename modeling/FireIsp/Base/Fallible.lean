import Mathlib.Logic.Basic

/-!
# Checks that may throw

A check throws or lets the computation go on; a computation that ends well ran every check.
-/

namespace Fallible

variable {ε α β : Type}

def refuseIf (condition : Prop) [Decidable condition] (error : ε) : Except ε Unit :=
  if condition then throw error else pure ()

theorem refuseIf_ok {condition : Prop} [Decidable condition] {error : ε} {u : Unit}
    (h : refuseIf condition error = .ok u) : ¬condition := by
  unfold refuseIf at h
  split at h
  · nomatch h
  · assumption

theorem ok_of_bind {x : Except ε α} {f : α → Except ε β} {b : β}
    (h : (x >>= f) = .ok b) : ∃ a, x = .ok a ∧ f a = .ok b := by
  cases x with
  | error e => nomatch h
  | ok a => exact ⟨a, rfl, h⟩

theorem ok_of_mapM {f : α → Except ε β} {xs : List α} {ys : List β}
    (h : xs.mapM f = .ok ys) : ∀ y ∈ ys, ∃ x ∈ xs, f x = .ok y := by
  induction xs generalizing ys with
  | nil =>
    cases h
    exact fun y hy => absurd hy List.not_mem_nil
  | cons x xs ih =>
    rw [List.mapM_cons] at h
    obtain ⟨y, hy, h⟩ := ok_of_bind h
    obtain ⟨rest, hrest, h⟩ := ok_of_bind h
    cases h
    intro z hz
    rcases List.mem_cons.mp hz with rfl | hz
    · exact ⟨x, List.mem_cons_self, hy⟩
    · obtain ⟨w, hw, hf⟩ := ih hrest z hz
      exact ⟨w, List.mem_cons_of_mem x hw, hf⟩

end Fallible
