import Mathlib.Algebra.BigOperators.Group.List.Basic
import Mathlib.Algebra.Order.BigOperators.Group.List
import Mathlib.Algebra.Order.Group.Int
import Mathlib.Algebra.Ring.Int.Defs

/-!
# Pouring an amount over a list

An amount is handed out in list order, and every element takes what is due on it while anything
is left.  The portions are positive and within what is due, they add up to no more than the
amount, and nobody is served before those ahead of it have been served in full.
-/

namespace Pour

variable {α : Type*} (due : α → Int)

/-- Portions handed out in list order. -/
def pour : Int → List α → List (α × Int)
  | _, [] => []
  | amount, x :: xs =>
    if amount ≤ 0 then []
    else if due x ≤ 0 then pour amount xs
    else (x, min amount (due x)) :: pour (amount - min amount (due x)) xs

/-- What the portions add up to. -/
def poured (portions : List (α × Int)) : Int := (portions.map Prod.snd).sum

@[simp] theorem poured_nil : poured ([] : List (α × Int)) = 0 := rfl

@[simp] theorem poured_cons (portion : α × Int) (portions : List (α × Int)) :
    poured (portion :: portions) = portion.2 + poured portions := List.sum_cons

variable {due} {amount portion : Int} {x y : α} {xs : List α}

theorem pour_of_nonpos (h : amount ≤ 0) : pour due amount xs = [] := by
  cases xs with
  | nil => rfl
  | cons x xs => exact if_pos h

theorem of_mem_pour (h : (x, portion) ∈ pour due amount xs) :
    x ∈ xs ∧ 0 < portion ∧ portion ≤ due x := by
  induction xs generalizing amount with
  | nil => cases h
  | cons first xs ih =>
    rw [pour] at h
    split at h
    · cases h
    · split at h
      · exact ⟨List.mem_cons_of_mem _ (ih h).1, (ih h).2⟩
      · rcases List.mem_cons.mp h with heq | hrest
        · obtain ⟨rfl, rfl⟩ := Prod.mk.inj heq
          exact ⟨List.mem_cons_self, by omega, min_le_right _ _⟩
        · exact ⟨List.mem_cons_of_mem _ (ih hrest).1, (ih hrest).2⟩

theorem poured_le (h : 0 ≤ amount) : poured (pour due amount xs) ≤ amount := by
  induction xs generalizing amount with
  | nil => exact h
  | cons first xs ih =>
    rw [pour]
    split
    · exact h
    · split
      · exact ih h
      · have hrest : 0 ≤ amount - min amount (due first) := by omega
        have hsum := ih hrest
        rw [poured_cons]
        omega

theorem pour_append (amount : Int) (xs ys : List α) :
    pour due amount (xs ++ ys) =
      pour due amount xs ++ pour due (amount - poured (pour due amount xs)) ys := by
  induction xs generalizing amount with
  | nil => simp only [List.nil_append, pour, poured_nil, Int.sub_zero]
  | cons first xs ih =>
    rw [List.cons_append, pour, pour]
    split_ifs with hamount hskip
    · rw [poured_nil, Int.sub_zero, pour_of_nonpos hamount, List.append_nil]
    · exact ih amount
    · rw [ih, poured_cons, List.cons_append, Int.sub_sub]

theorem poured_eq_min (h : 0 ≤ amount) :
    poured (pour due amount xs) = min amount (xs.map fun x => max 0 (due x)).sum := by
  induction xs generalizing amount with
  | nil => simp only [pour, poured_nil, List.map_nil, List.sum_nil, min_eq_right h]
  | cons first xs ih =>
    have hrest : 0 ≤ (xs.map fun x => max 0 (due x)).sum :=
      List.sum_nonneg fun value hvalue => by
        obtain ⟨x, -, rfl⟩ := List.mem_map.mp hvalue
        exact le_max_left 0 (due x)
    rw [pour, List.map_cons, List.sum_cons]
    split_ifs with hamount hskip
    · rw [poured_nil]
      omega
    · rw [ih h]
      omega
    · have hleft : 0 ≤ amount - min amount (due first) := by omega
      rw [poured_cons, ih hleft]
      omega

theorem served_before {ahead : α → α → Prop} (hrefl : ∀ x, ahead x x)
    (hsorted : xs.Pairwise ahead) (hserved : (x, portion) ∈ pour due amount xs) (hy : y ∈ xs)
    (hahead : ¬ahead x y) (hdue : 0 < due y) : (y, due y) ∈ pour due amount xs := by
  induction xs generalizing amount with
  | nil => cases hy
  | cons first xs ih =>
    obtain ⟨hfirst, hsorted'⟩ := List.pairwise_cons.mp hsorted
    rw [pour] at hserved ⊢
    split at hserved
    · cases hserved
    · split at hserved
      · rename_i hamount hskip
        rw [if_neg hamount, if_pos hskip]
        rcases List.mem_cons.mp hy with rfl | hy'
        · omega
        · exact ih hsorted' hserved hy'
      · rename_i hamount hskip
        rw [if_neg hamount, if_neg hskip]
        rcases List.mem_cons.mp hserved with heq | hlater
        · -- the first element is ahead of everybody
          obtain ⟨rfl, -⟩ := Prod.mk.inj heq
          rcases List.mem_cons.mp hy with rfl | hy'
          · exact (hahead (hrefl _)).elim
          · exact (hahead (hfirst y hy')).elim
        · rcases List.mem_cons.mp hy with rfl | hy'
          · -- something was left for a later element, so the first one got all of its due
            have hleft : 0 < amount - min amount (due y) := by
              by_contra hnone
              rw [pour_of_nonpos (by omega)] at hlater
              cases hlater
            have hfull : min amount (due y) = due y := by omega
            rw [hfull]
            exact List.mem_cons_self
          · exact List.mem_cons_of_mem _ (ih hsorted' hlater hy')

end Pour
