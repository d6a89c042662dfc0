import Mathlib.Algebra.BigOperators.Group.List.Basic
import Mathlib.Algebra.Order.BigOperators.Group.List
import Mathlib.Algebra.Order.Field.Rat
import Mathlib.Data.List.ReduceOption
import Mathlib.Data.List.Sort
import Mathlib.Tactic.FieldSimp
import Mathlib.Tactic.Linarith

/-!
# Successive elements and means

The pairs of neighbours of a list.  In a list that is sorted by a key, neighbours of different keys have
no key between theirs, and two lists with the same keys have the same pairs of keys.  The mean of the
figures that there are among some places tells which places have one, once the sum is not zero.
-/

namespace Successive

section Pairs

variable {α κ : Type*}

/-- The pairs of neighbours. -/
def pairs (xs : List α) : List (α × α) := xs.zip xs.tail

@[simp] theorem pairs_nil : pairs ([] : List α) = [] := rfl

@[simp] theorem pairs_singleton (x : α) : pairs [x] = [] := rfl

@[simp] theorem pairs_cons_cons (x y : α) (xs : List α) :
    pairs (x :: y :: xs) = (x, y) :: pairs (y :: xs) := rfl

theorem pairs_append (ahead : List α) (a b : α) (behind : List α) :
    pairs (ahead ++ a :: b :: behind) = pairs (ahead ++ [a]) ++ (a, b) :: pairs (b :: behind) := by
  induction ahead with
  | nil => rfl
  | cons x ahead ih =>
    cases ahead with
    | nil => rfl
    | cons y ahead =>
      simp only [List.cons_append, pairs_cons_cons] at ih ⊢
      rw [ih]

variable {a b : α}

theorem mem_pairs {xs : List α} :
    (a, b) ∈ pairs xs ↔ ∃ ahead behind, xs = ahead ++ a :: b :: behind := by
  constructor
  · intro h
    induction xs with
    | nil => exact nomatch h
    | cons x xs ih =>
      cases xs with
      | nil => exact nomatch h
      | cons y xs =>
        rw [pairs_cons_cons, List.mem_cons] at h
        rcases h with h | h
        · obtain ⟨rfl, rfl⟩ := Prod.mk.inj h
          exact ⟨[], xs, rfl⟩
        · obtain ⟨ahead, behind, heq⟩ := ih h
          exact ⟨x :: ahead, behind, by rw [heq, List.cons_append]⟩
  · rintro ⟨ahead, behind, rfl⟩
    rw [pairs_append]
    simp

theorem map_pairs (key : α → κ) (xs : List α) :
    (pairs xs).map (Prod.map key key) = pairs (xs.map key) := by
  rw [pairs, pairs, ← List.map_tail, List.zip_map]

theorem forall₂_pairs {key : α → κ} {xs ys : List α} (h : xs.map key = ys.map key) :
    List.Forall₂ (fun p q => p ∈ pairs xs ∧ q ∈ pairs ys ∧
      key p.1 = key q.1 ∧ key p.2 = key q.2) (pairs xs) (pairs ys) := by
  have hkeys : (pairs xs).map (Prod.map key key) = (pairs ys).map (Prod.map key key) := by
    rw [map_pairs, map_pairs, h]
  have hlength : (pairs xs).length = (pairs ys).length := by
    simpa only [List.length_map] using congrArg List.length hkeys
  rw [List.forall₂_iff_get]
  constructor
  · exact hlength
  · intro i hi hj
    have hat : Prod.map key key ((pairs xs).get ⟨i, hi⟩) =
        Prod.map key key ((pairs ys).get ⟨i, hj⟩) := by
      rw [List.get_eq_getElem, List.get_eq_getElem]
      have hsome := congrArg (fun keys => keys[i]?) hkeys
      simpa only [List.getElem?_map, List.getElem?_eq_getElem hi, List.getElem?_eq_getElem hj,
        Option.map_some, Option.some.injEq] using hsome
    exact ⟨List.get_mem _ _, List.get_mem _ _, (Prod.ext_iff.mp hat).1, (Prod.ext_iff.mp hat).2⟩

theorem exists_related {β ν : Type*} {R : α → β → Prop} {f : α → ν} {g : β → ν} {xs : List α}
    {ys : List β} (h : List.Forall₂ R xs ys) (hvalues : xs.map f = ys.map g) {x : α} (hx : x ∈ xs) :
    ∃ y ∈ ys, R x y ∧ f x = g y := by
  induction h with
  | nil => exact absurd hx List.not_mem_nil
  | @cons a b xs ys hab _ ih =>
    rw [List.map_cons, List.map_cons, List.cons.injEq] at hvalues
    rcases List.mem_cons.mp hx with rfl | hx
    · exact ⟨b, List.mem_cons_self, hab, hvalues.1⟩
    · obtain ⟨y, hy, hxy⟩ := ih hvalues.2 hx
      exact ⟨y, List.mem_cons_of_mem _ hy, hxy⟩

variable [LinearOrder κ] {key : α → κ} {xs : List α}

/-- Two elements with no key between theirs. -/
def Consecutive (key : α → κ) (xs : List α) (a b : α) : Prop :=
  a ∈ xs ∧ b ∈ xs ∧ key a < key b ∧ ∀ x ∈ xs, key x ≤ key a ∨ key b ≤ key x

theorem Consecutive.perm {ys : List α} (hperm : xs.Perm ys) (h : Consecutive key xs a b) :
    Consecutive key ys a b :=
  ⟨hperm.mem_iff.mp h.1, hperm.mem_iff.mp h.2.1, h.2.2.1,
    fun x hx => h.2.2.2 x (hperm.mem_iff.mpr hx)⟩

theorem le_of_cut {ahead behind : List α}
    (hsorted : (ahead ++ a :: b :: behind).Pairwise fun x y => key x ≤ key y) :
    (∀ x ∈ ahead ++ [a], key x ≤ key a) ∧ ∀ x ∈ b :: behind, key b ≤ key x := by
  rw [List.pairwise_append, List.pairwise_cons, List.pairwise_cons] at hsorted
  obtain ⟨-, ⟨-, hbehind, -⟩, hahead⟩ := hsorted
  constructor
  · intro x hx
    rw [List.mem_append, List.mem_singleton] at hx
    rcases hx with hx | rfl
    · exact hahead x hx a List.mem_cons_self
    · exact le_rfl
  · intro x hx
    rcases List.mem_cons.mp hx with rfl | hx
    · exact le_rfl
    · exact hbehind x hx

theorem consecutive_of_mem_pairs (hsorted : xs.Pairwise fun x y => key x ≤ key y)
    (h : (a, b) ∈ pairs xs) (hlt : key a < key b) : Consecutive key xs a b := by
  obtain ⟨ahead, behind, rfl⟩ := mem_pairs.mp h
  obtain ⟨hahead, hbehind⟩ := le_of_cut hsorted
  refine ⟨by simp, by simp, hlt, fun x hx => ?_⟩
  rw [List.append_cons, List.mem_append] at hx
  exact hx.imp (hahead x) (hbehind x)

theorem exists_mem_pairs (hsorted : xs.Pairwise fun x y => key x ≤ key y) {k l : κ}
    (hk : k ∈ xs.map key) (hl : l ∈ xs.map key) (hlt : k < l)
    (hbetween : ∀ x ∈ xs, key x ≤ k ∨ l ≤ key x) : ∃ p ∈ pairs xs, key p.1 = k ∧ key p.2 = l := by
  induction xs with
  | nil => exact nomatch hk
  | cons x xs ih =>
    obtain ⟨hfirst, hrest⟩ := List.pairwise_cons.mp hsorted
    rw [List.map_cons, List.mem_cons] at hk hl
    have hle : ∀ {m : κ}, m = key x ∨ m ∈ xs.map key → key x ≤ m := by
      rintro m (rfl | hm)
      · exact le_rfl
      · obtain ⟨y, hy, rfl⟩ := List.mem_map.mp hm
        exact hfirst y hy
    have hlxs : l ∈ xs.map key := by
      rcases hl with rfl | hl
      · exact absurd (hle hk) (not_le.mpr hlt)
      · exact hl
    have hlater : ∀ y ∈ xs, key y ≤ k ∨ l ≤ key y := fun y hy =>
      hbetween y (List.mem_cons_of_mem _ hy)
    by_cases hkxs : k ∈ xs.map key
    · obtain ⟨p, hp, hkeys⟩ := ih hrest hkxs hlxs hlater
      cases xs with
      | nil => exact nomatch hp
      | cons y xs => exact ⟨p, List.mem_cons_of_mem _ hp, hkeys⟩
    · obtain rfl : k = key x := hk.resolve_right hkxs
      cases xs with
      | nil => exact nomatch hlxs
      | cons y xs =>
        have hyk : key y ≠ key x := by
          intro heq
          exact hkxs (List.mem_map.mpr ⟨y, List.mem_cons_self, heq⟩)
        have hyl : key y ≤ l := by
          obtain ⟨z, hz, rfl⟩ := List.mem_map.mp hlxs
          rcases List.mem_cons.mp hz with rfl | hz
          · exact le_rfl
          · exact (List.pairwise_cons.mp hrest).1 z hz
        have hly : l ≤ key y := (hlater y List.mem_cons_self).resolve_left fun hle =>
          hyk (le_antisymm hle (hfirst y List.mem_cons_self))
        exact ⟨(x, y), by simp, rfl, le_antisymm hyl hly⟩

theorem Consecutive.exists_mem_pairs (h : Consecutive key xs a b)
    (hsorted : xs.Pairwise fun x y => key x ≤ key y) :
    ∃ p ∈ pairs xs, key p.1 = key a ∧ key p.2 = key b :=
  Successive.exists_mem_pairs hsorted (List.mem_map_of_mem h.1) (List.mem_map_of_mem h.2.1) h.2.2.1
    h.2.2.2

/-- Between different keys the first has its least number, the second its greatest. -/
theorem extreme_of_mem_pairs {ν : Type*} [LinearOrder ν] {number : α → ν}
    (hsorted : xs.Pairwise fun x y => key x < key y ∨ key x = key y ∧ number y ≤ number x)
    (h : (a, b) ∈ pairs xs) (hlt : key a < key b) {x : α} (hx : x ∈ xs) :
    (key x = key a → number a ≤ number x) ∧ (key x = key b → number x ≤ number b) := by
  obtain ⟨ahead, behind, rfl⟩ := mem_pairs.mp h
  obtain ⟨hahead, hbehind⟩ := le_of_cut (hsorted.imp fun hxy => hxy.elim le_of_lt fun he => he.1.le)
  rw [List.append_cons, List.mem_append] at hx
  rw [List.pairwise_append, List.pairwise_cons, List.pairwise_cons] at hsorted
  obtain ⟨-, ⟨-, hb, -⟩, ha⟩ := hsorted
  constructor
  · intro hkey
    rcases hx with hx | hx
    · rcases List.mem_append.mp hx with hx | hx
      · rcases ha x hx a List.mem_cons_self with hxa | hxa
        · exact absurd hkey hxa.ne
        · exact hxa.2
      · rw [List.mem_singleton.mp hx]
    · exact absurd (hkey ▸ hbehind x hx) (not_le.mpr hlt)
  · intro hkey
    rcases hx with hx | hx
    · exact absurd (hkey ▸ hahead x hx) (not_le.mpr hlt)
    · rcases List.mem_cons.mp hx with rfl | hx
      · exact le_rfl
      · rcases hb x hx with hbx | hbx
        · exact absurd hkey.symm hbx.ne
        · exact hbx.2

end Pairs

section Means

def known (figures : List (Option ℚ)) : List ℚ := figures.reduceOption

theorem known_cons (figure : Option ℚ) (figures : List (Option ℚ)) :
    known (figure :: figures) = figure.toList ++ known figures := by
  cases figure with
  | none => exact List.reduceOption_cons_of_none _
  | some x => exact List.reduceOption_cons_of_some _ _

/-- The mean of the figures that there are, and zero where there is none. -/
def mean (figures : List (Option ℚ)) : ℚ :=
  if 0 < (known figures).length then (known figures).sum / (known figures).length else 0

theorem sum_known (figures : List (Option ℚ)) :
    (known figures).sum = (figures.map fun figure => figure.getD 0).sum := by
  induction figures with
  | nil => rfl
  | cons figure figures ih =>
    cases figure with
    | none => simpa [known] using ih
    | some x => simpa [known] using ih

theorem known_append (figures more : List (Option ℚ)) :
    known (figures ++ more) = known figures ++ known more := List.reduceOption_append _ _

variable {figures : List (Option ℚ)}

theorem known_eq_nil (h : ∀ figure ∈ figures, figure = none) :
    known figures = [] := by
  rw [known, List.eq_nil_iff_forall_not_mem]
  intro x hx
  have hsome := h _ (List.reduceOption_mem_iff.mp hx)
  cases hsome

theorem mean_eq_zero (h : ∀ figure ∈ figures, figure.getD 0 = 0) :
    mean figures = 0 := by
  have hsum : (known figures).sum = 0 := by
    rw [sum_known]
    apply List.sum_eq_zero
    intro x hx
    obtain ⟨figure, hfigure, rfl⟩ := List.mem_map.mp hx
    exact h figure hfigure
  rw [mean, hsum, zero_div, ite_self]

theorem mean_of_known {figure : Option ℚ} (h : known figures = figure.toList) :
    mean figures = figure.getD 0 := by
  cases figure with
  | none => simp [mean, h]
  | some x => simp [mean, h]

theorem eq_of_length_known {others : List (Option ℚ)}
    (h : List.Forall₂ (fun x y => x.getD 0 = y.getD 0 ∧ (y.isSome → x.isSome)) figures others) :
    (known others).length ≤ (known figures).length ∧
      ((known figures).length ≤ (known others).length → figures = others) := by
  induction h with
  | nil => simp
  | @cons x y xs ys hxy _ ih =>
    obtain ⟨hle, heq⟩ := ih
    cases x with
    | none =>
      cases y with
      | none =>
        simp only [known, List.reduceOption_cons_of_none] at hle heq ⊢
        exact ⟨hle, fun h => by rw [heq h]⟩
      | some y => exact absurd (hxy.2 rfl) (by simp)
    | some x =>
      cases y with
      | none =>
        simp only [known, List.reduceOption_cons_of_none, List.reduceOption_cons_of_some,
          List.length_cons] at hle heq ⊢
        exact ⟨by omega, fun h => absurd h (by omega)⟩
      | some y =>
        obtain rfl : x = y := hxy.1
        simp only [known, List.reduceOption_cons_of_some, List.length_cons] at hle heq ⊢
        exact ⟨by omega, fun h => by rw [heq (by omega)]⟩

theorem eq_of_mean {others : List (Option ℚ)}
    (h : List.Forall₂ (fun x y => x.getD 0 = y.getD 0 ∧ (y.isSome → x.isSome)) figures others)
    (hmean : mean figures = mean others) (hsum : (known figures).sum ≠ 0) : figures = others := by
  have hsums : (known figures).sum = (known others).sum := by
    rw [sum_known, sum_known]
    congr 1
    clear hmean hsum
    induction h with
    | nil => rfl
    | cons hxy _ ih => rw [List.map_cons, List.map_cons, hxy.1, ih]
  have hpos : ∀ {xs : List ℚ}, xs.sum ≠ 0 → 0 < xs.length := by
    intro xs hxs
    cases xs with
    | nil => exact absurd rfl hxs
    | cons x xs => exact Nat.succ_pos _
  have hposFigures := hpos hsum
  have hposOthers := hpos (hsums ▸ hsum)
  rw [mean, mean, if_pos hposFigures, if_pos hposOthers, ← hsums,
    div_eq_div_iff (Nat.cast_ne_zero.mpr hposFigures.ne') (Nat.cast_ne_zero.mpr hposOthers.ne'),
    mul_right_inj' hsum, Nat.cast_inj] at hmean
  exact (eq_of_length_known h).2 hmean.ge

end Means

end Successive
