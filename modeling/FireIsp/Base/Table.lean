import Mathlib.Algebra.BigOperators.Group.Finset.Piecewise
import Mathlib.Algebra.BigOperators.Group.List.Basic
import Mathlib.Algebra.Order.BigOperators.Group.Finset
import Mathlib.Algebra.Order.Group.Int
import Mathlib.Data.List.Nodup
import Mathlib.Tactic.Ring

/-!
# Keyed tables

A table is a list of rows with a primary key.  `put` stores one row version: it
replaces the row of the same key or appends a new one.  The lemmas below say what
a lookup, a row membership and a sum over rows become after a `put`, which is all
that later proofs about SQL statements need.
-/

namespace Table

variable {ρ κ : Type*} [DecidableEq κ]

/-- Store one row version under its primary key. -/
def put (key : ρ → κ) (row : ρ) : List ρ → List ρ
  | [] => [row]
  | old :: rows => if key old = key row then row :: rows else old :: put key row rows

/-- Primary keys are pairwise distinct. -/
def Keyed (key : ρ → κ) (rows : List ρ) : Prop := (rows.map key).Nodup

/-- Store several row versions in order. -/
def putAll (key : ρ → κ) (rows news : List ρ) : List ρ :=
  news.foldl (fun acc row => put key row acc) rows

/-- Latest version of a key among stored versions. -/
def latest (key : ρ → κ) (k : κ) : List ρ → Option ρ
  | [] => none
  | row :: rows =>
    match latest key k rows with
    | some later => some later
    | none => if key row = k then some row else none

def find (key : ρ → κ) (k : κ) (rows : List ρ) : Option ρ := rows.find? fun row => key row = k

/-- Rewrite the rows of a primary key. -/
def modify (key : ρ → κ) (k : κ) (f : ρ → ρ) (rows : List ρ) : List ρ :=
  rows.map fun row => if key row = k then f row else row

/-- The first row that a search is about, with what it is searched by. -/
def search (p : ρ → Prop) [DecidablePred p] : List ρ → Option {row : ρ // p row}
  | [] => none
  | row :: rows => if h : p row then some ⟨row, h⟩ else search p rows

/-- Sum of a weight over all rows. -/
def total (w : ρ → Int) (rows : List ρ) : Int := (rows.map w).sum

def weightAt (key : ρ → κ) (w : ρ → Int) (k : κ) (rows : List ρ) : Int :=
  total (fun row => if key row = k then w row else 0) rows

variable {key : ρ → κ}

instance (rows : List ρ) : Decidable (Keyed key rows) :=
  inferInstanceAs (Decidable (List.Nodup _))

variable {rows : List ρ}

theorem mem_of_search {p : ρ → Prop} [DecidablePred p] {found : {row : ρ // p row}}
    (h : search p rows = some found) : found.1 ∈ rows := by
  induction rows with
  | nil => exact nomatch h
  | cons row rows ih =>
    rw [search] at h
    split_ifs at h with hrow
    · obtain rfl := Option.some.inj h
      exact List.mem_cons_self
    · exact List.mem_cons_of_mem _ (ih h)

variable {k : κ} {row : ρ}

theorem find_eq_some (h : Keyed key rows) :
    find key k rows = some row ↔ row ∈ rows ∧ key row = k := by
  unfold find
  refine ⟨fun hfind => ⟨List.mem_of_find?_eq_some hfind, ?_⟩, ?_⟩
  · simpa using List.find?_some hfind
  rintro ⟨hmem, rfl⟩
  cases hfound : rows.find? fun x => key x = key row with
  | none => exact absurd (decide_eq_true rfl) (List.find?_eq_none.mp hfound row hmem)
  | some found =>
    have hkey : key found = key row := by simpa using List.find?_some hfound
    rw [List.inj_on_of_nodup_map h (List.mem_of_find?_eq_some hfound) hmem hkey]

variable {f : ρ → ρ}

theorem map_key_modify (hf : ∀ row, key (f row) = key row) (rows : List ρ) :
    (modify key k f rows).map key = rows.map key := by
  rw [modify, List.map_map]
  refine List.map_congr_left fun row _ => ?_
  change key (if key row = k then f row else row) = key row
  split_ifs
  · exact hf row
  · rfl

theorem keyed_modify (h : Keyed key rows) (hf : ∀ row, key (f row) = key row) :
    Keyed key (modify key k f rows) := by
  unfold Keyed at h ⊢
  rw [map_key_modify hf]
  exact h

theorem find_modify {j : κ} (hf : ∀ row, key (f row) = key row) (rows : List ρ) :
    find key j (modify key k f rows) =
      if j = k then (find key j rows).map f else find key j rows := by
  unfold find modify
  induction rows with
  | nil => split_ifs <;> rfl
  | cons row rows ih =>
    simp only [List.map_cons, List.find?_cons, ih]
    by_cases hk : key row = k
    · subst hk
      by_cases hj : key row = j
      · subst hj
        simp [hf]
      · simp [hf, hj, Ne.symm hj]
    · by_cases hj : key row = j
      · have hjk : j ≠ k := fun h => hk (hj.trans h)
        simp [hj, hjk]
      · simp [hk, hj]

theorem find_append (k : κ) (rows rows' : List ρ) :
    find key k (rows ++ rows') = (find key k rows).or (find key k rows') := List.find?_append

theorem find_singleton (k : κ) (row : ρ) :
    find key k [row] = if key row = k then some row else none := by
  by_cases h : key row = k <;> simp [find, h]

theorem put_fresh (h : key row ∉ rows.map key) :
    put key row rows = rows ++ [row] := by
  induction rows with
  | nil => rfl
  | cons old rows ih =>
    simp only [List.map_cons, List.mem_cons, not_or] at h
    rw [put, if_neg (Ne.symm h.1), ih h.2, List.cons_append]

theorem find_put (k : κ) (row : ρ) (rows : List ρ) :
    find key k (put key row rows) = if key row = k then some row else find key k rows := by
  unfold find
  induction rows with
  | nil => by_cases h : key row = k <;> simp [put, h]
  | cons old rows ih =>
    by_cases hold : key old = key row
    · by_cases h : key row = k <;> simp [put, hold, h]
    · by_cases h : key row = k
      · have hne : key old ≠ k := fun heq => hold (heq.trans h.symm)
        simp [put, hne, ih, h]
      · rw [if_neg h] at ih ⊢
        simp only [put, if_neg hold, List.find?_cons, ih]

theorem map_key_put (row : ρ) (rows : List ρ) :
    (put key row rows).map key =
      if key row ∈ rows.map key then rows.map key else rows.map key ++ [key row] := by
  induction rows with
  | nil => simp [put]
  | cons old rows ih =>
    by_cases h : key old = key row
    · simp [put, h]
    · have h' : ¬key row = key old := fun e => h e.symm
      simp only [put, if_neg h, List.map_cons, ih, List.mem_cons, h', false_or]
      split <;> simp

theorem keyed_put (h : Keyed key rows) : Keyed key (put key row rows) := by
  unfold Keyed at *
  rw [map_key_put]
  split
  · exact h
  · rename_i hfresh
    exact List.nodup_append.mpr ⟨h, by simp, fun a ha b hb => by
      rw [List.mem_singleton] at hb
      rintro rfl
      exact hfresh (hb ▸ ha)⟩

theorem mem_put {x : ρ} (h : Keyed key rows) :
    x ∈ put key row rows ↔ x = row ∨ (x ∈ rows ∧ key x ≠ key row) := by
  induction rows with
  | nil => simp [put]
  | cons old rows ih =>
    have hrest : Keyed key rows := (List.nodup_cons.mp h).2
    have hnot : key old ∉ rows.map key := (List.nodup_cons.mp h).1
    by_cases hk : key old = key row
    · have hother : ∀ y ∈ rows, key y ≠ key row := fun y hy e =>
        hnot (List.mem_map.mpr ⟨y, hy, e.trans hk.symm⟩)
      simp only [put, if_pos hk, List.mem_cons]
      constructor
      · rintro (rfl | hx)
        · exact Or.inl rfl
        · exact Or.inr ⟨Or.inr hx, hother x hx⟩
      · rintro (rfl | ⟨rfl | hx, hne⟩)
        · exact Or.inl rfl
        · exact absurd hk hne
        · exact Or.inr hx
    · simp only [put, if_neg hk, List.mem_cons, ih hrest]
      constructor
      · rintro (rfl | rfl | ⟨hx, hne⟩)
        · exact Or.inr ⟨Or.inl rfl, hk⟩
        · exact Or.inl rfl
        · exact Or.inr ⟨Or.inr hx, hne⟩
      · rintro (rfl | ⟨rfl | hx, hne⟩)
        · exact Or.inr (Or.inl rfl)
        · exact Or.inl rfl
        · exact Or.inr (Or.inr ⟨hx, hne⟩)

variable {p : ρ → Bool}

theorem filter_put (hrow : p row = false) (hold : ∀ old ∈ rows, key old = key row → p old = false) :
    (put key row rows).filter p = rows.filter p := by
  induction rows with
  | nil => simp [put, hrow]
  | cons old rows ih =>
    have hrest := ih fun x hx => hold x (List.mem_cons_of_mem _ hx)
    by_cases h : key old = key row
    · have hfirst := hold old List.mem_cons_self h
      simp [put, h, hrow, hfirst]
    · simp only [put, if_neg h, List.filter_cons, hrest]

theorem mem_of_mem_put {x : ρ} (h : x ∈ put key row rows) :
    x = row ∨ x ∈ rows := by
  induction rows with
  | nil => exact Or.inl (List.mem_singleton.mp h)
  | cons old rows ih =>
    rw [put] at h
    split at h
    · rcases List.mem_cons.mp h with h | h
      · exact Or.inl h
      · exact Or.inr (List.mem_cons_of_mem _ h)
    · rcases List.mem_cons.mp h with h | h
      · exact Or.inr (h ▸ List.mem_cons_self)
      · exact (ih h).imp_right (List.mem_cons_of_mem _)

theorem map_put {β : Type*} {g : ρ → β} {old : ρ} (h : Keyed key rows) (hold : old ∈ rows)
    (hkey : key old = key row) (hg : g old = g row) :
    (put key row rows).map g = rows.map g := by
  induction rows with
  | nil => cases hold
  | cons first rows ih =>
    have hrest : Keyed key rows := (List.nodup_cons.mp h).2
    have hnot : key first ∉ rows.map key := (List.nodup_cons.mp h).1
    by_cases hk : key first = key row
    · rcases List.mem_cons.mp hold with rfl | hmem
      · rw [put, if_pos hk, List.map_cons, List.map_cons, hg]
      · exact absurd (List.mem_map.mpr ⟨old, hmem, hkey.trans hk.symm⟩) hnot
    · rcases List.mem_cons.mp hold with rfl | hmem
      · exact absurd hkey hk
      · rw [put, if_neg hk, List.map_cons, List.map_cons, ih hrest hmem]

theorem map_put_comm {g : ρ → ρ} (hkey : ∀ row, key (g row) = key row) (row : ρ) (rows : List ρ) :
    (put key row rows).map g = put key (g row) (rows.map g) := by
  induction rows with
  | nil => rfl
  | cons old rows ih =>
    by_cases h : key old = key row
    · simp [put, h, hkey]
    · simp [put, h, hkey, ih]

theorem put_middle {old : ρ} {before after : List ρ} (hkey : key old = key row)
    (hbefore : key row ∉ before.map key) :
    put key row (before ++ old :: after) = before ++ row :: after := by
  induction before with
  | nil => rw [List.nil_append, put, if_pos hkey, List.nil_append]
  | cons first before ih =>
    simp only [List.map_cons, List.mem_cons, not_or] at hbefore
    rw [List.cons_append, put, if_neg (Ne.symm hbefore.1), ih hbefore.2, List.cons_append]

theorem putAll_updates (h : Keyed key rows) (hkey : ∀ row, key (f row) = key row) :
    putAll key rows ((rows.filter p).map f) = rows.map fun row => if p row then f row else row := by
  have hmap : ∀ row, key (if p row then f row else row) = key row := fun row => by
    split
    · exact hkey row
    · rfl
  have hgeneral : ∀ before after : List ρ, Keyed key (before ++ after) →
      putAll key ((before.map fun row => if p row then f row else row) ++ after)
          ((after.filter p).map f) =
        (before ++ after).map fun row => if p row then f row else row := by
    intro before after hkeyed
    induction after generalizing before with
    | nil => simp [putAll]
    | cons row after ih =>
      have hshift : Keyed key ((before ++ [row]) ++ after) := by simpa using hkeyed
      have hnew : key row ∉ before.map key := fun hmem => by
        rw [Keyed, List.map_append, List.nodup_append] at hkeyed
        exact hkeyed.2.2 _ hmem _ (List.mem_map_of_mem List.mem_cons_self) rfl
      have hnew' : key (f row) ∉
          (before.map fun row => if p row then f row else row).map key := by
        rw [List.map_map, hkey]
        simpa only [Function.comp_def, hmap] using hnew
      have hih := ih (before ++ [row]) hshift
      cases hp : p row with
      | true =>
        rw [List.filter_cons_of_pos hp, List.map_cons, putAll, List.foldl_cons,
          put_middle (hkey row).symm hnew']
        simpa [putAll, hp] using hih
      | false =>
        rw [List.filter_cons_of_neg (by simp [hp])]
        simpa [hp] using hih
  simpa using hgeneral [] rows (by simpa using h)

omit [DecidableEq κ] in
theorem find?_eq_some (h : Keyed key rows) (hrow : row ∈ rows) (hp : p row = true)
    (hunique : ∀ x ∈ rows, p x = true → key x = key row) :
    rows.find? p = some row := by
  induction rows with
  | nil => cases hrow
  | cons first rows ih =>
    have hrest : Keyed key rows := (List.nodup_cons.mp h).2
    have hnot : key first ∉ rows.map key := (List.nodup_cons.mp h).1
    rcases List.mem_cons.mp hrow with rfl | hmem
    · exact List.find?_cons_of_pos hp
    · have hfirst : ¬p first = true := fun hpf =>
        hnot (hunique first List.mem_cons_self hpf ▸ List.mem_map_of_mem hmem)
      rw [List.find?_cons_of_neg hfirst]
      exact ih hrest hmem fun x hx => hunique x (List.mem_cons_of_mem _ hx)

theorem mem_put_self (row : ρ) (rows : List ρ) : row ∈ put key row rows := by
  induction rows with
  | nil => exact List.mem_singleton.mpr rfl
  | cons old rows ih =>
    rw [put]
    split
    · exact List.mem_cons_self
    · exact List.mem_cons_of_mem _ ih

theorem putAll_cons (row : ρ) (rows news : List ρ) :
    putAll key rows (row :: news) = putAll key (put key row rows) news := rfl

variable {news : List ρ}

theorem keyed_putAll (h : Keyed key rows) :
    Keyed key (putAll key rows news) := by
  induction news generalizing rows with
  | nil => exact h
  | cons row news ih => exact ih (keyed_put h)

theorem latest_eq_none : latest key k news = none ↔ k ∉ news.map key := by
  induction news with
  | nil => simp [latest]
  | cons row news ih =>
    rw [latest]
    cases hl : latest key k news with
    | some later =>
      rw [hl] at ih
      simp only [reduceCtorEq, false_iff, not_not] at ih
      simp [ih]
    | none =>
      rw [hl] at ih
      have hnot := ih.mp rfl
      by_cases hk : key row = k
      · simp [hk]
      · simp only [if_neg hk, List.map_cons, List.mem_cons, not_or, true_iff]
        exact ⟨Ne.symm hk, hnot⟩

theorem mem_putAll {x : ρ} (h : Keyed key rows) :
    x ∈ putAll key rows news ↔
      latest key (key x) news = some x ∨ (x ∈ rows ∧ key x ∉ news.map key) := by
  induction news generalizing rows with
  | nil => simp [putAll, latest]
  | cons row news ih =>
    rw [putAll_cons, ih (keyed_put h), mem_put h, latest]
    cases hl : latest key (key x) news with
    | some later =>
      have hmem : key x ∈ news.map key := by
        by_contra hn
        rw [latest_eq_none.mpr hn] at hl
        cases hl
      simp [hmem]
    | none =>
      have hnot := latest_eq_none.mp hl
      by_cases hk : key row = key x
      · have hmem : key x ∈ (row :: news).map key := by simp [hk]
        simp only [if_pos hk, Option.some.injEq, hmem, not_true_eq_false, and_false, or_false,
          reduceCtorEq, false_or]
        constructor
        · rintro ⟨rfl | ⟨-, hne⟩, -⟩
          · rfl
          · exact absurd hk.symm hne
        · rintro rfl
          exact ⟨Or.inl rfl, hnot⟩
      · have hne : x ≠ row := fun e => hk (e ▸ rfl)
        simp [hk, hne, hnot, Ne.symm hk]

section Weights

variable {w : ρ → Int}

omit [DecidableEq κ] in
@[simp] theorem total_nil : total w ([] : List ρ) = 0 := rfl

omit [DecidableEq κ] in
@[simp] theorem total_cons (row : ρ) (rows : List ρ) :
    total w (row :: rows) = w row + total w rows := List.sum_cons

omit [DecidableEq κ] in
@[simp] theorem total_append (rows rows' : List ρ) :
    total w (rows ++ rows') = total w rows + total w rows' := by
  rw [total, List.map_append, List.sum_append]
  rfl

variable {rows : List ρ}

omit [DecidableEq κ] in
theorem total_nonneg (h : ∀ row ∈ rows, 0 ≤ w row) : 0 ≤ total w rows :=
  List.sum_nonneg fun x hx => by
    obtain ⟨row, hrow, rfl⟩ := List.mem_map.mp hx
    exact h row hrow

variable {k : κ}

theorem weightAt_of_not_mem (h : k ∉ rows.map key) :
    weightAt key w k rows = 0 := by
  refine List.sum_eq_zero fun x hx => ?_
  obtain ⟨row, hrow, rfl⟩ := List.mem_map.mp hx
  exact if_neg fun e : key row = k => h (e ▸ List.mem_map_of_mem hrow)

variable {row : ρ}

theorem weightAt_of_mem (h : Keyed key rows) (hrow : row ∈ rows) :
    weightAt key w (key row) rows = w row := by
  induction rows with
  | nil => cases hrow
  | cons first rows ih =>
    have hrest : Keyed key rows := (List.nodup_cons.mp h).2
    have hnot : key first ∉ rows.map key := (List.nodup_cons.mp h).1
    rcases List.mem_cons.mp hrow with rfl | hmem
    · rw [weightAt, total_cons, if_pos rfl]
      exact (congrArg (w row + ·) (weightAt_of_not_mem hnot)).trans (add_zero _)
    · have hne : key first ≠ key row := fun e => hnot (e ▸ List.mem_map_of_mem hmem)
      rw [weightAt, total_cons, if_neg hne, zero_add]
      exact ih hrest hmem

theorem weightAt_nonneg (h : ∀ row ∈ rows, 0 ≤ w row) :
    0 ≤ weightAt key w k rows :=
  total_nonneg fun row hrow => by
    split
    · exact h row hrow
    · exact le_refl 0

theorem weightAt_put (h : Keyed key rows) :
    weightAt key w k (put key row rows) =
      if key row = k then w row else weightAt key w k rows := by
  induction rows with
  | nil =>
    rw [put, weightAt, total_cons, total_nil, add_zero]
    rfl
  | cons old rows ih =>
    have hrest : Keyed key rows := (List.nodup_cons.mp h).2
    have hnot : key old ∉ rows.map key := (List.nodup_cons.mp h).1
    have hcons : ∀ (row : ρ) (rows : List ρ), weightAt key w k (row :: rows) =
        (if key row = k then w row else 0) + weightAt key w k rows := fun row rows =>
      total_cons row rows
    by_cases hk : key old = key row
    · have hzero : weightAt key w (key row) rows = 0 := weightAt_of_not_mem (hk ▸ hnot)
      rw [put, if_pos hk, hcons, hcons, hk]
      split
      · rename_i hkey
        rw [← hkey, hzero, add_zero]
      · rfl
    · rw [put, if_neg hk, hcons, hcons, ih hrest]
      split
      · rename_i hkey
        split
        · rename_i hrow
          exact absurd (hkey.trans hrow.symm) hk
        · rfl
      · rw [zero_add, zero_add]

variable {news : List ρ}

theorem weightAt_putAll (h : Keyed key rows) :
    weightAt key w k (putAll key rows news) =
      match latest key k news with
      | some row => w row
      | none => weightAt key w k rows := by
  induction news generalizing rows with
  | nil => rfl
  | cons row news ih =>
    rw [putAll_cons, ih (keyed_put h), latest]
    cases latest key k news with
    | some later => rfl
    | none =>
      simp only [weightAt_put h]
      split <;> rfl

theorem mem_of_latest (h : latest key k news = some row) :
    row ∈ news ∧ key row = k := by
  induction news with
  | nil => cases h
  | cons first news ih =>
    rw [latest] at h
    cases hlater : latest key k news with
    | some later =>
      rw [hlater] at h
      obtain rfl := Option.some.inj h
      exact ⟨List.mem_cons_of_mem _ (ih hlater).1, (ih hlater).2⟩
    | none =>
      simp only [hlater] at h
      split at h
      · rename_i hkey
        obtain rfl := Option.some.inj h
        exact ⟨List.mem_cons_self, hkey⟩
      · cases h

theorem total_eq_sum {keys : Finset κ} (h : ∀ row ∈ rows, key row ∈ keys) :
    total w rows = ∑ k ∈ keys, weightAt key w k rows := by
  induction rows with
  | nil => simp [weightAt]
  | cons row rows ih =>
    have hrest := ih fun row hrow => h row (List.mem_cons_of_mem _ hrow)
    have hrow : (∑ k ∈ keys, if key row = k then w row else 0) = w row := by
      rw [Finset.sum_ite_eq]
      exact if_pos (h row List.mem_cons_self)
    simp only [weightAt, total_cons, Finset.sum_add_distrib, hrow]
    exact congrArg (w row + ·) hrest

omit [DecidableEq κ] in
theorem total_shift {w w' : ρ → Int} {c : Int} (h : Keyed key rows) (hrow : row ∈ rows)
    (hat : w' row = w row + c) (hother : ∀ x ∈ rows, key x ≠ key row → w' x = w x) :
    total w' rows = total w rows + c := by
  induction rows with
  | nil => cases hrow
  | cons first rows ih =>
    have hrest : Keyed key rows := (List.nodup_cons.mp h).2
    have hnot : key first ∉ rows.map key := (List.nodup_cons.mp h).1
    rw [total_cons, total_cons]
    rcases List.mem_cons.mp hrow with rfl | hmem
    · have hsame : total w' rows = total w rows := by
        refine congrArg List.sum (List.map_congr_left fun x hx => ?_)
        exact hother x (List.mem_cons_of_mem _ hx) fun e => hnot (e ▸ List.mem_map_of_mem hx)
      rw [hat, hsame]
      omega
    · have hne : key first ≠ key row := fun e => hnot (e ▸ List.mem_map_of_mem hmem)
      rw [hother first List.mem_cons_self hne,
        ih hrest hmem fun x hx => hother x (List.mem_cons_of_mem _ hx)]
      omega

theorem total_shift_pair {w w' : ρ → Int} {c d : Int} {first second : ρ} (h : Keyed key rows)
    (hfirst : first ∈ rows) (hsecond : second ∈ rows) (hne : key first ≠ key second)
    (hatFirst : w' first = w first + c) (hatSecond : w' second = w second + d)
    (hother : ∀ x ∈ rows, key x ≠ key first → key x ≠ key second → w' x = w x) :
    total w' rows = total w rows + c + d := by
  have hbetween : total (fun x => if key x = key first then w' x else w x) rows =
      total w rows + c :=
    total_shift h hfirst (by rw [if_pos rfl, hatFirst]) fun x _ hx => if_neg hx
  rw [← hbetween]
  refine total_shift h hsecond (by rw [if_neg hne.symm, hatSecond]) fun x hx hxSecond => ?_
  by_cases hxFirst : key x = key first
  · rw [if_pos hxFirst]
  · rw [if_neg hxFirst, hother x hx hxFirst hxSecond]

variable (key) in
theorem total_le_total {rows' : List ρ} (h : ∀ k, weightAt key w k rows ≤ weightAt key w k rows') :
    total w rows ≤ total w rows' := by
  have hsub : ∀ row ∈ rows, key row ∈ ((rows ++ rows').map key).toFinset := fun row hrow => by
    simp only [List.mem_toFinset, List.mem_map]
    exact ⟨row, List.mem_append_left _ hrow, rfl⟩
  have hsub' : ∀ row ∈ rows', key row ∈ ((rows ++ rows').map key).toFinset := fun row hrow => by
    simp only [List.mem_toFinset, List.mem_map]
    exact ⟨row, List.mem_append_right _ hrow, rfl⟩
  rw [total_eq_sum hsub, total_eq_sum hsub']
  exact Finset.sum_le_sum fun k _ => h k

theorem total_put_le (h : Keyed key rows) (hnonneg : ∀ row ∈ rows, 0 ≤ w row) (hrow : w row = 0) :
    total w (put key row rows) ≤ total w rows :=
  total_le_total key fun k => by
    rw [weightAt_put h]
    split
    · rw [hrow]
      exact weightAt_nonneg hnonneg
    · exact le_refl _

theorem total_put_fresh (h : key row ∉ rows.map key) :
    total w (put key row rows) = total w rows + w row := by
  rw [put_fresh h, total_append, total_cons, total_nil, add_zero]

theorem total_putAll_le_of_weightless (h : Keyed key rows) (hnonneg : ∀ row ∈ rows, 0 ≤ w row)
    (hnews : ∀ row ∈ news, w row = 0) :
    total w (putAll key rows news) ≤ total w rows := by
  induction news generalizing rows with
  | nil => exact le_refl _
  | cons row news ih =>
    have hrow : w row = 0 := hnews row List.mem_cons_self
    have hput : ∀ x ∈ put key row rows, 0 ≤ w x := fun x hx => by
      rcases mem_of_mem_put hx with rfl | hmem
      · exact hrow.ge
      · exact hnonneg x hmem
    exact (ih (keyed_put h) hput fun x hx => hnews x (List.mem_cons_of_mem _ hx)).trans
      (total_put_le h hnonneg hrow)

theorem total_putAll_le {below above : List ρ} (h : Keyed key rows)
    (hnonneg : ∀ row ∈ rows, 0 ≤ w row) (hbelow : ∀ row ∈ below, w row = 0) :
    total w (putAll key (putAll key rows below) above) ≤ total w (putAll key rows above) :=
  total_le_total key fun k => by
    have hleft : weightAt key w k (putAll key (putAll key rows below) above) = _ :=
      weightAt_putAll (keyed_putAll h)
    have hright : weightAt key w k (putAll key rows above) = _ := weightAt_putAll h
    rw [hleft, hright]
    cases latest key k above with
    | some row => exact le_refl (w row)
    | none =>
      have hlower : weightAt key w k (putAll key rows below) = _ := weightAt_putAll h
      change weightAt key w k (putAll key rows below) ≤ weightAt key w k rows
      rw [hlower]
      cases hlatest : latest key k below with
      | some row =>
        simp only [hbelow row (mem_of_latest hlatest).1]
        exact weightAt_nonneg hnonneg
      | none => exact le_refl (weightAt key w k rows)

theorem total_put (h : Keyed key rows) :
    total w (put key row rows) =
      total (fun x => if key x = key row then 0 else w x) rows + w row := by
  induction rows with
  | nil => simp [put]
  | cons old rows ih =>
    have hrest : Keyed key rows := (List.nodup_cons.mp h).2
    have hnot : key old ∉ rows.map key := (List.nodup_cons.mp h).1
    by_cases hk : key old = key row
    · have hsame : rows.map (fun x => if key x = key row then 0 else w x) = rows.map w :=
        List.map_congr_left fun x hx => if_neg fun e : key x = key row =>
          hnot (hk ▸ e ▸ List.mem_map_of_mem hx)
      rw [put, if_pos hk, total_cons, total_cons, if_pos hk, total, total, hsame]
      omega
    · rw [put, if_neg hk, total_cons, total_cons, if_neg hk, ih hrest]
      omega

theorem total_without (h : Keyed key rows) (hrow : row ∈ rows) :
    total (fun x => if key x = key row then 0 else w x) rows + w row = total w rows := by
  have hsplit : total w rows = total (fun x => if key x = key row then 0 else w x) rows +
      weightAt key w (key row) rows := by
    clear h hrow
    induction rows with
    | nil => rfl
    | cons first rows ih =>
      simp only [weightAt, total_cons] at ih ⊢
      split <;> omega
  rw [hsplit, weightAt_of_mem h hrow]

end Weights

end Table
