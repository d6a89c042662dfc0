import Mathlib.Data.List.Basic

/-!
# Entities

Texts with some symbols written as words, and what replacing all occurrences of a pattern makes of
them when the pattern is one of the words, or a symbol, or does not occur.
-/

namespace Entities

variable {A : Type} [DecidableEq A]

/-- `text.replace(/pattern/g, replacement)`, after `skip` symbols of a match. -/
def replaceFrom (pattern replacement : List A) : Nat → List A → List A
  | _, [] => []
  | skip + 1, _ :: rest => replaceFrom pattern replacement skip rest
  | 0, a :: rest =>
    if pattern.isPrefixOf (a :: rest) then
      replacement ++ replaceFrom pattern replacement (pattern.length - 1) rest
    else a :: replaceFrom pattern replacement 0 rest

/-- `text.replace(/pattern/g, replacement)`, for a pattern that is not empty. -/
def replaceAll (pattern replacement text : List A) : List A :=
  replaceFrom pattern replacement 0 text

/-- The word of a symbol. -/
def word (table : List (A × List A)) (a : A) : List A := (table.lookup a).getD [a]

/-- A text with the symbols of the table written as their words. -/
def encode (table : List (A × List A)) (text : List A) : List A := text.flatMap (word table)

/-- Neither word begins the other. -/
def Apart (v w : List A) : Prop := ¬v <+: w ∧ ¬w <+: v

instance decidableApart (v w : List A) : Decidable (Apart v w) := instDecidableAnd

omit [DecidableEq A] in
theorem Apart.not_prefix {v w : List A} (h : Apart v w) (rest : List A) : ¬v <+: w ++ rest :=
  fun hv => (List.prefix_or_prefix_of_prefix hv (List.prefix_append w rest)).elim h.1 h.2

variable {mark a : A} {body replacement : List A} {table : List (A × List A)}

theorem replaceFrom_append {w : List A} (hw : mark ∉ w) (rest : List A) :
    replaceFrom (mark :: body) replacement 0 (w ++ rest) =
      w ++ replaceFrom (mark :: body) replacement 0 rest := by
  induction w with
  | nil => rfl
  | cons b w ih =>
    rw [List.mem_cons, not_or] at hw
    have hne : (mark :: body).isPrefixOf (b :: (w ++ rest)) = false := by
      simp only [List.isPrefixOf, Bool.and_eq_false_iff, beq_eq_false_iff_ne]
      exact Or.inl hw.1
    rw [List.cons_append, replaceFrom, hne, if_neg Bool.false_ne_true, ih hw.2, List.cons_append]

theorem replaceFrom_skip (w rest : List A) :
    replaceFrom (mark :: body) replacement w.length (w ++ rest) =
      replaceFrom (mark :: body) replacement 0 rest := by
  induction w with
  | nil => rfl
  | cons b w ih => exact ih

def Replaces (pattern replacement : List A) (table replaced : List (A × List A)) : Prop :=
  pattern ≠ [] ∧
    (∀ entry ∈ table, (∀ mark ∈ pattern.head?, mark ∉ entry.2.tail) ∧ word table entry.1 = entry.2 ∧
      (entry.2 = pattern ∧ word replaced entry.1 = replacement ∨
        Apart pattern entry.2 ∧ word replaced entry.1 = entry.2)) ∧
    ∀ mark ∈ pattern.head?,
      (mark ∈ table.map Prod.fst ∨ pattern = [mark] ∧ word replaced mark = replacement) ∧
        ∀ entry ∈ replaced, entry.1 = mark ∨ entry.1 ∈ table.map Prod.fst

instance decidableReplaces (pattern replacement : List A) (table replaced : List (A × List A)) :
    Decidable (Replaces pattern replacement table replaced) := instDecidableAnd

theorem word_of_not_mem {b : A} (h : ∀ entry ∈ table, entry.1 ≠ b) : word table b = [b] := by
  have hnone : table.lookup b = none := List.lookup_eq_none_iff.mpr fun entry hentry =>
    bne_iff_ne.mpr (h entry hentry).symm
  rw [word, hnone, Option.getD_none]

theorem Replaces.word {replaced : List (A × List A)}
    (h : Replaces (mark :: body) replacement table replaced) (b : A) :
    mark ∉ (word table b).tail ∧
      (word table b = mark :: body ∧ word replaced b = replacement ∨
        Apart (mark :: body) (word table b) ∧ word replaced b = word table b) := by
  obtain ⟨-, hwords, hmark⟩ := h
  obtain ⟨hmark, hkeys⟩ := hmark mark rfl
  by_cases hb : ∃ entry ∈ table, entry.1 = b
  · obtain ⟨entry, hentry, rfl⟩ := hb
    obtain ⟨htail, hword, hcases⟩ := hwords entry hentry
    rw [hword]
    exact ⟨htail mark rfl, hcases⟩
  · have hne : ∀ entry ∈ table, entry.1 ≠ b := fun entry hentry heq => hb ⟨entry, hentry, heq⟩
    rw [word_of_not_mem hne]
    refine ⟨List.not_mem_nil, ?_⟩
    by_cases heq : b = mark
    · subst heq
      rcases hmark with hmem | ⟨hpattern, hmark⟩
      · obtain ⟨entry, hentry, heq⟩ := List.mem_map.mp hmem
        exact absurd heq (hne entry hentry)
      · exact Or.inl ⟨hpattern.symm, hmark⟩
    · refine Or.inr ⟨⟨fun hle => heq ?_, fun hle => heq ?_⟩, word_of_not_mem fun entry hentry hkey => ?_⟩
      · exact (List.cons_prefix_cons.mp hle).1.symm
      · exact (List.cons_prefix_cons.mp hle).1
      · rcases hkeys entry hentry with hmark | hmem
        · exact heq (hkey ▸ hmark)
        · obtain ⟨other, hother, hfst⟩ := List.mem_map.mp hmem
          exact hne other hother (hfst.trans hkey)

theorem replaceAll_encode {pattern : List A} {replaced : List (A × List A)}
    (h : Replaces pattern replacement table replaced) (text : List A) :
    replaceAll pattern replacement (encode table text) = encode replaced text := by
  obtain ⟨mark, body, rfl⟩ := List.exists_cons_of_ne_nil h.1
  unfold replaceAll encode
  induction text with
  | nil => rfl
  | cons b text ih =>
    rw [List.flatMap_cons, List.flatMap_cons, ← ih]
    obtain ⟨htail, ⟨hword, hreplaced⟩ | ⟨hapart, hreplaced⟩⟩ := h.word b
    · have hmatch : (mark :: body).isPrefixOf (mark :: (body ++ text.flatMap (word table))) = true :=
        List.isPrefixOf_iff_prefix.mpr (List.prefix_append (mark :: body) _)
      rw [hreplaced, hword, List.cons_append, replaceFrom, if_pos hmatch]
      exact congrArg _ (replaceFrom_skip body _)
    · have hmiss := hapart.not_prefix (text.flatMap (word table))
      rw [hreplaced]
      cases hword : word table b with
      | nil => rfl
      | cons c w =>
        rw [hword, List.tail_cons] at htail
        rw [hword, List.cons_append] at hmiss
        rw [List.cons_append, replaceFrom,
          if_neg fun h => hmiss (List.isPrefixOf_iff_prefix.mp h), replaceFrom_append htail]
        rfl

/-- What begins with a mark in an encoded text begins with a word, if a mark only begins words. -/
theorem word_prefix (hmark : ∀ b, mark ∉ (word table b).tail) {before after text : List A}
    (h : encode table text = before ++ mark :: after) :
    ∃ b, (word table b).head? = some mark ∧ word table b <+: mark :: after := by
  unfold encode at h
  induction text generalizing before with
  | nil => exact absurd h (by simp)
  | cons b text ih =>
    rw [List.flatMap_cons] at h
    rcases List.append_eq_append_iff.mp h with ⟨rest, rfl, hrest⟩ | ⟨rest, hword, hrest⟩
    · exact ih hrest
    · cases rest with
      | nil => exact @ih [] hrest.symm
      | cons c rest =>
        obtain ⟨rfl, rfl⟩ := List.cons.inj hrest
        cases before with
        | nil => exact ⟨b, by rw [hword]; rfl, by rw [hword]; exact ⟨_, rfl⟩⟩
        | cons d before =>
          refine absurd ?_ (hmark b)
          rw [hword]
          simp

end Entities
