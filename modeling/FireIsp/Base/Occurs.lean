import Mathlib.Data.List.Infix

/-!
# Words in texts of parts

Where a word is looked for in a text that is put together from parts.  A word that has no closing
delimiter before its last character does not run past one, and a word that begins with an opening
delimiter, or has none, does not run into one.
-/

namespace Occurs

variable {A : Type} {lt gt : A} {word x y : List A}

theorem infix_append_cases (h : word <:+: x ++ y) :
    word <:+: x ∨ word <:+: y ∨
      ∃ first second, first ≠ [] ∧ second ≠ [] ∧ word = first ++ second ∧ first <:+ x ∧
        second <+: y := by
  obtain ⟨before, after, heq⟩ := h
  rcases List.append_eq_append_iff.mp heq with ⟨rest, hx, -⟩ | ⟨second, hx, hy⟩
  · exact .inl ⟨before, rest, hx.symm⟩
  · rcases List.append_eq_append_iff.mp hx with ⟨first, hfirst, hword⟩ | ⟨rest, -, hrest⟩
    · by_cases hnil : first = []
      · subst hnil
        exact .inr (.inl ⟨[], after, by rw [hy, hword]; rfl⟩)
      · by_cases hend : second = []
        · subst hend
          exact .inl ⟨before, [], by rw [hword, hfirst, List.append_nil, List.append_nil]⟩
        · exact .inr (.inr ⟨first, second, hnil, hend, hword, ⟨before, hfirst.symm⟩,
            ⟨after, hy.symm⟩⟩)
    · exact .inr (.inl ⟨rest, after, by rw [hy, hrest]⟩)

theorem infix_append_of_or (h : word <:+: x ∨ word <:+: y) : word <:+: x ++ y := by
  rcases h with h | h
  · exact h.trans (List.prefix_append x y).isInfix
  · exact h.trans (List.suffix_append x y).isInfix

theorem infix_append_of_last (hword : gt ∉ word.dropLast) (hx : x.getLast? = some gt) :
    word <:+: x ++ y ↔ word <:+: x ∨ word <:+: y := by
  refine ⟨fun h => ?_, infix_append_of_or⟩
  rcases infix_append_cases h with h | h | ⟨first, second, hfirst, hsecond, rfl, ⟨before, rfl⟩, -⟩
  · exact .inl h
  · exact .inr h
  · rw [List.getLast?_append_of_ne_nil _ hfirst] at hx
    rw [List.dropLast_append_of_ne_nil hsecond] at hword
    exact absurd (List.mem_append_left _ (List.mem_of_getLast? hx)) hword

theorem infix_append_of_first (hword : word.head? = some lt) (hx : lt ∉ x) :
    word <:+: x ++ y ↔ word <:+: y := by
  refine ⟨fun h => ?_, fun h => infix_append_of_or (.inr h)⟩
  have hmem : lt ∈ word := List.mem_of_head? hword
  rcases infix_append_cases h with h | h | ⟨first, second, hfirst, -, rfl, hsuffix, -⟩
  · exact absurd (h.subset hmem) hx
  · exact h
  · rw [List.head?_append_of_ne_nil _ hfirst] at hword
    exact absurd (hsuffix.subset (List.mem_of_head? hword)) hx

theorem infix_append_of_free (hword : lt ∉ word) (hy : y.head? = some lt) :
    word <:+: x ++ y ↔ word <:+: x ∨ word <:+: y := by
  refine ⟨fun h => ?_, infix_append_of_or⟩
  rcases infix_append_cases h with h | h | ⟨first, second, -, hsecond, rfl, -, ⟨after, rfl⟩⟩
  · exact .inl h
  · exact .inr h
  · rw [List.head?_append_of_ne_nil _ hsecond] at hy
    exact absurd (List.mem_append_right _ (List.mem_of_head? hy)) hword

/-- A text of parts: free text and markup by turns, and free text at the end. -/
def flat (parts : List (List A × List A)) (last : List A) : List A :=
  parts.flatMap (fun part => part.1 ++ part.2) ++ last

/-- Free text has no opening delimiters; markup begins and ends with a delimiter. -/
structure Tidy (lt gt : A) (parts : List (List A × List A)) (last : List A) : Prop where
  free : ∀ part ∈ parts, lt ∉ part.1
  begins : ∀ part ∈ parts, part.2.head? = some lt
  ends : ∀ part ∈ parts, part.2.getLast? = some gt
  last : lt ∉ last

section Parts

variable {part : List A × List A} {parts : List (List A × List A)} {last : List A}

theorem flat_cons : flat (part :: parts) last = (part.1 ++ part.2) ++ flat parts last := by
  unfold flat
  rw [List.flatMap_cons, List.append_assoc]

theorem Tidy.tail (h : Tidy lt gt (part :: parts) last) : Tidy lt gt parts last where
  free p hp := h.free p (List.mem_cons_of_mem part hp)
  begins p hp := h.begins p (List.mem_cons_of_mem part hp)
  ends p hp := h.ends p (List.mem_cons_of_mem part hp)
  last := h.last

theorem Tidy.infix_cons (h : Tidy lt gt (part :: parts) last) (hword : gt ∉ word.dropLast) :
    word <:+: flat (part :: parts) last ↔
      word <:+: part.1 ++ part.2 ∨ word <:+: flat parts last := by
  have hends := h.ends part List.mem_cons_self
  rw [flat_cons]
  refine infix_append_of_last hword ?_
  rw [List.getLast?_append, hends]
  rfl

theorem Tidy.infix_of_first (h : Tidy lt gt parts last) (hword : gt ∉ word.dropLast)
    (hfirst : word.head? = some lt) :
    word <:+: flat parts last ↔ ∃ part ∈ parts, word <:+: part.2 := by
  induction parts with
  | nil =>
    refine ⟨fun hlast => absurd (hlast.subset (List.mem_of_head? hfirst)) h.last, ?_⟩
    rintro ⟨_, hmem, -⟩
    exact nomatch hmem
  | cons part parts ih =>
    rw [h.infix_cons hword, ih h.tail,
      infix_append_of_first hfirst (h.free part List.mem_cons_self), List.exists_mem_cons_iff]

theorem Tidy.infix_of_free (h : Tidy lt gt parts last) (hword : gt ∉ word.dropLast)
    (hfree : lt ∉ word) :
    word <:+: flat parts last ↔
      (∃ part ∈ parts, word <:+: part.1 ∨ word <:+: part.2) ∨ word <:+: last := by
  induction parts with
  | nil =>
    refine ⟨.inr, ?_⟩
    rintro (⟨_, hmem, -⟩ | hlast)
    · exact nomatch hmem
    · exact hlast
  | cons part parts ih =>
    rw [h.infix_cons hword, ih h.tail,
      infix_append_of_free hfree (h.begins part List.mem_cons_self), List.exists_mem_cons_iff]
    exact or_assoc.symm

end Parts

end Occurs
