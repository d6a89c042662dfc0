import FireIsp.Base.Regex

/-!
# Patterns on markup

A text of tags between two delimiters, with text between the tags.  A pattern that looks for an
opening tag, a group, and a closing tag finds on the text what is found on the list of its pieces.
-/

namespace Markup

open Regex

variable {A : Type}

/-- A piece of markup. -/
inductive Piece (A : Type)
  | text (content : List A)
  | tag (content : List A)

/-- The delimiters of tags. -/
structure Delimiters (A : Type) where
  lt : A
  gt : A
  ne : lt ≠ gt

variable (D : Delimiters A)

def Piece.flat : Piece A → List A
  | .text content => content
  | .tag content => D.lt :: content ++ [D.gt]

/-- The text of some pieces. -/
def flatten (pieces : List (Piece A)) : List A := pieces.flatMap (Piece.flat D)

/-- The delimiters are where they belong. -/
def Piece.Plain : Piece A → Prop
  | .text content => D.lt ∉ content
  | .tag content => D.lt ∉ content ∧ D.gt ∉ content

instance [DecidableEq A] : (piece : Piece A) → Decidable (piece.Plain D)
  | .text content => inferInstanceAs (Decidable (D.lt ∉ content))
  | .tag content => inferInstanceAs (Decidable (D.lt ∉ content ∧ D.gt ∉ content))

/-- What a pattern asks of the two tags. -/
structure Element (A : Type) where
  opens : List (Item A)
  closes : List (Item A)

/-- No item runs past a tag. -/
structure Element.Inside (E : Element A) : Prop where
  opens : ∀ item ∈ E.opens, item.Avoids D.gt
  closes : ∀ item ∈ E.closes, item.Avoids D.gt

/-- An opening tag, a group, and a closing tag. -/
def Element.pattern [DecidableEq A] (E : Element A) : Pattern A :=
  ⟨exactly D.lt :: (E.opens ++ [exactly D.gt]), exactly D.lt :: (E.closes ++ [exactly D.gt])⟩

/-- The pieces before and behind the first closing tag. -/
def Element.close (E : Element A) : List (Piece A) → Option (List (Piece A) × List (Piece A))
  | [] => none
  | .text content :: pieces => (E.close pieces).map fun found => (.text content :: found.1, found.2)
  | .tag content :: pieces =>
    if accepts E.closes content then some ([], pieces)
    else (E.close pieces).map fun found => (.tag content :: found.1, found.2)

/-- The pieces in and behind the first element. -/
def Element.find (E : Element A) : List (Piece A) → Option (List (Piece A) × List (Piece A))
  | [] => none
  | .text _ :: pieces => E.find pieces
  | .tag content :: pieces =>
    (if accepts E.opens content then E.close pieces else none) <|> E.find pieces

variable {D} {E : Element A}

@[simp] theorem flatten_nil : flatten D [] = [] := rfl

@[simp] theorem flatten_cons (piece : Piece A) (pieces : List (Piece A)) :
    flatten D (piece :: pieces) = piece.flat D ++ flatten D pieces := rfl

@[simp] theorem flatten_append (before after : List (Piece A)) :
    flatten D (before ++ after) = flatten D before ++ flatten D after := List.flatMap_append

variable {R : Type}

theorem capture_append {next : List A → List A → Option R} {before : List A}
    (hnone : ∀ taken c rest, c ∈ before → next taken (c :: rest) = none) (after : List A) :
    capture next (before ++ after) = capture (fun taken => next (before ++ taken)) after := by
  induction before generalizing next with
  | nil => rfl
  | cons c before ih =>
    change (next [] (c :: (before ++ after))).orElse (fun _ =>
      capture (fun taken => next (c :: taken)) (before ++ after)) = _
    rw [hnone [] c _ List.mem_cons_self]
    exact ih fun taken d rest hd => hnone (c :: taken) d rest (List.mem_cons_of_mem c hd)

theorem leftmost_append {exec : List A → Option R} {before : List A}
    (hnone : ∀ c rest, c ∈ before → exec (c :: rest) = none) (after : List A) :
    leftmost exec (before ++ after) = leftmost exec after := by
  induction before with
  | nil => rfl
  | cons c before ih =>
    change (exec (c :: (before ++ after))).orElse (fun _ => leftmost exec (before ++ after)) = _
    rw [hnone c _ List.mem_cons_self]
    exact ih fun d rest hd => hnone d rest (List.mem_cons_of_mem c hd)

theorem Piece.Plain.tag_ne {content : List A} (h : (Piece.tag content).Plain D) {c : A}
    (hc : c ∈ content ++ [D.gt]) : c ≠ D.lt := by
  rintro rfl
  rcases List.mem_append.mp hc with hmem | hmem
  · exact h.1 hmem
  · exact D.ne (List.mem_singleton.mp hmem)

variable [DecidableEq A]

theorem run_tag {items : List (Item A)} (hitems : ∀ item ∈ items, item.Avoids D.gt)
    (next : List A → Option R) {content : List A} (hcontent : D.gt ∉ content) (rest : List A) :
    run (exactly D.lt :: (items ++ [exactly D.gt])) next ((Piece.tag content).flat D ++ rest) =
      if accepts items content then next rest else none := by
  change run _ next (D.lt :: ((content ++ [D.gt]) ++ rest)) = _
  rw [run_exactly, List.append_assoc, List.singleton_append]
  exact run_until hitems next hcontent rest

variable {pieces : List (Piece A)}

theorem capture_flatten (hinside : E.Inside D) (hplain : ∀ piece ∈ pieces, piece.Plain D)
    (before : List A) :
    capture (fun taken => run (E.pattern D).tail fun rest => some (before ++ taken, rest))
        (flatten D pieces) =
      (E.close pieces).map fun found => (before ++ flatten D found.1, flatten D found.2) := by
  have hskip : ∀ (before taken : List A) {c : A} (rest : List A), c ≠ D.lt →
      run (E.pattern D).tail (fun rest => some (before ++ taken, rest)) (c :: rest) = none :=
    fun before taken c rest hne => run_exactly_ne _ hne rest
  induction pieces generalizing before with
  | nil => rfl
  | cons piece pieces ih =>
    have hrest : ∀ piece ∈ pieces, piece.Plain D :=
      fun other hmem => hplain other (List.mem_cons_of_mem _ hmem)
    cases piece with
    | text content =>
      have hfree : D.lt ∉ content := hplain _ List.mem_cons_self
      rw [flatten_cons]
      change capture _ (content ++ flatten D pieces) = _
      rw [capture_append fun taken c rest hc => hskip before taken rest
        fun heq => hfree (heq ▸ hc)]
      simp only [← List.append_assoc]
      rw [ih hrest, Element.close, Option.map_map]
      simp only [Function.comp_def, flatten_cons, Piece.flat, List.append_assoc]
    | tag content =>
      have htag : (Piece.tag content).Plain D := hplain _ List.mem_cons_self
      have hgo : ∀ text, capture (fun taken => run (E.pattern D).tail fun rest =>
          some (before ++ taken, rest)) (D.lt :: text) =
          (run (E.pattern D).tail (fun rest => some (before ++ [], rest)) (D.lt :: text)).orElse
            fun _ => capture (fun taken => run (E.pattern D).tail fun rest =>
              some (before ++ (D.lt :: taken), rest)) text := fun text => rfl
      rw [flatten_cons]
      change capture _ (D.lt :: ((content ++ [D.gt]) ++ flatten D pieces)) = _
      rw [hgo]
      have hrun := run_tag hinside.closes (fun rest => some (before ++ [], rest)) htag.2
        (flatten D pieces)
      change run _ _ (D.lt :: ((content ++ [D.gt]) ++ flatten D pieces)) = _ at hrun
      rw [Element.pattern, hrun, Element.close]
      split_ifs with hclose
      · rfl
      · have happend : capture (fun taken => run (E.pattern D).tail fun rest =>
              some (before ++ (D.lt :: taken), rest)) ((content ++ [D.gt]) ++ flatten D pieces) =
            capture (fun taken => run (E.pattern D).tail fun rest =>
              some (before ++ (D.lt :: ((content ++ [D.gt]) ++ taken)), rest))
              (flatten D pieces) :=
          capture_append (fun taken c rest hc => hskip before (D.lt :: taken) rest
            (htag.tag_ne hc)) _
        have hih := ih hrest (before ++ (Piece.tag content).flat D)
        change capture (fun taken => run (E.pattern D).tail fun rest =>
          some (before ++ (D.lt :: taken), rest)) ((content ++ [D.gt]) ++ flatten D pieces) = _
        rw [happend, Option.map_map]
        simp only [List.append_assoc, Piece.flat, List.cons_append] at hih ⊢
        simp only [hih, Function.comp_def, flatten_cons, Piece.flat, List.append_assoc,
          List.cons_append]

theorem search_flatten (hinside : E.Inside D) (hplain : ∀ piece ∈ pieces, piece.Plain D) :
    (E.pattern D).search (flatten D pieces) =
      (E.find pieces).map fun found => (flatten D found.1, flatten D found.2) := by
  have hskip : ∀ {c : A} (rest : List A), c ≠ D.lt → (E.pattern D).exec (c :: rest) = none :=
    fun rest hne => run_exactly_ne _ hne rest
  unfold Pattern.search
  induction pieces with
  | nil => rfl
  | cons piece pieces ih =>
    have hrest : ∀ piece ∈ pieces, piece.Plain D :=
      fun other hmem => hplain other (List.mem_cons_of_mem _ hmem)
    cases piece with
    | text content =>
      have hfree : D.lt ∉ content := hplain _ List.mem_cons_self
      rw [flatten_cons, Element.find]
      change leftmost _ (content ++ flatten D pieces) = _
      rw [leftmost_append fun c rest hc => hskip rest fun heq => hfree (heq ▸ hc)]
      exact ih hrest
    | tag content =>
      have htag : (Piece.tag content).Plain D := hplain _ List.mem_cons_self
      have hexec : (E.pattern D).exec ((Piece.tag content).flat D ++ flatten D pieces) =
          if accepts E.opens content then (E.close pieces).map fun found =>
            (flatten D found.1, flatten D found.2) else none := by
        have hcapture := capture_flatten hinside hrest []
        simp only [List.nil_append] at hcapture
        rw [← hcapture]
        exact run_tag hinside.opens _ htag.2 _
      rw [flatten_cons]
      change ((E.pattern D).exec ((Piece.tag content).flat D ++ flatten D pieces)).orElse
        (fun _ => leftmost (E.pattern D).exec ((content ++ [D.gt]) ++ flatten D pieces)) = _
      rw [hexec, leftmost_append (fun c rest hc => hskip rest (htag.tag_ne hc)), ih hrest,
        Element.find]
      split_ifs with hopen
      · cases E.close pieces <;> rfl
      · rfl

def Element.opensAt (E : Element A) : Piece A → Bool
  | .text _ => false
  | .tag content => accepts E.opens content

def Element.closesAt (E : Element A) : Piece A → Bool
  | .text _ => false
  | .tag content => accepts E.closes content

/-- The pieces in each of the elements found one behind the other. -/
def Element.findAll (E : Element A) : Nat → List (Piece A) → List (List (Piece A))
  | 0, _ => []
  | fuel + 1, pieces => match E.find pieces with
    | none => []
    | some (inner, after) => inner :: E.findAll fuel after

section Finding

omit [DecidableEq A]

theorem close_append {before : List (Piece A)} (h : ∀ piece ∈ before, E.closesAt piece = false)
    (after : List (Piece A)) :
    E.close (before ++ after) =
      (E.close after).map fun found => (before ++ found.1, found.2) := by
  induction before with
  | nil => exact Option.map_id'.symm
  | cons piece before ih =>
    have hpiece := h piece List.mem_cons_self
    have hrest := ih fun other hmem => h other (List.mem_cons_of_mem _ hmem)
    cases piece with
    | text content =>
      rw [List.cons_append, Element.close, hrest, Option.map_map]
      rfl
    | tag content =>
      have hnot : ¬accepts E.closes content = true := by
        rw [Bool.not_eq_true]
        exact hpiece
      rw [List.cons_append, Element.close, if_neg hnot, hrest, Option.map_map]
      rfl

theorem close_tag {content : List A} (h : accepts E.closes content = true)
    (after : List (Piece A)) : E.close (.tag content :: after) = some ([], after) := if_pos h

variable {pieces : List (Piece A)}

theorem close_eq_none (h : ∀ piece ∈ pieces, E.closesAt piece = false) :
    E.close pieces = none := by
  have happend := close_append h []
  rwa [List.append_nil] at happend

theorem find_append {before : List (Piece A)} (h : ∀ piece ∈ before, E.opensAt piece = false)
    (after : List (Piece A)) : E.find (before ++ after) = E.find after := by
  induction before with
  | nil => rfl
  | cons piece before ih =>
    have hpiece := h piece List.mem_cons_self
    have hrest := ih fun other hmem => h other (List.mem_cons_of_mem _ hmem)
    cases piece with
    | text content => exact hrest
    | tag content =>
      have hnot : ¬accepts E.opens content = true := by
        rw [Bool.not_eq_true]
        exact hpiece
      rw [List.cons_append, Element.find, if_neg hnot]
      exact hrest

variable {inner after : List (Piece A)}

theorem find_tag {content : List A} (h : accepts E.opens content = true)
    (hclose : E.close pieces = some (inner, after)) :
    E.find (.tag content :: pieces) = some (inner, after) := by
  rw [Element.find, if_pos h, hclose]
  rfl

theorem find_eq_none (h : ∀ piece ∈ pieces, E.opensAt piece = false) :
    E.find pieces = none := by
  have happend := find_append h []
  rwa [List.append_nil] at happend

theorem find_of_unclosed (h : ∀ piece ∈ pieces, E.closesAt piece = false) :
    E.find pieces = none := by
  induction pieces with
  | nil => rfl
  | cons piece pieces ih =>
    have hrest : ∀ piece ∈ pieces, E.closesAt piece = false :=
      fun other hmem => h other (List.mem_cons_of_mem _ hmem)
    cases piece with
    | text content => exact ih hrest
    | tag content =>
      rw [Element.find, close_eq_none hrest, ih hrest, ite_self]
      rfl

theorem close_sublist (h : E.close pieces = some (inner, after)) :
    inner ⊆ pieces ∧ after ⊆ pieces := by
  induction pieces generalizing inner with
  | nil => cases h
  | cons piece pieces ih =>
    have hstep : ∀ {found : Option (List (Piece A) × List (Piece A))},
        found = (E.close pieces).map (fun found => (piece :: found.1, found.2)) →
        found = some (inner, after) → inner ⊆ piece :: pieces ∧ after ⊆ piece :: pieces := by
      rintro _ rfl hfound
      obtain ⟨⟨before, behind⟩, hclose, heq⟩ := Option.map_eq_some_iff.mp hfound
      obtain ⟨rfl, rfl⟩ := Prod.mk.inj heq
      obtain ⟨hinner, hafter⟩ := ih hclose
      exact ⟨List.cons_subset_cons piece hinner,
        fun _ hmem => List.mem_cons_of_mem piece (hafter hmem)⟩
    cases piece with
    | text content => exact hstep rfl h
    | tag content =>
      rw [Element.close] at h
      split_ifs at h with hclose
      · obtain ⟨rfl, rfl⟩ := Prod.mk.inj (Option.some.inj h)
        exact ⟨List.nil_subset _, List.subset_cons_self _ _⟩
      · exact hstep rfl h

theorem find_sublist (h : E.find pieces = some (inner, after)) :
    inner ⊆ pieces ∧ after ⊆ pieces := by
  induction pieces with
  | nil => cases h
  | cons piece pieces ih =>
    have hmore : ∀ {found : List (Piece A)}, found ⊆ pieces → found ⊆ piece :: pieces :=
      fun hsub _ hmem => List.mem_cons_of_mem piece (hsub hmem)
    have hlater : E.find pieces = some (inner, after) →
        inner ⊆ piece :: pieces ∧ after ⊆ piece :: pieces :=
      fun hfind => ⟨hmore (ih hfind).1, hmore (ih hfind).2⟩
    cases piece with
    | text content => exact hlater h
    | tag content =>
      rw [Element.find] at h
      cases hclose : (if accepts E.opens content then E.close pieces else none) with
      | none =>
        rw [hclose] at h
        exact hlater h
      | some found =>
        rw [hclose] at h
        obtain rfl := Option.some.inj h
        obtain ⟨hinner, hafter⟩ := close_sublist (Option.ite_none_right_eq_some.mp hclose).2
        exact ⟨hmore hinner, hmore hafter⟩

end Finding

theorem searchAll_flatten (hinside : E.Inside D) (fuel : Nat)
    (hplain : ∀ piece ∈ pieces, piece.Plain D) :
    (E.pattern D).searchAll fuel (flatten D pieces) =
      (E.findAll fuel pieces).map (flatten D) := by
  induction fuel generalizing pieces with
  | zero => rfl
  | succ fuel ih =>
    rw [Pattern.searchAll, search_flatten hinside hplain, Element.findAll]
    cases hfind : E.find pieces with
    | none => rfl
    | some found =>
      have hafter := fun piece hmem => hplain piece ((find_sublist hfind).2 hmem)
      change _ :: _ = _ :: _
      rw [← ih hafter]

end Markup
