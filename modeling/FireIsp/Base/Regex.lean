import Mathlib.Data.List.Forall2
import Mathlib.Data.Option.Basic

/-!
# Backtracking patterns

Regular expressions the way a backtracking matcher runs them.  A pattern is a list of items; each
item takes what it prefers, and takes less, or more, when what follows it does not match.
-/

namespace Regex

variable {A R : Type}

/-- One item of a pattern. -/
inductive Item (A : Type)
  | one (set : A → Bool)
  | optional (set : A → Bool)
  | many (set : A → Bool)
  | finish

def takeOne (set : A → Bool) (next : List A → Option R) : List A → Option R
  | [] => none
  | c :: rest => if set c then next rest else none

def takeMany (set : A → Bool) (next : List A → Option R) : List A → Option R
  | [] => next []
  | c :: rest => if set c then takeMany set next rest <|> next (c :: rest) else next (c :: rest)

/-- The items in order, then the rest. -/
def run : List (Item A) → (List A → Option R) → List A → Option R
  | [], next, text => next text
  | .one set :: items, next, text => takeOne set (run items next) text
  | .optional set :: items, next, text => takeOne set (run items next) text <|> run items next text
  | .many set :: items, next, text => takeMany set (run items next) text
  | .finish :: items, next, text => if text.isEmpty then run items next text else none

/-- As few characters as possible are captured, then the rest. -/
def capture (next : List A → List A → Option R) : List A → Option R
  | [] => next [] []
  | c :: rest => next [] (c :: rest) <|> capture (fun taken => next (c :: taken)) rest

/-- A pattern with a group of as few characters as possible. -/
structure Pattern (A : Type) where
  head : List (Item A)
  tail : List (Item A)

/-- The group, and what follows the match, of a match that starts here. -/
def Pattern.exec (p : Pattern A) : List A → Option (List A × List A) :=
  run p.head (capture fun taken => run p.tail fun rest => some (taken, rest))

/-- The first place at which something matches. -/
def leftmost (exec : List A → Option R) : List A → Option R
  | [] => exec []
  | c :: rest => exec (c :: rest) <|> leftmost exec rest

/-- The group, and what follows the match, of the leftmost match. -/
def Pattern.search (p : Pattern A) : List A → Option (List A × List A) := leftmost p.exec

/-- The groups of the matches, each searched for behind the one before it. -/
def Pattern.searchAll (p : Pattern A) : Nat → List A → List (List A)
  | 0, _ => []
  | fuel + 1, text => match p.search text with
    | none => []
    | some (group, rest) => group :: p.searchAll fuel rest

/-- Items that match a text up to its end. -/
def accepts (items : List (Item A)) (text : List A) : Bool :=
  (run items (fun rest => if rest.isEmpty then some () else none) text).isSome

def Item.Avoids (stop : A) : Item A → Prop
  | .one set => set stop = false
  | .optional set => set stop = false
  | .many set => set stop = false
  | .finish => False

instance (stop : A) : (item : Item A) → Decidable (item.Avoids stop)
  | .one set => inferInstanceAs (Decidable (set stop = false))
  | .optional set => inferInstanceAs (Decidable (set stop = false))
  | .many set => inferInstanceAs (Decidable (set stop = false))
  | .finish => inferInstanceAs (Decidable False)

theorem run_append (xs ys : List (Item A)) (next : List A → Option R) :
    run (xs ++ ys) next = run xs (run ys next) := by
  induction xs with
  | nil => funext text; rfl
  | cons x xs ih =>
    funext text
    cases x <;> simp only [List.cons_append, run, ih]

theorem takeMany_isSome {set : A → Bool} {next : List A → Option R} {before text : List A}
    (hbefore : ∀ c ∈ before, set c = true) (h : (next text).isSome) :
    (takeMany set next (before ++ text)).isSome := by
  induction before with
  | nil =>
    cases text with
    | nil => exact h
    | cons c text =>
      rw [List.nil_append, takeMany]
      split_ifs
      · cases takeMany set next text with
        | none => exact h
        | some r => rfl
      · exact h
  | cons c before ih =>
    have hrest := ih fun d hd => hbefore d (List.mem_cons_of_mem c hd)
    obtain ⟨r, hr⟩ := Option.isSome_iff_exists.mp hrest
    rw [List.cons_append, takeMany, if_pos (hbefore c List.mem_cons_self), hr]
    rfl

theorem optional_isSome {set : A → Bool} {items : List (Item A)} {next : List A → Option R}
    {text : List A} (h : (run items next text).isSome) :
    (run (.optional set :: items) next text).isSome := by
  rw [run]
  cases takeOne set (run items next) text with
  | none => exact h
  | some r => rfl

theorem run_word {one : A → Item A} (hone : ∀ c, ∃ set : A → Bool, one c = .one set ∧ set c = true)
    (items : List (Item A)) (next : List A → Option R) (word text : List A) :
    run (word.map one ++ items) next (word ++ text) = run items next text := by
  induction word with
  | nil => rfl
  | cons c word ih =>
    obtain ⟨set, hset, hc⟩ := hone c
    rw [List.map_cons, hset]
    change (if set c then run (word.map one ++ items) next (word ++ text) else none) = _
    rw [if_pos hc, ih]

section Stopping

variable {R' : Type} {stop : A} {rest : List A} {r : Option R}

/-- A continuation that goes on behind a character where another one is at the end. -/
def Stops (stop : A) (rest : List A) (r : Option R) (next : List A → Option R)
    (ends : List A → Option R') : Prop :=
  ∀ text, stop ∉ text → next (text ++ stop :: rest) = if (ends text).isSome then r else none

variable {next : List A → Option R} {ends : List A → Option R'}

theorem Stops.takeOne (h : Stops stop rest r next ends) {set : A → Bool} (hset : set stop = false) :
    Stops stop rest r (takeOne set next) (takeOne set ends) := by
  intro text htext
  cases text with
  | nil => exact if_neg (by rw [hset]; nofun)
  | cons c text =>
    have hfree : stop ∉ text := fun hmem => htext (List.mem_cons_of_mem c hmem)
    change (if set c then next (text ++ stop :: rest) else none) =
      if (if set c then ends text else none).isSome then r else none
    split_ifs with hc hends hends
    · rw [h text hfree, if_pos hends]
    · rw [h text hfree, if_neg hends]
    · cases hends
    · rfl

theorem Stops.orElse {next' : List A → Option R} {ends' : List A → Option R'}
    (h : Stops stop rest r next ends) (h' : Stops stop rest r next' ends') :
    Stops stop rest r (fun text => next text <|> next' text)
      (fun text => ends text <|> ends' text) := by
  intro text htext
  change (next _).orElse (fun _ => next' _) =
    if ((ends text).orElse fun _ => ends' text).isSome then r else none
  rw [h text htext, h' text htext]
  cases ends text <;> cases ends' text <;> cases r <;> rfl

theorem Stops.takeMany (h : Stops stop rest r next ends) {set : A → Bool}
    (hset : set stop = false) :
    Stops stop rest r (takeMany set next) (takeMany set ends) := by
  intro text
  induction text with
  | nil =>
    intro htext
    change (if set stop then _ else next (stop :: rest)) = _
    rw [hset]
    exact h [] htext
  | cons c text ih =>
    intro htext
    have hfree : stop ∉ text := fun hmem => htext (List.mem_cons_of_mem c hmem)
    change (if set c then (Regex.takeMany set next (text ++ stop :: rest)).orElse
        (fun _ => next (c :: text ++ stop :: rest)) else next (c :: text ++ stop :: rest)) =
      if (if set c then (Regex.takeMany set ends text).orElse (fun _ => ends (c :: text))
        else ends (c :: text)).isSome then r else none
    rw [ih hfree, h _ htext]
    split_ifs <;> simp_all

theorem Stops.run (h : Stops stop rest r next ends) {items : List (Item A)}
    (hitems : ∀ item ∈ items, item.Avoids stop) :
    Stops stop rest r (run items next) (run items ends) := by
  induction items with
  | nil => exact h
  | cons item items ih =>
    have hrest := ih fun item hmem => hitems item (List.mem_cons_of_mem _ hmem)
    have hitem := hitems item List.mem_cons_self
    cases item with
    | one set => exact hrest.takeOne hitem
    | optional set => exact (hrest.takeOne hitem).orElse hrest
    | many set => exact hrest.takeMany hitem
    | finish => exact hitem.elim

end Stopping

section Delimited

variable [DecidableEq A] {stop : A}

/-- One given character. -/
def exactly (c : A) : Item A := .one fun d => decide (d = c)

variable {items : List (Item A)}

theorem run_until (hitems : ∀ item ∈ items, item.Avoids stop) (next : List A → Option R)
    {text : List A} (htext : stop ∉ text) (rest : List A) :
    run (items ++ [exactly stop]) next (text ++ stop :: rest) =
      if accepts items text then next rest else none := by
  have hstop : Stops stop rest (next rest) (run [exactly stop] next)
      (fun rest => if rest.isEmpty then some () else none) := by
    intro text htext
    cases text with
    | nil => exact if_pos (decide_eq_true rfl)
    | cons c text =>
      have hne : ¬c = stop := fun heq => htext (heq ▸ List.mem_cons_self)
      exact if_neg (by rw [decide_eq_true_eq]; exact hne)
  rw [run_append]
  exact hstop.run hitems text htext

theorem run_exactly_ne (next : List A → Option R) {c : A} (hne : c ≠ stop) (rest : List A) :
    run (exactly stop :: items) next (c :: rest) = none :=
  if_neg (by rw [decide_eq_true_eq]; exact hne)

theorem run_exactly (next : List A → Option R) (rest : List A) :
    run (exactly stop :: items) next (stop :: rest) = run items next rest :=
  if_pos (decide_eq_true rfl)

end Delimited

section Matching

/-- Items match a text up to what is left of it. -/
def Matches : List (Item A) → List A → List A → Prop
  | [], text, rest => text = rest
  | .one set :: items, text, rest =>
    ∃ c after, text = c :: after ∧ set c = true ∧ Matches items after rest
  | .optional set :: items, text, rest =>
    (∃ c after, text = c :: after ∧ set c = true ∧ Matches items after rest) ∨
      Matches items text rest
  | .many set :: items, text, rest =>
    ∃ before after, text = before ++ after ∧ (∀ c ∈ before, set c = true) ∧
      Matches items after rest
  | .finish :: items, text, rest => text = [] ∧ Matches items text rest

variable {next : List A → Option R} {text : List A}

theorem takeOne_isSome_iff {set : A → Bool} :
    (takeOne set next text).isSome ↔
      ∃ c after, text = c :: after ∧ set c = true ∧ (next after).isSome := by
  cases text with
  | nil => exact ⟨nofun, nofun⟩
  | cons c after =>
    rw [takeOne]
    constructor
    · intro h
      split_ifs at h with hc
      · exact ⟨c, after, rfl, hc, h⟩
      · exact nomatch h
    · rintro ⟨d, behind, heq, hd, h⟩
      obtain ⟨rfl, rfl⟩ := List.cons.inj heq
      rwa [if_pos hd]

theorem takeMany_isSome_iff {set : A → Bool} :
    (takeMany set next text).isSome ↔
      ∃ before after, text = before ++ after ∧ (∀ c ∈ before, set c = true) ∧
        (next after).isSome := by
  constructor
  · intro h
    induction text with
    | nil => exact ⟨[], [], rfl, nofun, h⟩
    | cons c text ih =>
      rw [takeMany] at h
      split_ifs at h with hc
      · cases htake : takeMany set next text with
        | none =>
          rw [htake] at h
          exact ⟨[], c :: text, rfl, nofun, h⟩
        | some r =>
          obtain ⟨before, after, rfl, hbefore, hafter⟩ := ih (by rw [htake]; rfl)
          exact ⟨c :: before, after, rfl, List.forall_mem_cons.mpr ⟨hc, hbefore⟩, hafter⟩
      · exact ⟨[], c :: text, rfl, nofun, h⟩
  · rintro ⟨before, after, rfl, hbefore, hafter⟩
    exact takeMany_isSome hbefore hafter

theorem isSome_orElse_iff {first second : Option R} :
    (first <|> second).isSome ↔ first.isSome ∨ second.isSome := by
  cases first with
  | none => exact ⟨.inr, fun h => h.resolve_left nofun⟩
  | some r => exact ⟨fun _ => .inl rfl, fun _ => rfl⟩

theorem run_isSome_iff {items : List (Item A)} :
    (run items next text).isSome ↔ ∃ rest, Matches items text rest ∧ (next rest).isSome := by
  induction items generalizing text with
  | nil =>
    constructor
    · exact fun h => ⟨text, rfl, h⟩
    · rintro ⟨_, rfl, h⟩
      exact h
  | cons item items ih =>
    cases item with
    | one set =>
      simp only [run, Matches, takeOne_isSome_iff, ih]
      constructor
      · rintro ⟨c, after, htext, hc, rest, hrest, h⟩
        exact ⟨rest, ⟨c, after, htext, hc, hrest⟩, h⟩
      · rintro ⟨rest, ⟨c, after, htext, hc, hrest⟩, h⟩
        exact ⟨c, after, htext, hc, rest, hrest, h⟩
    | optional set =>
      simp only [run, Matches, isSome_orElse_iff, takeOne_isSome_iff, ih]
      constructor
      · rintro (⟨c, after, htext, hc, rest, hrest, h⟩ | ⟨rest, hrest, h⟩)
        · exact ⟨rest, .inl ⟨c, after, htext, hc, hrest⟩, h⟩
        · exact ⟨rest, .inr hrest, h⟩
      · rintro ⟨rest, ⟨c, after, htext, hc, hrest⟩ | hrest, h⟩
        · exact .inl ⟨c, after, htext, hc, rest, hrest, h⟩
        · exact .inr ⟨rest, hrest, h⟩
    | many set =>
      simp only [run, Matches, takeMany_isSome_iff, ih]
      constructor
      · rintro ⟨before, after, htext, hbefore, rest, hrest, h⟩
        exact ⟨rest, ⟨before, after, htext, hbefore, hrest⟩, h⟩
      · rintro ⟨rest, ⟨before, after, htext, hbefore, hrest⟩, h⟩
        exact ⟨before, after, htext, hbefore, rest, hrest, h⟩
    | finish =>
      simp only [run, Matches]
      split_ifs with hempty
      · rw [ih]
        have hnil := List.isEmpty_iff.mp hempty
        simp only [hnil, true_and]
      · have hne : text ≠ [] := fun hnil => hempty (List.isEmpty_iff.mpr hnil)
        simp only [hne, false_and, exists_false]
        exact iff_of_false nofun id

theorem leftmost_isSome_iff {exec : List A → Option R} :
    (leftmost exec text).isSome ↔ ∃ after, after <:+ text ∧ (exec after).isSome := by
  induction text with
  | nil =>
    constructor
    · exact fun h => ⟨[], List.suffix_refl [], h⟩
    · rintro ⟨after, hafter, h⟩
      rwa [List.suffix_nil.mp hafter] at h
  | cons c text ih =>
    rw [leftmost, isSome_orElse_iff, ih]
    constructor
    · rintro (h | ⟨after, hafter, h⟩)
      · exact ⟨c :: text, List.suffix_refl _, h⟩
      · exact ⟨after, hafter.trans (List.suffix_cons c text), h⟩
    · rintro ⟨after, hafter, h⟩
      rcases List.suffix_cons_iff.mp hafter with rfl | hafter
      · exact .inl h
      · exact .inr ⟨after, hafter, h⟩

theorem matches_word {items : List (Item A)} {B : Type} (test : B → A → Bool) {word : List B}
    {rest : List A} :
    Matches (word.map (fun b => Item.one (test b)) ++ items) text rest ↔
      ∃ taken after, text = taken ++ after ∧ List.Forall₂ (fun b c => test b c = true) word taken ∧
        Matches items after rest := by
  induction word generalizing text with
  | nil =>
    constructor
    · exact fun h => ⟨[], text, rfl, .nil, h⟩
    · rintro ⟨taken, after, rfl, htaken, h⟩
      rw [List.forall₂_nil_left_iff] at htaken
      rwa [htaken]
  | cons b word ih =>
    rw [List.map_cons, List.cons_append, Matches]
    simp only [ih]
    constructor
    · rintro ⟨c, _, rfl, hc, taken, after, rfl, htaken, h⟩
      exact ⟨c :: taken, after, rfl, .cons hc htaken, h⟩
    · rintro ⟨taken, after, rfl, htaken, h⟩
      obtain ⟨c, others, hc, hothers, rfl⟩ := List.forall₂_cons_left_iff.mp htaken
      exact ⟨c, others ++ after, rfl, hc, others, after, rfl, hothers, h⟩

end Matching

end Regex
