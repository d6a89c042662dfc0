import Mathlib.Data.List.Basic
import Mathlib.Data.List.Nodup

/-!
# Newest row

`ORDER BY rank DESC, id DESC LIMIT 1` over a list of rows: the selection, what it selects,
and how it moves when one row is replaced or one is added.
-/

namespace Table

variable {ρ : Type*} {rank id : ρ → Nat}

/-- `a` comes before `b` in `ORDER BY rank DESC, id DESC`. -/
def Before (rank id : ρ → Nat) (a b : ρ) : Prop :=
  rank b < rank a ∨ (rank b = rank a ∧ id b < id a)

instance (a b : ρ) : Decidable (Before rank id a b) := inferInstanceAs (Decidable (_ ∨ _))

/-- First row of `ORDER BY rank DESC, id DESC`. -/
def newest (rank id : ρ → Nat) : List ρ → Option ρ
  | [] => none
  | row :: rows =>
    match newest rank id rows with
    | none => some row
    | some best => if Before rank id best row then some best else some row

variable {rows : List ρ}

theorem newest_eq_none : newest rank id rows = none ↔ rows = [] := by
  cases rows with
  | nil => exact iff_of_true rfl rfl
  | cons row rows =>
    refine iff_of_false ?_ nofun
    rw [newest]
    split
    · exact nofun
    · split <;> exact nofun

variable {best : ρ}

theorem newest_spec (h : newest rank id rows = some best) :
    best ∈ rows ∧ ∀ row ∈ rows, ¬Before rank id row best := by
  induction rows generalizing best with
  | nil => cases h
  | cons row rows ih =>
    rw [newest] at h
    cases hrest : newest rank id rows with
    | none =>
      rw [hrest] at h
      obtain rfl := Option.some.inj h
      obtain rfl := newest_eq_none.mp hrest
      refine ⟨List.mem_cons_self, fun other hother => ?_⟩
      obtain rfl := List.mem_singleton.mp hother
      unfold Before
      omega
    | some later =>
      rw [hrest] at h
      obtain ⟨hmem, hnone⟩ := ih hrest
      simp only [] at h
      split at h
      · rename_i hbefore
        obtain rfl := Option.some.inj h
        refine ⟨List.mem_cons_of_mem _ hmem, fun other hother => ?_⟩
        rcases List.mem_cons.mp hother with rfl | hother
        · unfold Before at hbefore ⊢
          omega
        · exact hnone other hother
      · rename_i hbefore
        obtain rfl := Option.some.inj h
        refine ⟨List.mem_cons_self, fun other hother => ?_⟩
        rcases List.mem_cons.mp hother with rfl | hother
        · unfold Before
          omega
        · have hother' := hnone other hother
          unfold Before at hbefore hother' ⊢
          omega

theorem newest_eq_some (hmem : best ∈ rows)
    (h : ∀ row ∈ rows, row ≠ best → Before rank id best row) :
    newest rank id rows = some best := by
  cases hfirst : newest rank id rows with
  | none =>
    rw [newest_eq_none.mp hfirst] at hmem
    cases hmem
  | some first =>
    obtain ⟨hfirstMem, hnone⟩ := newest_spec hfirst
    by_contra hne
    have hne' : first ≠ best := fun e => hne (by rw [e])
    exact hnone best hmem (h first hfirstMem hne')

theorem newest_before (hid : (rows.map id).Nodup) (h : newest rank id rows = some best) :
    ∀ row ∈ rows, row ≠ best → Before rank id best row := by
  intro row hrow hne
  obtain ⟨hmem, hnone⟩ := newest_spec h
  have hrowId : id row ≠ id best := fun e => hne (List.inj_on_of_nodup_map hid hrow hmem e)
  have hnot := hnone row hrow
  unfold Before at hnot ⊢
  omega

end Table

/-!
## What a history says

The last value the events of a history give, and what has happened since an event of a kind.
-/

namespace History

variable {ε β : Type*}

/-- The value the last event gives that gives one. -/
def last (value : ε → Option β) (history : List ε) : Option β :=
  (history.filterMap value).getLast?

/-- An event of a kind has happened, and only events of another kind since. -/
def Since (happens keeps : ε → Prop) (history : List ε) : Prop :=
  ∃ before event after, history = before ++ event :: after ∧ happens event ∧
    ∀ later ∈ after, keeps later

variable {value : ε → Option β} {happens keeps : ε → Prop} {history : List ε} {event : ε}

theorem last_append_of_some {b : β} (h : value event = some b) :
    last value (history ++ [event]) = some b := by
  unfold last
  rw [List.filterMap_append, List.filterMap_cons, h]
  exact List.getLast?_concat

theorem last_append_of_none (h : value event = none) :
    last value (history ++ [event]) = last value history := by
  unfold last
  rw [List.filterMap_append, List.filterMap_cons, h]
  exact congrArg _ (List.append_nil _)

theorem since_append :
    Since happens keeps (history ++ [event]) ↔
      happens event ∨ (Since happens keeps history ∧ keeps event) := by
  constructor
  · rintro ⟨before, e, after, heq, he, hkeeps⟩
    rcases List.eq_nil_or_concat after with rfl | ⟨after, last, rfl⟩
    · obtain ⟨-, hlast⟩ := List.append_inj' heq rfl
      obtain rfl : event = e := by simpa using hlast
      exact Or.inl he
    · have hsplit : history ++ [event] = (before ++ e :: after) ++ [last] := by
        rw [heq]
        simp
      obtain ⟨rfl, hlast⟩ := List.append_inj' hsplit rfl
      obtain rfl : event = last := by simpa using hlast
      refine Or.inr ⟨⟨before, e, after, rfl, he, fun later hlater => ?_⟩, ?_⟩
      · exact hkeeps later (by simp [hlater])
      · exact hkeeps event (by simp)
  · rintro (he | ⟨⟨before, e, after, rfl, he, hkeeps⟩, hevent⟩)
    · exact ⟨history, event, [], rfl, he, fun _ h => absurd h List.not_mem_nil⟩
    · refine ⟨before, e, after ++ [event], by simp, he, fun later hlater => ?_⟩
      rcases List.mem_append.mp hlater with hlater | hlater
      · exact hkeeps later hlater
      · rw [List.mem_singleton.mp hlater]
        exact hevent

theorem not_since_nil : ¬Since happens keeps ([] : List ε) := by
  rintro ⟨before, e, after, heq, -⟩
  simp at heq

end History
