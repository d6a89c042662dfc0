import Mathlib.Data.List.Rotate

/-!
# Closed walks

A walk goes from place to place, and some of its steps flip a switch.  Whether a closed walk flips it
does not depend on where the walk begins; if a step flips it as the step back does, it does not depend
on its direction either, and a walk that is cut along a step is two walks.
-/

namespace Closed

variable {α : Type*} {flips : α → α → Bool}

/-- A walk through places flips the switch an odd number of times. -/
def walk (flips : α → α → Bool) : α → List α → Bool
  | _, [] => false
  | a, b :: rest => flips a b ^^ walk flips b rest

/-- A walk that returns to its first place flips the switch an odd number of times. -/
def ring (flips : α → α → Bool) : List α → Bool
  | [] => false
  | a :: rest => walk flips a (rest ++ [a])

theorem walk_cut (a b : α) (before after : List α) :
    walk flips a (before ++ b :: after) =
      (walk flips a (before ++ [b]) ^^ walk flips b after) := by
  induction before generalizing a with
  | nil => simp only [List.nil_append, walk, Bool.xor_false]
  | cons c before ih => simp only [List.cons_append, walk, ih c, Bool.xor_assoc]

theorem ring_append (l m : List α) : ring flips (l ++ m) = ring flips (m ++ l) := by
  cases l with
  | nil => rw [List.nil_append, List.append_nil]
  | cons a l =>
    cases m with
    | nil => rw [List.nil_append, List.append_nil]
    | cons b m =>
      have hfirst : l ++ b :: m ++ [a] = l ++ b :: (m ++ [a]) := by simp
      have hsecond : m ++ a :: l ++ [b] = m ++ a :: (l ++ [b]) := by simp
      change walk flips a (l ++ b :: m ++ [a]) = walk flips b (m ++ a :: l ++ [b])
      rw [hfirst, hsecond]
      calc walk flips a (l ++ b :: (m ++ [a]))
          = (walk flips a (l ++ [b]) ^^ walk flips b (m ++ [a])) := walk_cut a b l _
        _ = (walk flips b (m ++ [a]) ^^ walk flips a (l ++ [b])) := Bool.xor_comm _ _
        _ = walk flips b (m ++ a :: (l ++ [b])) := (walk_cut b a m _).symm

theorem ring_rotate (l : List α) (n : Nat) : ring flips (l.rotate n) = ring flips l := by
  rw [List.rotate_eq_drop_append_take_mod, ring_append, List.take_append_drop]

theorem ring_repeat {a : α} (hself : flips a a = false) (rest : List α) :
    ring flips (a :: rest ++ [a]) = ring flips (a :: rest) := by
  have hend : rest ++ [a] ++ [a] = rest ++ a :: [a] := by simp
  change walk flips a (rest ++ [a] ++ [a]) = walk flips a (rest ++ [a])
  rw [hend, walk_cut a a rest]
  simp only [walk, hself, Bool.xor_false]

theorem walk_reverse (hsymm : ∀ a b, flips a b = flips b a) (a b : α) (l : List α) :
    walk flips b (l.reverse ++ [a]) = walk flips a (l ++ [b]) := by
  induction l generalizing a with
  | nil => simp only [List.reverse_nil, List.nil_append, walk, hsymm b a]
  | cons c l ih =>
    rw [List.reverse_cons, List.append_assoc, List.singleton_append, walk_cut b c, ih c]
    simp only [List.cons_append, walk, Bool.xor_false, hsymm c a]
    rw [Bool.xor_comm]

theorem ring_reverse (hsymm : ∀ a b, flips a b = flips b a) (l : List α) :
    ring flips l.reverse = ring flips l := by
  cases l with
  | nil => rfl
  | cons a l =>
    rw [List.reverse_cons, ring_append]
    exact walk_reverse hsymm a a l

theorem ring_chord (hsymm : ∀ a b, flips a b = flips b a) (a b : α) (before between after : List α) :
    ring flips (before ++ a :: between ++ b :: after) =
      (ring flips (a :: between ++ [b]) ^^ ring flips (before ++ a :: b :: after)) := by
  have hwhole : ring flips (before ++ a :: between ++ b :: after) =
      (walk flips a (between ++ [b]) ^^ walk flips b (after ++ before ++ [a])) := by
    rw [List.append_assoc, ring_append]
    simp only [ring, List.cons_append, List.append_assoc]
    rw [walk_cut a b between]
  have hpart : ring flips (a :: between ++ [b]) =
      (walk flips a (between ++ [b]) ^^ flips a b) := by
    have hend : between ++ [b] ++ [a] = between ++ b :: [a] := by simp
    change walk flips a (between ++ [b] ++ [a]) = _
    rw [hend, walk_cut a b between]
    simp only [walk, Bool.xor_false, hsymm b a]
  have hrest : ring flips (before ++ a :: b :: after) =
      (flips a b ^^ walk flips b (after ++ before ++ [a])) := by
    rw [ring_append]
    simp only [ring, List.cons_append, walk, List.append_assoc]
  rw [hwhole, hpart, hrest, Bool.xor_assoc, ← Bool.xor_assoc (flips a b), Bool.xor_self,
    Bool.false_xor]

/-- If a step flips the switch when it changes the side, a walk does so when its ends differ. -/
theorem walk_sides {side : α → Bool} {places : List α}
    (h : ∀ a ∈ places, ∀ b ∈ places, flips a b = (side a ^^ side b)) {a b : α}
    {between : List α} (ha : a ∈ places) (hb : b ∈ places) (hbetween : ∀ c ∈ between, c ∈ places) :
    walk flips a (between ++ [b]) = (side a ^^ side b) := by
  induction between generalizing a with
  | nil => rw [List.nil_append, walk, walk, Bool.xor_false, h a ha b hb]
  | cons c between ih =>
    rw [List.forall_mem_cons] at hbetween
    rw [List.cons_append, walk, h a ha c hbetween.1, ih hbetween.1 hbetween.2, Bool.xor_assoc,
      ← Bool.xor_assoc (side c), Bool.xor_self, Bool.false_xor]

theorem ring_sides {side : α → Bool} {places : List α}
    (h : ∀ a ∈ places, ∀ b ∈ places, flips a b = (side a ^^ side b)) :
    ring flips places = false := by
  cases places with
  | nil => rfl
  | cons a rest =>
    have hfirst : a ∈ a :: rest := List.mem_cons_self
    rw [ring, walk_sides h hfirst hfirst fun c hc => List.mem_cons_of_mem a hc, Bool.xor_self]

end Closed
