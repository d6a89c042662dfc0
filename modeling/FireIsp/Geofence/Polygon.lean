import FireIsp.Base.Closed
import Mathlib.Algebra.Order.Field.Rat
import Mathlib.Tactic.FieldSimp
import Mathlib.Tactic.Linarith
import Mathlib.Tactic.Ring

/-!
# Points in polygons

A ray from a point crosses edges of a ring; the point is inside when it crosses an odd number of them.
The answer depends on the ring alone and not on how its vertices are written down.
-/

namespace FireIsp.Geofence

/-- `[lng, lat]` -/
abbrev Vertex : Type := ℚ × ℚ

/-- `intersect` of an edge; the division is reached only for a latitude between its ends. -/
def intersects (lat lng : ℚ) (i j : Vertex) : Bool :=
  (decide (lat < i.2) != decide (lat < j.2)) &&
    decide (lng < (j.1 - i.1) * (lat - i.2) / (j.2 - i.2) + i.1)

/-- `pointInPolygon`; `j` is the vertex before `i`, and the last one to begin with. -/
def pointInPolygon (lat lng : ℚ) (ring : List Vertex) : Bool :=
  match ring.getLast? with
  | none => false
  | some last =>
    (ring.foldl (fun (inside, j) i => (if intersects lat lng i j then !inside else inside, i))
      (false, last)).1

variable (lat lng : ℚ)

theorem divisor_ne_zero {lat : ℚ} {i j : Vertex}
    (h : (decide (lat < i.2) != decide (lat < j.2)) = true) : j.2 - i.2 ≠ 0 := by
  intro hzero
  rw [sub_eq_zero.mp hzero, bne_self_eq_false] at h
  exact nomatch h

theorem intersects_self (i : Vertex) : intersects lat lng i i = false := by
  rw [intersects, bne_self_eq_false, Bool.false_and]

theorem intersects_comm (i j : Vertex) : intersects lat lng i j = intersects lat lng j i := by
  unfold intersects
  rw [bne_comm]
  cases hbetween : decide (lat < j.2) != decide (lat < i.2) with
  | false => rfl
  | true =>
    have hdivisor := divisor_ne_zero hbetween
    have hswapped : j.2 - i.2 ≠ 0 := fun hzero => hdivisor (by rw [← neg_sub, hzero, neg_zero])
    have hsame : (j.1 - i.1) * (lat - i.2) / (j.2 - i.2) + i.1 =
        (i.1 - j.1) * (lat - j.2) / (i.2 - j.2) + j.1 := by
      field_simp
      ring
    rw [hsame]

theorem foldl_intersects (ring : List Vertex) (inside : Bool) (j : Vertex) :
    (ring.foldl (fun (inside, j) i => (if intersects lat lng i j then !inside else inside, i))
      (inside, j)).1 = (inside ^^ Closed.walk (intersects lat lng) j ring) := by
  induction ring generalizing inside j with
  | nil => exact (Bool.xor_false inside).symm
  | cons i ring ih =>
    rw [List.foldl_cons, ih, Closed.walk, intersects_comm lat lng j i, ← Bool.xor_assoc]
    cases intersects lat lng i j <;> cases inside <;> rfl

theorem pointInPolygon_eq_ring (ring : List Vertex) :
    pointInPolygon lat lng ring = Closed.ring (intersects lat lng) ring := by
  unfold pointInPolygon
  cases ring using List.reverseRecOn with
  | nil => rfl
  | append_singleton ring last =>
    rw [List.getLast?_concat]
    dsimp only
    rw [foldl_intersects, Bool.false_xor, Closed.ring_append]
    rfl

/-- Rotation, reversal and closing keep the answer, and chords make it an exclusive or. -/
theorem pointInPolygon_presentation :
    (∀ ring n, pointInPolygon lat lng (ring.rotate n) = pointInPolygon lat lng ring) ∧
    (∀ ring, pointInPolygon lat lng ring.reverse = pointInPolygon lat lng ring) ∧
    (∀ first rest, pointInPolygon lat lng (first :: rest ++ [first]) =
      pointInPolygon lat lng (first :: rest)) ∧
    ∀ a b before between after,
      pointInPolygon lat lng (before ++ a :: between ++ b :: after) =
        (pointInPolygon lat lng (a :: between ++ [b]) ^^
          pointInPolygon lat lng (before ++ a :: b :: after)) := by
  have hsymm := intersects_comm lat lng
  simp only [pointInPolygon_eq_ring]
  exact ⟨fun ring n => Closed.ring_rotate ring n, fun ring => Closed.ring_reverse hsymm ring,
    fun first rest => Closed.ring_repeat (intersects_self lat lng first) rest,
    fun a b before between after => Closed.ring_chord hsymm a b before between after⟩

/-- A point in a square, and one beside it. -/
example : pointInPolygon 1 1 [(0, 0), (2, 0), (2, 2), (0, 2)] = true ∧
    pointInPolygon 1 3 [(0, 0), (2, 0), (2, 2), (0, 2)] = false := by decide +kernel

/-- Where an edge meets the latitude of a point, it does so on the side of its ends. -/
theorem crossing_side {a b lat lng : ℚ} {i j : Vertex} (hi : a * i.1 + b * i.2 < a * lng + b * lat)
    (hj : a * j.1 + b * j.2 < a * lng + b * lat)
    (hbetween : (decide (lat < i.2) != decide (lat < j.2)) = true) :
    a * ((j.1 - i.1) * (lat - i.2) / (j.2 - i.2) + i.1) < a * lng := by
  have hdivisor := divisor_ne_zero hbetween
  have hmean : (a * lng - a * ((j.1 - i.1) * (lat - i.2) / (j.2 - i.2) + i.1)) * (j.2 - i.2) =
      (a * lng + b * lat - (a * i.1 + b * i.2)) * (j.2 - lat) +
        (a * lng + b * lat - (a * j.1 + b * j.2)) * (lat - i.2) := by
    field_simp
    ring
  rw [bne_iff_ne, Ne, decide_eq_decide] at hbetween
  rcases lt_or_ge lat i.2 with hbelow | habove
  · have hother : j.2 ≤ lat := not_lt.mp fun hlt => hbetween (iff_of_true hbelow hlt)
    nlinarith
  · have hother : lat < j.2 :=
      not_le.mp fun hle => hbetween (iff_of_false habove.not_gt (not_lt.mpr hle))
    nlinarith

/-- A point that a line has on one side, with all vertices of the ring on the other, is outside. -/
theorem outside_of_separated {a b lat lng : ℚ} {ring : List Vertex}
    (h : ∀ v ∈ ring, a * v.1 + b * v.2 < a * lng + b * lat) :
    pointInPolygon lat lng ring = false := by
  rw [pointInPolygon_eq_ring]
  -- To the right of the ring no edge is crossed, to its left each one that passes the latitude.
  refine @Closed.ring_sides _ _ (fun v => decide (a < 0) && decide (lat < v.2)) _
    fun i hi j hj => ?_
  have hside := fun hbetween => @crossing_side a b lat lng i j (h i hi) (h j hj) hbetween
  unfold intersects
  cases hbetween : decide (lat < i.2) != decide (lat < j.2) with
  | false => rw [bne_eq_false_iff_eq.mp hbetween, Bool.xor_self, Bool.false_and]
  | true =>
    specialize hside hbetween
    rcases lt_trichotomy a 0 with ha | rfl | ha
    · rw [decide_eq_true ((mul_lt_mul_left_of_neg ha).mp hside), decide_eq_true ha, Bool.true_and,
        Bool.true_and, Bool.true_and]
      exact hbetween.symm
    · simp only [zero_mul, lt_irrefl] at hside
    · rw [decide_eq_false ((mul_lt_mul_iff_right₀ ha).mp hside).not_gt, decide_eq_false ha.not_gt]
      rfl

theorem outside_of_separated_sample : pointInPolygon 3 2 [(0, 0), (4, 0), (0, 4)] = false :=
  outside_of_separated (a := 1) (b := 1) (by decide +kernel)

end FireIsp.Geofence
