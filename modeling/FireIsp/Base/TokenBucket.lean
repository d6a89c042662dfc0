import Mathlib.Algebra.Order.Field.Rat
import Mathlib.Tactic.Linarith
import Mathlib.Tactic.Positivity

/-!
# Token buckets

A budget that fills up with time, up to a burst, and is spent one token at a time.  What it gives out
from a moment on, together with what it still holds, never exceeds the burst and what has flowed in
since.
-/

/-- Tokens, and when they were last filled up. -/
structure TokenBucket where
  tokens : ℚ
  refilledAt : Int
  deriving DecidableEq

namespace TokenBucket

/-- Inflow and burst of a bucket; `rate` tokens flow in within a period. -/
structure Flow where
  burst : ℕ
  rate : ℕ
  period : ℕ

/-- What flows in between two moments. -/
def Flow.inflow (flow : Flow) (start stop : Int) : ℚ :=
  ((stop - start : Int) : ℚ) / flow.period * flow.rate

/-- The bucket is filled up. -/
def refill (flow : Flow) (now : Int) (b : TokenBucket) : TokenBucket :=
  if 0 < now - b.refilledAt then
    ⟨min flow.burst (b.tokens + flow.inflow b.refilledAt now), now⟩
  else b

def spend (b : TokenBucket) : TokenBucket := { b with tokens := b.tokens - 1 }

variable {flow : Flow} {start now : Int} {b : TokenBucket} {given : ℕ}

variable (flow) in
theorem inflow_nonneg {stop : Int} (h : start ≤ stop) : 0 ≤ flow.inflow start stop := by
  unfold Flow.inflow
  have hspan : (0 : ℚ) ≤ ((stop - start : Int) : ℚ) := by exact_mod_cast sub_nonneg.mpr h
  positivity

variable (flow) in
theorem inflow_add (start middle stop : Int) :
    flow.inflow start middle + flow.inflow middle stop = flow.inflow start stop := by
  unfold Flow.inflow
  rw [← add_mul, ← add_div, ← Int.cast_add]
  congr 3
  omega

/-- What was given out since `start` and is still held is covered. -/
structure Covered (flow : Flow) (start : Int) (given : ℕ) (b : TokenBucket) : Prop where
  nonneg : 0 ≤ b.tokens
  le : b.tokens ≤ flow.burst
  since : start ≤ b.refilledAt → given + b.tokens ≤ flow.burst + flow.inflow start b.refilledAt
  before : b.refilledAt < start → given = 0

/-- A bucket within its burst that was filled up in the past. -/
structure Level (flow : Flow) (now : Int) (b : TokenBucket) : Prop where
  nonneg : 0 ≤ b.tokens
  le : b.tokens ≤ flow.burst
  past : b.refilledAt ≤ now

theorem Level.covered (h : Level flow now b) (start : Int) : Covered flow start 0 b := by
  refine ⟨h.nonneg, h.le, fun hstart => ?_, fun _ => rfl⟩
  have hflow := inflow_nonneg flow hstart
  have hle := h.le
  push_cast
  linarith

theorem Covered.refill (h : Covered flow start given b) (hstart : start ≤ now)
    (hnow : b.refilledAt ≤ now) :
    Covered flow start given (b.refill flow now) ∧ (b.refill flow now).refilledAt = now := by
  unfold TokenBucket.refill
  split
  · have hflow := inflow_nonneg flow hnow
    refine ⟨⟨le_min (Nat.cast_nonneg _) (add_nonneg h.nonneg hflow), min_le_left _ _, fun _ => ?_,
      fun hbefore => absurd hstart (not_le.mpr hbefore)⟩, rfl⟩
    rcases le_or_gt start b.refilledAt with hle | hgt
    · have hsince := h.since hle
      have hsum := inflow_add flow start b.refilledAt now
      have hmin := min_le_right (flow.burst : ℚ) (b.tokens + flow.inflow b.refilledAt now)
      linarith
    · have hmin := min_le_left (flow.burst : ℚ) (b.tokens + flow.inflow b.refilledAt now)
      have hsince := inflow_nonneg flow hstart
      rw [h.before hgt]
      push_cast
      linarith
  · rename_i hnot
    exact ⟨h, by omega⟩

theorem Covered.spend (h : Covered flow start given b) (htoken : 1 ≤ b.tokens)
    (hstart : start ≤ b.refilledAt) : Covered flow start (given + 1) b.spend := by
  refine ⟨sub_nonneg.mpr htoken, (sub_le_self _ zero_le_one).trans h.le, fun _ => ?_,
    fun hbefore => absurd hstart (not_le.mpr hbefore)⟩
  have hsince := h.since hstart
  simp only [TokenBucket.spend]
  push_cast
  linarith

theorem Level.refill {last : Int} (h : Level flow last b) (hlast : last ≤ now) :
    Level flow now (b.refill flow now) := by
  obtain ⟨hfilled, hpresent⟩ := (h.covered now).refill (le_refl now) (h.past.trans hlast)
  exact ⟨hfilled.nonneg, hfilled.le, hpresent.le⟩

theorem Level.spend (h : Level flow now b) (htoken : 1 ≤ b.tokens) : Level flow now b.spend :=
  ⟨sub_nonneg.mpr htoken, (sub_le_self _ zero_le_one).trans h.le, h.past⟩

theorem Covered.given_le (h : Covered flow start given b) (hstart : start ≤ now)
    (hnow : b.refilledAt ≤ now) : (given : ℚ) ≤ flow.burst + flow.inflow start now := by
  rcases le_or_gt start b.refilledAt with hle | hgt
  · have hsince := h.since hle
    have hsum := inflow_add flow start b.refilledAt now
    have hflow := inflow_nonneg flow hnow
    have hnonneg := h.nonneg
    linarith
  · have hflow := inflow_nonneg flow hstart
    rw [h.before hgt]
    push_cast
    positivity

end TokenBucket
