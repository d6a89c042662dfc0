import FireIsp.Base.Calendar
import Mathlib.Algebra.BigOperators.Group.List.Basic

/-!
# Installments of a payment plan

`splitAmounts` and `computeDueDates`. Amounts are in cents. Days are those of a process that runs in
UTC.
-/

namespace FireIsp.Billing

open Calendar

/-- `frequency` of a payment plan. -/
inductive Frequency
  | weekly
  | biweekly
  | monthly

/-- The due date of installment `i`, counted from 0. -/
def dueDay (base : Int) (frequency : Frequency) (i : Int) : Int :=
  match frequency with
  | .weekly => setDate base ((civil base).day + i * 7)
  | .biweekly => setDate base ((civil base).day + i * 14)
  | .monthly => setMonth base ((civil base).month + i)

def firstDueDay (today : Int) : Int := setDate today ((civil today).day + 1)

def dueDays (today : Int) (count : Nat) (frequency : Frequency) : List Int :=
  (List.range count).map fun i : Nat => dueDay (firstDueDay today) frequency i

def computeDueDates (today : Int) (count : Nat) (frequency : Frequency) : List String :=
  (dueDays today count frequency).map isoDate

/-- `splitAmounts`; `unit` is `Math.floor((total / count) * 100)`, the last one takes the rest. -/
def splitAmounts (unit : Nat → Nat → Nat) (total count : Nat) : List Int :=
  (List.replicate count (unit total count : Int)).set (count - 1)
    (total - unit total count * (count - 1 : Nat))

theorem splitAmounts_eq (unit : Nat → Nat → Nat) (total count : Nat) :
    splitAmounts unit total (count + 1) =
      List.replicate count (unit total (count + 1) : Int) ++
        [(total : Int) - unit total (count + 1) * count] := by
  unfold splitAmounts
  rw [List.replicate_succ', Nat.add_sub_cancel, List.set_append_right _ _ (by simp)]
  simp

theorem splitAmounts_sum {unit : Nat → Nat → Nat} {total count : Nat} (hcount : 0 < count)
    (hunit : unit total count * count ≤ total) :
    (splitAmounts unit total count).length = count ∧
      (∀ amount ∈ splitAmounts unit total count, 0 ≤ amount) ∧
      (splitAmounts unit total count).sum = total := by
  obtain ⟨count, rfl⟩ := Nat.exists_eq_succ_of_ne_zero hcount.ne'
  have hlast : ((unit total (count + 1) * count : Nat) : Int) ≤ total :=
    Int.ofNat_le.mpr (Nat.le_trans (Nat.mul_le_mul_left _ (Nat.le_succ count)) hunit)
  rw [Nat.succ_eq_add_one, splitAmounts_eq]
  refine ⟨by simp, fun amount hamount => ?_, ?_⟩
  · rcases List.mem_append.mp hamount with hamount | hamount
    · rw [List.eq_of_mem_replicate hamount]
      exact Int.natCast_nonneg _
    · rw [List.mem_singleton.mp hamount]
      push_cast at hlast
      omega
  · rw [List.sum_append, List.sum_replicate, List.sum_singleton, nsmul_eq_mul, Int.mul_comm]
    omega

theorem firstDay_lt {month later : Int} (h : month < later) : firstDay month < firstDay later := by
  have hdays := (daysIn_range month).1
  have hmono : firstDay (month + 1) ≤ firstDay later := firstDay_mono h
  rw [daysIn] at hdays
  omega

theorem dueDay_lt (base : Int) (frequency : Frequency) {i j : Int} (h : i < j) :
    dueDay base frequency i < dueDay base frequency j := by
  cases frequency with
  | weekly =>
    simp only [dueDay, setDate_day]
    omega
  | biweekly =>
    simp only [dueDay, setDate_day]
    omega
  | monthly =>
    have hfirst := @firstDay_lt (monthIndex base + i) (monthIndex base + j) (by omega)
    simp only [dueDay, setMonth_add]
    omega

theorem monthIndex_dueDay (base i : Int) : monthIndex (dueDay base .monthly i) = monthIndex base + i ↔
    (civil base).day ≤ daysIn (monthIndex base + i) := by
  have hday := (civil_range base).2.1
  simp only [dueDay, setMonth_add, daysIn]
  constructor
  · intro hmonth
    have hlt := date_lt (firstDay (monthIndex base + i) + (civil base).day - 1)
    rw [hmonth] at hlt
    omega
  · intro hfits
    exact monthIndex_eq (by omega) (by omega)

/-- Amounts add up to the total, due dates increase, and a monthly plan has one in each month. -/
def Scheduled (unit : Nat → Nat → Nat) (today : Int) (frequency : Frequency) (total count : Nat) :
    Prop :=
  (splitAmounts unit total count).length = count ∧
    (∀ amount ∈ splitAmounts unit total count, 0 ≤ amount) ∧
    (splitAmounts unit total count).sum = total ∧
    (dueDays today count frequency).Pairwise (· < ·) ∧
    (frequency = .monthly → (dueDays today count frequency).map monthIndex =
      (List.range count).map fun i : Nat => monthIndex (firstDueDay today) + i)

/-- A monthly plan is scheduled exactly when its months have the first due day; others always are. -/
theorem installments_spec {unit : Nat → Nat → Nat}
    (hunit : ∀ total count, unit total count * count ≤ total) (today : Int) (frequency : Frequency)
    (total : Nat) {count : Nat} (hcount : 0 < count) :
    Scheduled unit today frequency total count ↔ (frequency = .monthly → ∀ i < count,
      (civil (firstDueDay today)).day ≤ daysIn (monthIndex (firstDueDay today) + i)) := by
  obtain ⟨hlength, hnonneg, hsum⟩ := splitAmounts_sum hcount (hunit total count)
  have hincreasing : (dueDays today count frequency).Pairwise (· < ·) := by
    refine List.pairwise_map.mpr (List.pairwise_lt_range.imp fun h => dueDay_lt _ frequency ?_)
    exact Int.ofNat_lt.mpr h
  rw [Scheduled, and_iff_right hlength, and_iff_right hnonneg, and_iff_right hsum,
    and_iff_right hincreasing]
  refine forall_congr' fun hmonthly => ?_
  subst hmonthly
  rw [dueDays, List.map_map, List.map_inj_left]
  simp only [List.mem_range, Function.comp_apply, monthIndex_dueDay]

/-- Three installments from 15 January 2026 on. -/
theorem installments_sample :
    Scheduled (fun total count => total / count) (dayNumber ⟨2026, 0, 14⟩) .monthly 10000 3 :=
  (installments_spec Nat.div_mul_le_self _ _ _ (by decide)).mpr fun _ => by decide

/-- From 31 January on there is no due date in February. -/
theorem february_skipped :
    ¬∀ (unit : Nat → Nat → Nat), (∀ total count, unit total count * count ≤ total) →
      ∀ (today : Int) (frequency : Frequency) (total count : Nat), 0 < total → 0 < count →
        Scheduled unit today frequency total count := by
  intro h
  have hmonths := (h (fun total count => total / count) Nat.div_mul_le_self
    (dayNumber ⟨2026, 0, 30⟩) .monthly 10000 3 (by decide) (by decide)).2.2.2.2 rfl
  exact absurd hmonths (by decide)

end FireIsp.Billing
