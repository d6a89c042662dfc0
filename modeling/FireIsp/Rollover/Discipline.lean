import Mathlib.Tactic.Linarith
import FireIsp.Rollover.Service

/-!
# What calls on the balances know

A call that consumes reads what is available and takes no more than that in a later statement.
Amounts in thousandths of a gigabyte are stored and reported as they are.
-/

namespace FireIsp.Rollover

open Txn

variable {cap : Nat → Option Nat}

@[simp] theorem gigabytes_zero : gigabytes 0 = 0 := by
  rw [gigabytes, Int.cast_zero, zero_div]

@[simp] theorem gigabytes_sub (a b : Int) : gigabytes (a - b) = gigabytes a - gigabytes b := by
  simp only [gigabytes, Int.cast_sub, sub_div]

@[simp] theorem gigabytes_add (a b : Int) : gigabytes (a + b) = gigabytes a + gigabytes b := by
  simp only [gigabytes, Int.cast_add, add_div]

theorem gigabytes_le {a b : Int} : gigabytes a ≤ gigabytes b ↔ a ≤ b := by
  rw [gigabytes, gigabytes, div_le_div_iff_of_pos_right (by norm_num), Int.cast_le]

theorem gigabytes_min (a b : Int) : gigabytes (min a b) = min (gigabytes a) (gigabytes b) := by
  rcases le_total a b with h | h
  · rw [min_eq_left h, min_eq_left (gigabytes_le.mpr h)]
  · rw [min_eq_right h, min_eq_right (gigabytes_le.mpr h)]

@[simp] theorem toFixed_gigabytes (thousandths : Int) :
    toFixed (gigabytes thousandths) = thousandths := by
  have hexact : ∀ n : Int, ⌊gigabytes n * 1000 + 1 / 2⌋ = n := by
    intro n
    rw [gigabytes, div_mul_cancel₀ _ (by norm_num), Int.floor_eq_iff]
    constructor <;> linarith
  unfold toFixed
  split_ifs with hneg
  · have hminus : -gigabytes thousandths = gigabytes (-thousandths) := by
      simp only [gigabytes, Int.cast_neg, neg_div]
    rw [hminus, hexact, neg_neg]
  · exact hexact thousandths

theorem toFixed_nonneg {x : Rat} (h : 0 ≤ x) : 0 ≤ toFixed x := by
  rw [toFixed, if_neg (not_lt.mpr h)]
  exact Int.floor_nonneg.mpr (by linarith)

theorem rolloverGb_nonneg {contractId : Nat} {usedGb : Rat} (h : usedGb < capGb cap contractId) :
    0 ≤ rolloverGb cap contractId usedGb := by
  have hcap : 0 ≤ capGb cap contractId := by
    unfold capGb
    positivity
  exact le_min (by linarith) (by linarith)

/-- What a call knows. -/
inductive Know
  | nothing
  | found (contractId billingMonth id : Nat) (available : Int)
  | spent (contractId billingMonth : Nat) (amount : Int)
  /-- The sum of the latest balances, and what was left of the current month. -/
  | summed (available unconsumed : Int)

/-- What was consumed of a balance. -/
def Know.spends (contractId billingMonth : Nat) : Know → Int
  | spent contractId' billingMonth' amount =>
    if (contractId', billingMonth') = (contractId, billingMonth) then amount else 0
  | _ => 0

/-- What a call knows once it has read a balance. -/
def Know.read (contractId billingMonth : Nat) : Option Balance → Know
  | none => nothing
  | some row => found contractId billingMonth row.id row.available

/-- What a call may send. -/
def sent : Know → (op : Stmt) → Option (op.Res → Know)
  | .nothing, .accrue _ _ rolloverGb => if 0 ≤ rolloverGb then some fun _ => .nothing else none
  | .nothing, .current contractId billingMonth => some (Know.read contractId billingMonth)
  | .nothing, .latest _ _ =>
    some fun seen => .summed (seen.rows.map Balance.available).sum seen.unconsumed
  | .found contractId billingMonth id available, .consume id' amount =>
    if id' = id ∧ (0 ≤ available → 0 ≤ amount) then
      some fun _ => .spent contractId billingMonth amount
    else none
  | _, _ => none

def asked : Know → (q : Query) → Option (Answer q → Know)
  | .nothing, _ => some fun _ => .nothing
  | _, _ => none

/-- What calls keep to. -/
abbrev tracking : Discipline Know Stmt Stmt.Res Query Answer := Discipline.pooled sent asked

/-- What a call reports as consumed of a balance. -/
def Outcome.reported (contractId billingMonth : Nat) : Outcome → Rat
  | consumed contractId' billingMonth' amount _ =>
    if (contractId', billingMonth') = (contractId, billingMonth) then amount else 0
  | _ => 0

/-- What a call that has returned knows. -/
structure EndedIn (cap : Nat → Option Nat) (outcome : Outcome) (know : Know) : Prop where
  reported : ∀ contractId billingMonth,
    outcome.reported contractId billingMonth = gigabytes (know.spends contractId billingMonth)
  allowance : ∀ contractId allowance, outcome = .allowance contractId (some allowance) →
    ∃ available, know = .summed available allowance.unconsumed ∧
      allowance.totalGb = capGb cap contractId + allowance.packGb + gigabytes available

theorem EndedIn.plain {outcome : Outcome} (hreported : ∀ c m, outcome.reported c m = 0)
    (hallowance : ∀ contractId allowance, outcome ≠ .allowance contractId (some allowance)) :
    EndedIn cap outcome .nothing := by
  refine ⟨fun c m => ?_, fun contractId allowance h => absurd h (hallowance contractId allowance)⟩
  rw [hreported]
  exact gigabytes_zero.symm

theorem follows_accrueContract (billingMonth contractId : Nat) :
    (accrueContract cap billingMonth contractId).Follows tracking .nothing
      fun _ know => know = .nothing := by
  refine ⟨_, rfl, fun usage => ?_⟩
  change (ite (usage.Certain ∧ usage.usedGb < capGb cap contractId) _ _ : Program Bool).Follows
    tracking .nothing _
  split_ifs with h
  · exact ⟨_, if_pos (toFixed_nonneg (rolloverGb_nonneg h.2)), fun _ => rfl⟩
  · rfl

theorem follows_accrueContracts (billingMonth : Nat) (contracts : List Nat) :
    (accrueContracts cap billingMonth contracts).Follows tracking .nothing
      fun _ know => know = .nothing := by
  induction contracts with
  | nil => rfl
  | cons contractId contracts ih =>
    refine (follows_accrueContract billingMonth contractId).bind fun _ know hknow => ?_
    subst hknow
    refine ih.bind fun _ know hknow => ?_
    exact hknow

theorem follows_accrueRollover (organizationId : Option Nat) :
    (accrueRollover cap organizationId).Follows tracking .nothing (EndedIn cap) := by
  refine ⟨_, rfl, fun billingMonth => ⟨_, rfl, fun active => ?_⟩⟩
  refine (follows_accrueContracts billingMonth _).bind fun _ know hknow => ?_
  subst hknow
  exact .plain (fun _ _ => rfl) nofun

theorem follows_consumeRollover (contractId thousandths : Nat) :
    (consumeRollover contractId (gigabytes thousandths)).Follows tracking .nothing (EndedIn cap) := by
  refine ⟨_, rfl, fun currentMonth => ⟨_, rfl, fun row => ?_⟩⟩
  cases row with
  | none => exact .plain (fun _ _ => ite_self _) nofun
  | some row =>
    have hamount : min (gigabytes thousandths)
        (gigabytes row.rolloverGb - gigabytes row.consumedRolloverGb) =
        gigabytes (min thousandths row.available) := by
      rw [gigabytes_min, Balance.available, gigabytes_sub]
    refine ⟨fun _ => .spent contractId currentMonth (min thousandths row.available), ?_,
      fun _ => ⟨fun c m => ?_, nofun⟩⟩
    · rw [hamount, toFixed_gigabytes]
      exact if_pos ⟨rfl, fun h => le_min (Int.natCast_nonneg _) h⟩
    · rw [hamount]
      simp only [Outcome.reported, Know.spends]
      split_ifs
      · rfl
      · exact gigabytes_zero.symm

theorem sum_gigabytes (rows : List Balance) :
    (rows.map fun row => gigabytes row.available).sum =
      gigabytes (rows.map Balance.available).sum := by
  induction rows with
  | nil => exact gigabytes_zero.symm
  | cons row rows ih => rw [List.map_cons, List.map_cons, List.sum_cons, List.sum_cons, ih,
      gigabytes_add]

theorem follows_getEffectiveAllowance (contractId : Nat) :
    (getEffectiveAllowance cap contractId).Follows tracking .nothing (EndedIn cap) := by
  refine ⟨_, rfl, fun found => ?_⟩
  cases found with
  | false => exact .plain (fun _ _ => rfl) nofun
  | true =>
    refine ⟨_, rfl, fun packGb => ⟨_, rfl, fun currentMonth => ⟨_, rfl, fun seen => ?_⟩⟩⟩
    refine ⟨fun c m => ?_, fun contractId' allowance h => ?_⟩
    · exact gigabytes_zero.symm
    · obtain ⟨rfl, hallowance⟩ := Outcome.allowance.inj h
      obtain rfl := Option.some.inj hallowance
      exact ⟨_, rfl, by rw [← sum_gigabytes]⟩

theorem follows_run {call : Call} (h : call.Exact) :
    (call.run cap).Follows tracking .nothing (EndedIn cap) := by
  cases call with
  | accrue organizationId => exact follows_accrueRollover organizationId
  | consume contractId gb =>
    obtain ⟨thousandths, rfl⟩ := h
    exact follows_consumeRollover contractId thousandths
  | allowance contractId => exact follows_getEffectiveAllowance contractId

end FireIsp.Rollover
