import Mathlib.Algebra.BigOperators.Ring.Finset
import FireIsp.Rollover.Discipline

/-!
# When rollover is spent once

An accrual overwrites what was granted, and a consumption adds what it took from what it read
before.  In every interleaving in which neither goes beyond what the row holds when it is written,
balances keep to their limits and the reported amounts add up to what was consumed.
-/

namespace FireIsp.Rollover

open Txn Finset

variable {cap : Nat → Option Nat} {tick : Nat} {db db' : Db}

/-- Statements keep to what is stored, and grants, consumptions and reads to their bounds. -/
def Fits (cap : Nat → Option Nat) (db : Db) : Act Stmt Query Answer → Prop
  | .cut => False
  | .sends (.accrue contractId billingMonth rolloverGb) =>
    4 * rolloverGb ≤ 10 * (((cap contractId).getD 0 : Nat) : Int) ∧
      ∀ row ∈ db, row.key = (contractId, billingMonth) → row.consumedRolloverGb ≤ rolloverGb
  | .sends (.consume id amount) => ∀ row ∈ db, row.id = id → amount ≤ row.available
  | .sends (.latest contractId currentMonth) =>
    (∀ row ∈ db.latest contractId, row.key = (contractId, currentMonth) ∨ row.available = 0) ∧
      ∀ row ∈ db, row.key = (contractId, currentMonth) → row ∈ db.latest contractId
  | _ => True

instance (cap : Nat → Option Nat) (db : Db) : DecidablePred (Fits cap db)
  | .cut => isFalse not_false
  | .sends (.accrue _ _ _) => inferInstanceAs (Decidable (_ ∧ _))
  | .sends (.consume _ _) => inferInstanceAs (Decidable (∀ row ∈ db, _))
  | .sends (.latest _ _) => inferInstanceAs (Decidable (_ ∧ _))
  | .sends (.current _ _) => isTrue trivial
  | .quiet => isTrue trivial
  | .hears _ _ => isTrue trivial

variable {contractId billingMonth : Nat} {row : Balance}

theorem mem_of_balance (h : db.balance contractId billingMonth = some row) :
    row ∈ db ∧ row.key = (contractId, billingMonth) :=
  ⟨List.mem_of_find?_eq_some h, by simpa using List.find?_some h⟩

theorem not_mem_of_balance (h : db.balance contractId billingMonth = none) :
    (contractId, billingMonth) ∉ db.map Balance.key := by
  intro hmem
  obtain ⟨row, hrow, hkey⟩ := List.mem_map.mp hmem
  exact absurd (decide_eq_true hkey) (List.find?_eq_none.mp h row hrow)

variable {id : Nat} {f : Balance → Balance}

theorem mem_modify (h : row ∈ Table.modify Balance.id id f db) :
    row ∈ db ∨ ∃ old ∈ db, old.id = id ∧ row = f old := by
  obtain ⟨old, hold, rfl⟩ := List.mem_map.mp h
  split_ifs with hid
  · exact Or.inr ⟨old, hold, hid, rfl⟩
  · exact Or.inl hold

theorem kept_modify (hid : ∀ row, (f row).id = row.id) (hkey : ∀ row, (f row).key = row.key)
    (h : row ∈ db) :
    ∃ row' ∈ Table.modify Balance.id id f db, row'.id = row.id ∧ row'.key = row.key := by
  refine ⟨_, List.mem_map_of_mem h, ?_⟩
  split_ifs
  · exact ⟨hid row, hkey row⟩
  · exact ⟨rfl, rfl⟩

theorem Balance.id_grant (rolloverGb : Int) (row : Balance) :
    (row.grant rolloverGb).id = row.id := rfl

theorem Balance.key_grant (rolloverGb : Int) (row : Balance) :
    (row.grant rolloverGb).key = row.key := rfl

theorem Balance.id_consume (amount : Int) (row : Balance) :
    (row.consume amount).id = row.id := rfl

theorem Balance.key_consume (amount : Int) (row : Balance) :
    (row.consume amount).key = row.key := rfl

theorem Sound.modify (h : Sound cap tick db) (hid : ∀ row, (f row).id = row.id)
    (hkey : ∀ row, (f row).key = row.key)
    (hlimited : ∀ row ∈ db, row.id = id → Limited cap (f row)) :
    Sound cap (tick + 1) (Table.modify Balance.id id f db) := by
  have hkeys : (Table.modify Balance.id id f db).map Balance.key = db.map Balance.key := by
    rw [Table.modify, List.map_map]
    refine List.map_congr_left fun row _ => ?_
    change Balance.key (if row.id = id then f row else row) = row.key
    split_ifs
    · exact hkey row
    · rfl
  refine ⟨Table.keyed_modify h.keyed hid, fun row hrow => ?_, ?_, fun row hrow => ?_⟩
  · rcases mem_modify hrow with hold | ⟨old, hold, -, rfl⟩
    · exact Nat.lt_succ_of_lt (h.below row hold)
    · rw [hid]
      exact Nat.lt_succ_of_lt (h.below old hold)
  · have hunique := h.unique
    unfold Table.Keyed at hunique ⊢
    rwa [hkeys]
  · rcases mem_modify hrow with hold | ⟨old, hold, hold_id, rfl⟩
    · exact h.limited row hold
    · exact hlimited old hold hold_id

theorem Sound.insert (h : Sound cap tick db) (hid : row.id = tick)
    (hnew : row.key ∉ db.map Balance.key) (hlimited : Limited cap row) :
    Sound cap (tick + 1) (db ++ [row]) := by
  have hsingle : ∀ row' ∈ db ++ [row], row' ∈ db ∨ row' = row := fun row' hmem =>
    (List.mem_append.mp hmem).imp_right List.mem_singleton.mp
  have hunused : row.id ∉ db.map Balance.id := by
    intro hmem
    obtain ⟨old, hold, hsame⟩ := List.mem_map.mp hmem
    have := h.below old hold
    omega
  refine ⟨?_, fun row' hmem => ?_, ?_, fun row' hmem => ?_⟩
  · unfold Table.Keyed
    rw [List.map_append]
    exact List.nodup_append.mpr ⟨h.keyed, List.nodup_singleton _, by
      rintro a ha b hb rfl
      exact hunused (List.mem_singleton.mp hb ▸ ha)⟩
  · rcases hsingle row' hmem with hold | rfl
    · exact Nat.lt_succ_of_lt (h.below row' hold)
    · omega
  · unfold Table.Keyed
    rw [List.map_append]
    exact List.nodup_append.mpr ⟨h.unique, List.nodup_singleton _, by
      rintro a ha b hb rfl
      exact hnew (List.mem_singleton.mp hb ▸ ha)⟩
  · rcases hsingle row' hmem with hold | rfl
    · exact h.limited row' hold
    · exact hlimited

theorem Sound.later (h : Sound cap tick db) : Sound cap (tick + 1) db :=
  { h with below := fun row hrow => Nat.lt_succ_of_lt (h.below row hrow) }

theorem consumed_grant (id : Nat) (rolloverGb : Int) (contractId billingMonth : Nat) :
    Db.consumed (Table.modify Balance.id id (Balance.grant rolloverGb) db) contractId
      billingMonth = db.consumed contractId billingMonth := by
  unfold Db.consumed Table.weightAt Table.total Table.modify
  rw [List.map_map]
  refine congrArg List.sum (List.map_congr_left fun row _ => ?_)
  change (fun row : Balance => if row.key = (contractId, billingMonth) then
    row.consumedRolloverGb else 0) (if row.id = id then row.grant rolloverGb else row) = _
  by_cases hid : row.id = id
  · rw [if_pos hid]
    rfl
  · rw [if_neg hid]

theorem consumed_consume (h : Table.Keyed Balance.id db) (hrow : row ∈ db) (amount : Int)
    (contractId billingMonth : Nat) :
    Db.consumed (Table.modify Balance.id row.id (Balance.consume amount) db) contractId
      billingMonth = db.consumed contractId billingMonth +
        if row.key = (contractId, billingMonth) then amount else 0 := by
  unfold Db.consumed Table.weightAt Table.modify
  rw [Table.total, List.map_map]
  refine Table.total_shift h hrow ?_ fun other hother hne => ?_
  · simp only [Function.comp_apply, if_true]
    change (if row.key = (contractId, billingMonth) then row.consumedRolloverGb + amount else 0) = _
    split_ifs <;> rfl
  · simp only [Function.comp_apply, if_neg hne]

theorem consumed_insert (h : row.consumedRolloverGb = 0) (contractId billingMonth : Nat) :
    Db.consumed (db ++ [row]) contractId billingMonth = db.consumed contractId billingMonth := by
  unfold Db.consumed Table.weightAt
  rw [Table.total_append, Table.total_cons, Table.total_nil, h, ite_self]
  omega

theorem sum_latest (h : Sound cap tick db) {currentMonth : Nat}
    (hold : ∀ row ∈ db.latest contractId, row.key = (contractId, currentMonth) ∨ row.available = 0)
    (hcurrent : ∀ row ∈ db, row.key = (contractId, currentMonth) → row ∈ db.latest contractId) :
    ((db.latest contractId).map Balance.available).sum =
      db.unconsumed contractId currentMonth := by
  have hsorted : List.Perm ((db.filter fun row => row.contractId = contractId).insertionSort
      fun a b => b.billingMonth ≤ a.billingMonth)
      (db.filter fun row => row.contractId = contractId) := List.perm_insertionSort _ _
  have hsub : ∀ row ∈ db.latest contractId, row ∈ db := fun row hrow =>
    (List.mem_filter.mp (hsorted.subset (List.mem_of_mem_take hrow))).1
  have hkeyed : Table.Keyed Balance.key (db.latest contractId) := by
    have hfiltered : Table.Keyed Balance.key (db.filter fun row => row.contractId = contractId) :=
      h.unique.sublist (List.filter_sublist.map _)
    exact ((hsorted.map Balance.key).nodup_iff.mpr hfiltered).sublist
      ((List.take_sublist _ _).map _)
  -- Older balances weigh nothing, so the sum is the weight of the current month.
  have hweigh : ((db.latest contractId).map Balance.available).sum =
      Table.weightAt Balance.key Balance.available (contractId, currentMonth)
        (db.latest contractId) := by
    refine congrArg List.sum (List.map_congr_left fun row hrow => ?_)
    rcases hold row hrow with hkey | hspent
    · exact (if_pos hkey).symm
    · rw [hspent, ite_self]
  rw [hweigh, Db.unconsumed]
  by_cases hmem : (contractId, currentMonth) ∈ db.map Balance.key
  · obtain ⟨row, hrow, hkey⟩ := List.mem_map.mp hmem
    rw [← hkey, Table.weightAt_of_mem hkeyed (hcurrent row hrow hkey),
      Table.weightAt_of_mem h.unique hrow]
  · have hnone : (contractId, currentMonth) ∉ (db.latest contractId).map Balance.key := by
      intro hlatest
      obtain ⟨row, hrow, hkey⟩ := List.mem_map.mp hlatest
      exact hmem (List.mem_map.mpr ⟨row, hsub row hrow, hkey⟩)
    rw [Table.weightAt_of_not_mem hnone, Table.weightAt_of_not_mem hmem]

/-- What holds of calls on the balances: of `count` calls, from a table on. -/
structure SpendInv (cap : Nat → Option Nat) (count : Nat) (before : Db) (tick : Nat) (db : Db)
    (knows : Nat → Option Know) : Prop where
  sound : Sound cap tick db
  absent : ∀ i, count ≤ i → knows i = none
  /-- A row that was read is there, and did not have less than nothing left. -/
  found : ∀ i contractId billingMonth id available,
    knows i = some (.found contractId billingMonth id available) → 0 ≤ available ∧
      ∃ row ∈ db, row.id = id ∧ row.key = (contractId, billingMonth)
  /-- The latest balances have added up to what was left of the current month. -/
  summed : ∀ i available unconsumed,
    knows i = some (.summed available unconsumed) → available = unconsumed
  spent : ∀ contractId billingMonth, db.consumed contractId billingMonth =
    before.consumed contractId billingMonth +
      ∑ i ∈ range count, (knows i).elim 0 (Know.spends contractId billingMonth)

variable {count i : Nat}

theorem sum_update (hi : i < count) (knows : Nat → Option Know) (know : Option Know)
    (f : Option Know → Int) :
    ∑ j ∈ range count, f (Function.update knows i know j) =
      ∑ j ∈ range count, f (knows j) + (f know - f (knows i)) := by
  have hmem := mem_range.mpr hi
  have hrest : ∑ j ∈ (range count).erase i, f (Function.update knows i know j) =
      ∑ j ∈ (range count).erase i, f (knows j) := by
    refine sum_congr rfl fun j hj => ?_
    rw [Function.update_of_ne (ne_of_mem_erase hj)]
  rw [← add_sum_erase _ _ hmem, ← add_sum_erase _ (fun j => f (knows j)) hmem, hrest,
    Function.update_self]
  omega

variable {before : Db} {knows : Nat → Option Know}

theorem SpendInv.update {know know' : Know} (h : SpendInv cap count before tick db knows)
    (hknow : knows i = some know) (hsound : Sound cap (tick + 1) db')
    (hkept : ∀ row ∈ db, ∃ row' ∈ db', row'.id = row.id ∧ row'.key = row.key)
    (hfound : ∀ contractId billingMonth id available,
      know' = .found contractId billingMonth id available → 0 ≤ available ∧
        ∃ row ∈ db, row.id = id ∧ row.key = (contractId, billingMonth))
    (hsummed : ∀ available unconsumed, know' = .summed available unconsumed →
      available = unconsumed)
    (hspent : ∀ contractId billingMonth, db'.consumed contractId billingMonth =
      db.consumed contractId billingMonth +
        (know'.spends contractId billingMonth - know.spends contractId billingMonth)) :
    SpendInv cap count before (tick + 1) db' (Function.update knows i (some know')) := by
  have hi : i < count := by
    by_contra hge
    rw [h.absent i (by omega)] at hknow
    exact nomatch hknow
  have hstill : ∀ {id contractId billingMonth : Nat},
      (∃ row ∈ db, row.id = id ∧ row.key = (contractId, billingMonth)) →
      ∃ row ∈ db', row.id = id ∧ row.key = (contractId, billingMonth) := by
    rintro id contractId billingMonth ⟨row, hrow, rfl, hkey⟩
    obtain ⟨row', hrow', hid, hkey'⟩ := hkept row hrow
    exact ⟨row', hrow', hid, hkey'.trans hkey⟩
  refine ⟨hsound, fun j hj => ?_, fun j c m id available hj => ?_, fun j a u hj => ?_,
    fun c m => ?_⟩
  · rw [Function.update_of_ne (by omega)]
    exact h.absent j hj
  · by_cases hji : j = i
    · subst hji
      rw [Function.update_self] at hj
      exact (hfound c m id available (Option.some.inj hj)).imp_right hstill
    · rw [Function.update_of_ne hji] at hj
      exact (h.found j c m id available hj).imp_right hstill
  · by_cases hji : j = i
    · subst hji
      rw [Function.update_self] at hj
      exact hsummed a u (Option.some.inj hj)
    · rw [Function.update_of_ne hji] at hj
      exact h.summed j a u hj
  · rw [hspent, h.spent, sum_update hi knows (some know') fun know =>
      know.elim 0 (Know.spends c m), hknow]
    simp only [Option.elim_some]
    omega

theorem SpendInv.later (h : SpendInv cap count before tick db knows) :
    SpendInv cap count before (tick + 1) db knows :=
  { h with sound := h.sound.later }

theorem SpendInv.quiet {know : Know} (h : SpendInv cap count before tick db knows)
    (hknow : knows i = some know) :
    SpendInv cap count before (tick + 1) db (Function.update knows i (some know)) := by
  rw [← hknow, Function.update_eq_self]
  exact h.later

theorem SpendInv.accrue (h : SpendInv cap count before tick db knows)
    (hknow : knows i = some .nothing) {rolloverGb : Int} (hnonneg : 0 ≤ rolloverGb)
    (hfits : Fits cap db (.sends (.accrue contractId billingMonth rolloverGb))) :
    SpendInv cap count before (tick + 1)
      (engine.visible db (accrued tick contractId billingMonth rolloverGb db))
      (Function.update knows i (some .nothing)) := by
  obtain ⟨hquarter, hconsumed⟩ := hfits
  unfold accrued
  cases hfound : db.balance contractId billingMonth with
  | some row =>
    obtain ⟨hrow, hkey⟩ := mem_of_balance hfound
    refine h.update hknow (h.sound.modify (fun _ => rfl) (fun _ => rfl) fun old hold hid => ?_)
      (fun _ => kept_modify (Balance.id_grant rolloverGb) (Balance.key_grant rolloverGb)) nofun
      nofun fun c m => ?_
    · obtain rfl : old = row := List.inj_on_of_nodup_map h.sound.keyed hold hrow hid
      have hcontract : old.contractId = contractId := congrArg Prod.fst hkey
      refine ⟨(h.sound.limited old hold).nonneg, hconsumed old hold hkey, ?_⟩
      change 4 * rolloverGb ≤ 10 * (((cap old.contractId).getD 0 : Nat) : Int)
      rw [hcontract]
      exact hquarter
    · rw [sub_self, add_zero]
      exact consumed_grant row.id rolloverGb c m
  | none =>
    refine h.update hknow (h.sound.insert rfl (not_mem_of_balance hfound) ?_)
      (fun row hrow => ⟨row, List.mem_append_left _ hrow, rfl, rfl⟩) nofun nofun fun c m => ?_
    · exact ⟨le_rfl, hnonneg, hquarter⟩
    · rw [sub_self, add_zero]
      exact consumed_insert rfl c m

theorem SpendInv.consume (h : SpendInv cap count before tick db knows) {available amount : Int}
    (hknow : knows i = some (.found contractId billingMonth id available))
    (hnonneg : 0 ≤ available → 0 ≤ amount) (hfits : Fits cap db (.sends (.consume id amount))) :
    SpendInv cap count before (tick + 1)
      (Table.modify Balance.id id (Balance.consume amount) db)
      (Function.update knows i (some (.spent contractId billingMonth amount))) := by
  obtain ⟨havailable, row, hrow, rfl, hkey⟩ := h.found i _ _ _ _ hknow
  refine h.update hknow (h.sound.modify (fun _ => rfl) (fun _ => rfl) fun old hold hid => ?_)
    (fun _ => kept_modify (Balance.id_consume amount) (Balance.key_consume amount)) nofun nofun
    fun c m => ?_
  · have hlimited := h.sound.limited old hold
    have hleft := hfits old hold hid
    unfold Balance.available at hleft
    have hpositive := hnonneg havailable
    have hbefore := hlimited.nonneg
    refine ⟨?_, ?_, hlimited.quarter⟩
    · change 0 ≤ old.consumedRolloverGb + amount
      omega
    · change old.consumedRolloverGb + amount ≤ old.rolloverGb
      omega
  · rw [consumed_consume h.sound.keyed hrow, hkey]
    simp only [Know.spends]
    omega

theorem SpendInv.read (h : SpendInv cap count before tick db knows)
    (hknow : knows i = some .nothing) (contractId billingMonth : Nat) :
    SpendInv cap count before (tick + 1) db (Function.update knows i
      (some (Know.read contractId billingMonth (db.balance contractId billingMonth)))) := by
  cases hfound : db.balance contractId billingMonth with
  | none => exact h.quiet hknow
  | some row =>
    obtain ⟨hrow, hkey⟩ := mem_of_balance hfound
    refine h.update hknow h.sound.later (fun row hrow => ⟨row, hrow, rfl, rfl⟩)
      (fun c m id available hread => ?_) nofun fun c m => ?_
    · obtain ⟨rfl, rfl, rfl, rfl⟩ := Know.found.inj hread
      exact ⟨sub_nonneg.mpr (h.sound.limited row hrow).granted, row, hrow, rfl, hkey⟩
    · exact (add_zero _).symm

theorem SpendInv.step {know' : Option Know} (h : SpendInv cap count before tick db knows)
    (hd : Pooled engine sent asked (Fits cap db) tick db (knows i) db' know') :
    SpendInv cap count before (tick + 1) db' (Function.update knows i know') := by
  generalize hknow : knows i = known at hd
  cases hd with
  | idle =>
    rw [← hknow, Function.update_eq_self]
    exact h.later
  | cut _ hcut => exact hcut.elim
  | call know q learn hk answer hmay =>
    cases know with
    | nothing =>
      obtain rfl := Option.some.inj hk
      exact h.quiet hknow
    | _ => exact nomatch hk
  | send know op learn hk hmay =>
    cases know with
    | nothing =>
      cases op with
      | accrue contractId billingMonth rolloverGb =>
        simp only [sent] at hk
        split_ifs at hk with hnonneg
        obtain rfl := Option.some.inj hk
        exact h.accrue hknow hnonneg hmay
      | current contractId billingMonth =>
        obtain rfl := Option.some.inj hk
        exact h.read hknow contractId billingMonth
      | latest contractId currentMonth =>
        obtain rfl := Option.some.inj hk
        refine h.update hknow h.sound.later (fun row hrow => ⟨row, hrow, rfl, rfl⟩) nofun
          (fun a u hread => ?_) fun c m => ?_
        · obtain ⟨rfl, rfl⟩ := Know.summed.inj hread
          exact sum_latest h.sound hmay.1 hmay.2
        · exact (add_zero _).symm
      | consume => exact nomatch hk
    | found contractId billingMonth id available =>
      cases op with
      | consume id' amount =>
        simp only [sent] at hk
        split_ifs at hk with hcond
        obtain ⟨rfl, hnonneg⟩ := hcond
        obtain rfl := Option.some.inj hk
        exact h.consume hknow hnonneg hmay
      | _ => exact nomatch hk
    | spent => exact nomatch hk
    | summed => exact nomatch hk

variable {calls : List Call} {s : System}

theorem opening_tracks (hexact : ∀ call ∈ calls, call.Exact) (i : Nat) :
    TracksTo tracking (EndedIn cap) ((opening cap tick db calls).sessions i)
      ⟨calls[i]?.map fun _ => .nothing, none⟩ := by
  refine ⟨rfl, fun p hp => ?_⟩
  obtain ⟨call, hcall, rfl⟩ := Option.map_eq_some_iff.mp hp
  exact ⟨.nothing, by rw [hcall]; rfl, follows_run (hexact call (List.mem_of_getElem? hcall))⟩

theorem opening_inv (h : Sound cap tick db) :
    SpendInv cap calls.length db tick db fun i => calls[i]?.map fun _ => .nothing := by
  have hnothing : ∀ {i : Nat} {know : Know},
      (calls[i]?.map fun _ => Know.nothing) = some know → know = .nothing := by
    intro i know hknow
    obtain ⟨call, -, rfl⟩ := Option.map_eq_some_iff.mp hknow
    rfl
  refine ⟨h, fun i hi => ?_, fun i c m id available hknow => ?_, fun i a u hknow => ?_,
    fun c m => ?_⟩
  · rw [List.getElem?_eq_none hi]
    rfl
  · exact nomatch hnothing hknow
  · exact nomatch hnothing hknow
  · rw [sum_eq_zero, add_zero]
    intro i _
    cases calls[i]? <;> rfl

theorem gigabytes_sum (indices : Finset Nat) (amount : Nat → Int) :
    ∑ i ∈ indices, gigabytes (amount i) = gigabytes (∑ i ∈ indices, amount i) := by
  simp only [gigabytes, Int.cast_sum, div_eq_mul_inv, sum_mul]

theorem reported_of_tracks {know : Option Know} (contractId billingMonth : Nat)
    (ht : TracksTo tracking (EndedIn cap) (s.sessions i) ⟨know, none⟩)
    (hprog : (s.sessions i).prog ≠ none) :
    (s.answer i).elim 0 (Outcome.reported contractId billingMonth) =
      gigabytes (know.elim 0 (Know.spends contractId billingMonth)) := by
  obtain ⟨p, hp⟩ := Option.ne_none_iff_exists'.mp hprog
  obtain ⟨known, rfl, hfollows⟩ := ht.follows p hp
  unfold Sys.answer
  rw [hp]
  -- Nothing follows what was spent, so a call that goes on has spent nothing.
  cases p with
  | done outcome => exact hfollows.reported contractId billingMonth
  | start next => exact nomatch hfollows.choose_spec.1
  | commit next => exact nomatch hfollows.choose_spec.1
  | rollback next => exact nomatch hfollows.choose_spec.1
  | stmt via op next =>
    cases known with
    | spent => cases via <;> exact nomatch hfollows.choose_spec.1
    | _ => exact gigabytes_zero.symm
  | call q next =>
    cases known with
    | spent => exact nomatch hfollows.choose_spec.1
    | _ => exact gigabytes_zero.symm

/-- Four gigabytes a month. -/
def sampleCap : Nat → Option Nat := fun _ => some 400

/-- It is the fifth month, and one of the four gigabytes of the month before was used. -/
def sampleWorld : (q : Query) → Answer q
  | .now => 5
  | .contracts _ => [1]
  | .usage _ _ => ⟨1, 0, 30, 0⟩
  | .contract _ => true
  | .packs _ => 2

def sampleCalls (gb : Rat) : List Call :=
  [.accrue none, .consume 1 gb, .consume 1 gb, .allowance 1]

/-- One call after the other. -/
def inTurn : List Choice :=
  [0, 0, 0, 0, 1, 1, 1, 2, 2, 2, 3, 3, 3, 3].map fun i => .step i sampleWorld

/-- A month before the current one has a balance that is used up. -/
def spentDb : Db := [⟨0, 1, 4, 500, 500⟩]

theorem spentDb_sound : Sound sampleCap 1 spentDb := by
  refine ⟨by decide, by decide, by decide, fun row hrow => ?_⟩
  obtain rfl := List.mem_singleton.mp hrow
  exact ⟨by decide, by decide, by decide⟩

def Call.NonNegative : Call → Prop
  | .consume _ gb => 0 ≤ gb
  | _ => True

/-- After the accrual both consumptions go on in turn. -/
def besideEachOther : List Choice :=
  [0, 0, 0, 0, 1, 2, 1, 2, 1, 2, 3, 3, 3, 3].map fun i => .step i sampleWorld

/-- A month before the current one has something left. -/
def leftDb : Db := [⟨0, 1, 4, 500, 0⟩]

theorem leftDb_sound : Sound sampleCap 1 leftDb := by
  refine ⟨by decide, by decide, by decide, fun row hrow => ?_⟩
  obtain rfl := List.mem_singleton.mp hrow
  exact ⟨by decide, by decide, by decide⟩

end FireIsp.Rollover
