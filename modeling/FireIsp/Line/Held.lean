import FireIsp.Base.Always
import FireIsp.Line.Routes

/-!
# One line among the others

A contract with its only live account, what a statement does to the two of them, and which
statements are about another line.
-/

namespace FireIsp.Line

open Txn Throwing Client
open Lifecycle (ContractStatus ConnectionType)

/-- The contract with an id, its only live account, and accounts with ids of their own. -/
structure Held (contractId : Nat) (c : Contract) (r : Radius) (db : Db) : Prop where
  contract : (db.contracts.filter fun c => c.id = contractId) = [c]
  account : db.radius.filter (Radius.livesOn contractId) = [r]
  keyed : (db.radius.map Radius.id).Nodup

variable {contractId : Nat} {c : Contract} {r : Radius} {db : Db}

theorem filter_update {A : Type} {select matches_ : A → Bool} {set : A → A}
    (hset : ∀ a, select (set a) = select a) (rows : List A) :
    (update matches_ set rows).filter select =
      (rows.filter select).map fun a => if matches_ a then set a else a := by
  unfold update
  rw [List.filter_map]
  refine congrArg (List.map _) (List.filter_congr fun a _ => ?_)
  change select (if matches_ a then set a else a) = select a
  split_ifs
  · exact hset a
  · rfl

theorem Held.mem (h : Held contractId c r db) : c ∈ db.contracts ∧ c.id = contractId := by
  have hmem : c ∈ db.contracts.filter fun c => c.id = contractId :=
    h.contract ▸ List.mem_singleton_self c
  exact ⟨(List.mem_filter.mp hmem).1, of_decide_eq_true (List.mem_filter.mp hmem).2⟩

theorem Held.eq_contract (h : Held contractId c r db) {other : Contract}
    (hmem : other ∈ db.contracts) (hid : other.id = contractId) : other = c := by
  have hfilter : other ∈ db.contracts.filter fun c => c.id = contractId :=
    List.mem_filter.mpr ⟨hmem, decide_eq_true hid⟩
  rw [h.contract] at hfilter
  exact List.mem_singleton.mp hfilter

theorem Held.mem_account (h : Held contractId c r db) :
    r ∈ db.radius ∧ r.livesOn contractId = true := by
  have hmem : r ∈ db.radius.filter (Radius.livesOn contractId) :=
    h.account ▸ List.mem_singleton_self r
  exact List.mem_filter.mp hmem

theorem livesOn_ne {other : Nat} (hlives : r.livesOn contractId = true) (hne : other ≠ contractId) :
    r.livesOn other = false := by
  unfold Radius.livesOn at *
  have hid := of_decide_eq_true (Bool.and_eq_true_iff.mp hlives).1
  rw [hid, decide_eq_false (fun h => hne (Option.some.inj h).symm)]
  rfl

theorem Held.update_contracts (h : Held contractId c r db) {matches_ : Contract → Bool}
    {set : Contract → Contract} (hset : ∀ c, (set c).id = c.id) :
    Held contractId (if matches_ c then set c else c) r
      { db with contracts := update matches_ set db.contracts } := by
  refine ⟨?_, h.account, h.keyed⟩
  rw [filter_update (fun a => by rw [hset a]), h.contract]
  rfl

/-- What an update of accounts leaves as it is. -/
def Settles (set : Radius → Radius) : Prop :=
  ∀ r, (set r).id = r.id ∧ (set r).contractId = r.contractId ∧ (set r).deletedAt = r.deletedAt

theorem settles_status (status : Radius → RadiusStatus) :
    Settles fun r => { r with status := status r } := fun _ => ⟨rfl, rfl, rfl⟩

theorem Held.update_radius (h : Held contractId c r db) {matches_ : Radius → Bool}
    {set : Radius → Radius} (hset : Settles set) :
    Held contractId c (if matches_ r then set r else r)
      { db with radius := update matches_ set db.radius } := by
  have hlives : ∀ r, (set r).livesOn contractId = r.livesOn contractId := by
    intro r
    unfold Radius.livesOn Radius.live
    rw [(hset r).2.1, (hset r).2.2]
  refine ⟨h.contract, ?_, ?_⟩
  · rw [filter_update hlives, h.account]
    rfl
  · have hids : (update matches_ set db.radius).map Radius.id = db.radius.map Radius.id := by
      unfold update
      rw [List.map_map]
      refine List.map_congr_left fun a _ => ?_
      change (if matches_ a then set a else a).id = a.id
      split_ifs
      · exact (hset a).1
      · rfl
    exact hids ▸ h.keyed

theorem Held.write_logs (h : Held contractId c r db) (logs : List SuspensionLog) :
    Held contractId c r { db with logs := logs } := ⟨h.contract, h.account, h.keyed⟩

theorem lt_nextId {ids : List Nat} {id : Nat} (h : id ∈ ids) : id < nextId ids := by
  induction ids with
  | nil => exact absurd h List.not_mem_nil
  | cons first ids ih =>
    have hle : nextId ids ≤ nextId (first :: ids) :=
      Nat.succ_le_succ (Nat.le_max_right first (ids.foldr max 0))
    rcases List.mem_cons.mp h with rfl | h
    · exact Nat.lt_succ_of_le (Nat.le_max_left id (ids.foldr max 0))
    · exact Nat.lt_of_lt_of_le (ih h) hle

theorem Held.insert_radius (h : Held contractId c r db) {row : Radius}
    (hid : row.id = nextId (db.radius.map Radius.id)) (hother : row.livesOn contractId = false) :
    Held contractId c r { db with radius := db.radius ++ [row] } := by
  refine ⟨h.contract, ?_, ?_⟩
  · change (db.radius ++ [row]).filter _ = _
    rw [List.filter_append, h.account, List.filter_cons_of_neg (by rw [hother]; exact Bool.false_ne_true),
      List.filter_nil, List.append_nil]
  · change ((db.radius ++ [row]).map Radius.id).Nodup
    rw [List.map_append, List.map_singleton, List.nodup_append]
    refine ⟨h.keyed, List.nodup_singleton _, fun a ha b hb => ?_⟩
    obtain rfl := List.mem_singleton.mp hb
    rw [hid]
    exact Nat.ne_of_lt (lt_nextId ha)

/-- What a statement about a contract changes. -/
def Concerns (contractId : Nat) : Stmt → Prop
  | .updateContracts matches_ set => (∀ now c, matches_ now c = true → c.id = contractId) ∧
      ∀ now c, (set now c).id = c.id
  | .updateLines matches_ set => (∀ c accounts, matches_ c accounts = true → c.id = contractId) ∧
      ∀ c, (set c).id = c.id
  | .updateRadius matches_ set => (∀ r, matches_ r = true → r.livesOn contractId = true) ∧
      Settles set
  | .updateAccounts matches_ set => (∀ r c, matches_ r c = true → r.livesOn contractId = true) ∧
      Settles set
  | .updateLogs matches_ set => (∀ log, matches_ log = true → log.contractId = contractId) ∧
      ∀ now log, (set now log).contractId = log.contractId
  | .insertLog id row => id = contractId ∧ ∀ id now, (row id now).contractId = contractId
  | .insertRadius row => ∀ id, (row id).id = id ∧ (row id).contractId = some contractId
  | _ => True

theorem Held.updated (h : Held contractId c r db) {matches_ : Contract → Bool}
    {set : Contract → Contract} (hset : ∀ c, (set c).id = c.id) (hother : matches_ c = false) :
    Held contractId c r (engine.visible db (db.updated matches_ set).2) := by
  unfold Db.updated
  split_ifs
  · exact h
  · have hupdated : Held contractId (if matches_ c then set c else c) r
        { db with contracts := update matches_ set db.contracts } := h.update_contracts hset
    rw [hother] at hupdated
    exact hupdated

theorem Held.other (h : Held contractId c r db) {other : Nat} (hne : other ≠ contractId)
    {op : Stmt} (hop : Concerns other op) (tick : Nat) :
    Held contractId c r (engine.visible db (engine.exec op tick db db).2) := by
  have hcontract : ∀ {matches_ : Contract → Bool}, (∀ c, matches_ c = true → c.id = other) →
      matches_ c = false := by
    intro matches_ hmatches
    refine Bool.eq_false_iff.mpr fun hc => hne ?_
    rw [← hmatches c hc, h.mem.2]
  have haccount : ∀ {matches_ : Radius → Bool},
      (∀ r, matches_ r = true → r.livesOn other = true) → matches_ r = false := by
    intro matches_ hmatches
    refine Bool.eq_false_iff.mpr fun hr => ?_
    have hlives := hmatches r hr
    rw [livesOn_ne h.mem_account.2 hne] at hlives
    cases hlives
  cases op with
  | contracts matches_ => exact h
  | radius matches_ => exact h
  | logs matches_ => exact h
  | lines matches_ => exact h
  | updateContracts matches_ set => exact h.updated (hop.2 tick) (hcontract (hop.1 tick))
  | updateLines matches_ set =>
    exact h.updated hop.2 (hcontract fun c hc => hop.1 c (db.accounts c.id) hc)
  | updateRadius matches_ set =>
    have hupdated : Held contractId c (if matches_ r then set r else r)
        { db with radius := update matches_ set db.radius } := h.update_radius hop.2
    rw [haccount hop.1] at hupdated
    exact hupdated
  | updateAccounts matches_ set =>
    have hjoined : db.joined matches_ r = false := by
      refine haccount fun r hr => ?_
      obtain ⟨c, -, hc⟩ := List.any_eq_true.mp hr
      exact hop.1 r c (Bool.and_eq_true_iff.mp hc).2
    have hupdated : Held contractId c (if db.joined matches_ r then set r else r)
        { db with radius := update (db.joined matches_) set db.radius } := h.update_radius hop.2
    rw [hjoined] at hupdated
    exact hupdated
  | updateLogs matches_ set => exact h.write_logs _
  | insertLog id row =>
    change Held contractId c r (engine.visible db (if _ then _ else _ : Unit × List Db).2)
    split_ifs
    · exact h.write_logs _
    · exact h
  | insertRadius row =>
    refine h.insert_radius (hop _).1 ?_
    unfold Radius.livesOn
    rw [(hop _).2, decide_eq_false (fun h => hne (Option.some.inj h))]
    rfl
  | otherwise => exact h

end FireIsp.Line
