import FireIsp.Base.Versions
import FireIsp.Inventory.Statements

/-!
# Versions of units, stock rows and lines

The inventory as tables of rows with versions: the item of a unit, the item of a stock row and the
order of a line never change.
-/

namespace FireIsp.Inventory

open Txn

/-- Versions of one unit. -/
def CpeDevice.Same (a b : CpeDevice) : Prop := b = { a with columns := b.columns }

/-- Versions of one stock row. -/
def Stock.Same (a b : Stock) : Prop := b = { a with quantity := b.quantity }

def Write.bornUnit : Write → List Nat
  | .registers row _ => [row.id]
  | _ => []

def Write.bornStock : Write → List Nat
  | .opens row => [row.id]
  | _ => []

def Write.onUnit (write : Write) (n : Nat) (found : Option CpeDevice) : Option CpeDevice :=
  match write with
  | .registers row _ => found.or (if row.id = n then some row else none)
  | .unit id columns => found.map fun row => if id = n then { row with columns := columns } else row
  | _ => found

def Write.onStock (write : Write) (n : Nat) (found : Option Stock) : Option Stock :=
  match write with
  | .opens row => found.or (if row.id = n then some row else none)
  | .stock id move => found.map fun row =>
    if id = n then { row with quantity := row.quantity + move.delta } else row
  | _ => found

section Lookup

variable {Row : Type} {id : Row → Nat} {rows : List Row} {n : Nat}

theorem find_append (rows : List Row) (row : Row) :
    ((rows ++ [row]).find? fun row => decide (id row = n)) =
      (rows.find? fun row => decide (id row = n)).or (if id row = n then some row else none) := by
  rw [List.find?_append, List.find?_singleton]
  by_cases h : id row = n
  · rw [if_pos h, if_pos (decide_eq_true h)]
  · rw [if_neg h, if_neg (by rw [decide_eq_true_eq]; exact h)]

theorem find_map (rows : List Row) (f : Row → Row) (hid : ∀ row, id (f row) = id row) (m : Nat) :
    ((rows.map fun row => if id row = m then f row else row).find? fun row =>
      decide (id row = n)) = (rows.find? fun row => decide (id row = n)).map fun row =>
        if m = n then f row else row := by
  have hsame : (fun row => decide (id (if id row = m then f row else row) = n)) =
      fun row => decide (id row = n) := by
    funext row
    split_ifs
    · rw [hid]
    · rfl
  rw [List.find?_map]
  change Option.map _ (rows.find? fun row => decide (id (if id row = m then f row else row) = n)) = _
  rw [hsame]
  cases hfound : rows.find? fun row => decide (id row = n) with
  | none => rfl
  | some row =>
    have hdec := List.find?_some hfound
    have hrow : id row = n := of_decide_eq_true hdec
    rw [Option.map_some, Option.map_some, hrow]
    simp only [eq_comm]

theorem find_isSome : ((rows.find? fun row => decide (id row = n)).isSome = true) ↔
    n ∈ rows.map id := by
  rw [List.find?_isSome, List.mem_map]
  simp only [decide_eq_true_eq]

end Lookup

section Elsewhere

variable {A : Type} {id n : Nat}

theorem or_other {row : A} (hn : id ≠ n) (d : Option A) :
    d.or (if id = n then some row else none) = d := by
  rw [if_neg hn, Option.or_none]

theorem map_other {f : A → A} (hn : id ≠ n) (d : Option A) :
    d.map (fun row => if id = n then f row else row) = d := by
  simp only [if_neg hn, Option.map_id']

end Elsewhere

/-- What a statement writes into the current tables. -/
inductive Written (tick : Nat) (db : Db) : Stmt → Write → Prop
  | registers (orgId : Nat) (serialNumber : String) (itemId : Nat) (origin : Origin) :
      Written tick db (.insertUnit orgId serialNumber itemId origin)
        (.registers ⟨tick, some orgId, serialNumber, some itemId, Columns.fresh⟩
          ⟨tick, itemId, origin⟩)
  | unit (id : Nat) (change : Change) (row : CpeDevice) (hrow : db.device id = some row) :
      Written tick db (.updateUnit id change) (.unit id (change.apply row.columns))
  | opens (itemId warehouseId : Nat) (quantity : Rat) (reason : Reason) :
      Written tick db (.insertStock itemId warehouseId quantity reason)
        (.opens ⟨tick, itemId, warehouseId, false, 0⟩)
  | fills (itemId warehouseId : Nat) (quantity : Rat) (reason : Reason) :
      Written tick db (.insertStock itemId warehouseId quantity reason)
        (.stock tick ⟨itemId, roundHalf quantity, reason⟩)
  | moves (id : Nat) (quantity : Rat) (reason : Reason) (row : Stock)
      (hrow : db.stockRow id = some row) :
      Written tick db (.addStock id quantity reason)
        (.stock id ⟨row.itemId, roundHalf (row.quantity + quantity) - row.quantity, reason⟩)
  | line (lineId : Nat) (target : Rat) :
      Written tick db (.setReceived lineId target) (.line lineId (roundHalf target).toNat)
  | order (id : Nat) (status : OrderStatus) :
      Written tick db (.setOrder id status) (.order id status)

theorem written_updateUnit (id : Nat) (change : Change) (tick : Nat) (db seen : Db) :
    (engine.exec (.updateUnit id change) tick db seen).2 =
      (db.device id).elim [] fun row => [.unit id (change.apply row.columns)] := by
  simp only [engine, exec]
  cases db.device id <;> rfl

theorem written_addStock (id : Nat) (quantity : ℚ) (reason : Reason) (tick : Nat) (db seen : Db) :
    (engine.exec (.addStock id quantity reason) tick db seen).2 =
      (db.stockRow id).elim [] fun row =>
        [.stock id ⟨row.itemId, roundHalf (row.quantity + quantity) - row.quantity, reason⟩] := by
  simp only [engine, exec]
  cases db.stockRow id <;> rfl

theorem written_of_exec {tick : Nat} {db seen : Db} {op : Stmt} {w : Write}
    (h : w ∈ (engine.exec op tick db seen).2) : Written tick db op w := by
  cases op with
  | insertUnit orgId serialNumber itemId origin =>
    obtain rfl := List.mem_singleton.mp h
    exact .registers orgId serialNumber itemId origin
  | updateUnit id change =>
    rw [written_updateUnit] at h
    cases hrow : db.device id with
    | none =>
      rw [hrow] at h
      exact absurd h List.not_mem_nil
    | some row =>
      rw [hrow] at h
      obtain rfl := List.mem_singleton.mp h
      exact .unit id change row hrow
  | insertStock itemId warehouseId quantity reason =>
    rcases List.mem_cons.mp h with rfl | h
    · exact .opens itemId warehouseId quantity reason
    · obtain rfl := List.mem_singleton.mp h
      exact .fills itemId warehouseId quantity reason
  | addStock id quantity reason =>
    rw [written_addStock] at h
    cases hrow : db.stockRow id with
    | none =>
      rw [hrow] at h
      exact absurd h List.not_mem_nil
    | some row =>
      rw [hrow] at h
      obtain rfl := List.mem_singleton.mp h
      exact .moves id quantity reason row hrow
  | setReceived lineId target =>
    obtain rfl := List.mem_singleton.mp h
    exact .line lineId target
  | setOrder id status =>
    obtain rfl := List.mem_singleton.mp h
    exact .order id status
  | _ => exact absurd h List.not_mem_nil

def unitMinting : Minting engine where
  ids := fun db => db.devices.map CpeDevice.id
  born := Write.bornUnit
  ids_apply := fun db w => by
    cases w with
    | registers row mint => exact List.map_append
    | unit id columns =>
      change (db.devices.map _).map CpeDevice.id = _ ++ []
      rw [List.map_map, List.append_nil]
      refine List.map_congr_left fun row _ => ?_
      change (if row.id = id then { row with columns := columns } else row).id = row.id
      split_ifs <;> rfl
    | _ => exact (List.append_nil _).symm
  born_exec := fun op tick db seen => by
    cases op with
    | insertUnit orgId serialNumber itemId origin => exact Or.inr rfl
    | _ =>
      refine Or.inl (List.flatMap_eq_nil_iff.mpr fun w hw => ?_)
      cases written_of_exec hw <;> rfl

def stockMinting : Minting engine where
  ids := fun db => db.stock.map Stock.id
  born := Write.bornStock
  ids_apply := fun db w => by
    cases w with
    | opens row => exact List.map_append
    | stock id move =>
      change (db.stock.map _).map Stock.id = _ ++ []
      rw [List.map_map, List.append_nil]
      refine List.map_congr_left fun row _ => ?_
      change (if row.id = id then { row with quantity := row.quantity + move.delta }
        else row).id = row.id
      split_ifs <;> rfl
    | _ => exact (List.append_nil _).symm
  born_exec := fun op tick db seen => by
    cases op with
    | insertStock itemId warehouseId quantity reason => exact Or.inr rfl
    | _ =>
      refine Or.inl (List.flatMap_eq_nil_iff.mpr fun w hw => ?_)
      cases written_of_exec hw <;> rfl

/-- Units by their ids. -/
def unitRows : Rows engine unitMinting CpeDevice where
  row := Db.device
  act := Write.onUnit
  Same := CpeDevice.Same
  key := .device
  refl := fun _ => rfl
  symm := fun a b h => by
    unfold CpeDevice.Same at h ⊢
    rw [h]
  trans := fun a b c h h' => by
    unfold CpeDevice.Same at h h' ⊢
    rw [h', h]
  row_apply := fun db w n => by
    cases w with
    | registers row mint => exact find_append db.devices row
    | unit id columns =>
      exact find_map db.devices (fun row => { row with columns := columns }) (fun _ => rfl) id
    | _ => rfl
  act_some := fun w n a => by
    cases w with
    | registers row mint => exact ⟨a, rfl, rfl⟩
    | unit id columns =>
      refine ⟨_, rfl, ?_⟩
      split_ifs <;> rfl
    | _ => exact ⟨a, rfl, rfl⟩
  act_none := fun w n b h => by
    cases w with
    | registers row mint =>
      change (if row.id = n then some row else none) = some b at h
      obtain ⟨rfl, -⟩ := Option.ite_none_right_eq_some.mp h
      exact List.mem_singleton_self _
    | _ => cases h
  row_isSome := fun db n => find_isSome
  locked := fun op tick db seen w hw n => by
    cases written_of_exec hw with
    | registers orgId serialNumber itemId origin =>
      by_cases hn : tick = n
      · exact Or.inr (Or.inr (hn ▸ List.mem_singleton_self _))
      · exact Or.inl (or_other hn)
    | unit id change row hrow =>
      by_cases hn : id = n
      · exact Or.inr (Or.inl (hn ▸ List.mem_singleton_self _))
      · exact Or.inl (map_other hn)
    | _ => exact Or.inl fun _ => rfl

def stockRows : Rows engine stockMinting Stock where
  row := Db.stockRow
  act := Write.onStock
  Same := Stock.Same
  key := .stock
  refl := fun _ => rfl
  symm := fun a b h => by
    unfold Stock.Same at h ⊢
    rw [h]
  trans := fun a b c h h' => by
    unfold Stock.Same at h h' ⊢
    rw [h', h]
  row_apply := fun db w n => by
    cases w with
    | opens row => exact find_append db.stock row
    | stock id move =>
      exact find_map db.stock (fun row => { row with quantity := row.quantity + move.delta })
        (fun _ => rfl) id
    | _ => rfl
  act_some := fun w n a => by
    cases w with
    | opens row => exact ⟨a, rfl, rfl⟩
    | stock id move =>
      refine ⟨_, rfl, ?_⟩
      split_ifs <;> rfl
    | _ => exact ⟨a, rfl, rfl⟩
  act_none := fun w n b h => by
    cases w with
    | opens row =>
      change (if row.id = n then some row else none) = some b at h
      obtain ⟨rfl, -⟩ := Option.ite_none_right_eq_some.mp h
      exact List.mem_singleton_self _
    | _ => cases h
  row_isSome := fun db n => find_isSome
  locked := fun op tick db seen w hw n => by
    cases written_of_exec hw with
    | opens itemId warehouseId quantity reason =>
      by_cases hn : tick = n
      · exact Or.inr (Or.inr (hn ▸ List.mem_singleton_self _))
      · exact Or.inl (or_other hn)
    | fills itemId warehouseId quantity reason =>
      by_cases hn : tick = n
      · exact Or.inr (Or.inr (hn ▸ List.mem_singleton_self _))
      · exact Or.inl (map_other hn)
    | moves id quantity reason row hrow =>
      by_cases hn : id = n
      · exact Or.inr (Or.inl (hn ▸ List.mem_singleton_self _))
      · exact Or.inl (map_other hn)
    | _ => exact Or.inl fun _ => rfl

end FireIsp.Inventory
