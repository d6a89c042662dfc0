import FireIsp.Inventory.Serials

/-!
# What a call knows of a unit

A call puts the stock of a unit in order within the transaction that changes the unit.  What it
knows of the unit once it has locked or changed the row decides whether it may commit.
-/

namespace FireIsp.Inventory

open Txn
open Txn.Client (Silent Lost)

/-- The unit is in stock. -/
def Columns.inStock (columns : Columns) : Bool := decide (columns.lifecycleState = .inStock)

/-- The unit has an owner. -/
def Columns.owned (columns : Columns) : Bool := columns.ownership.isSome

/-- Does the change put the unit in stock or elsewhere? -/
def Change.inStock : Change → Option Bool
  | .state lifecycleState => some (decide (lifecycleState = .inStock))
  | _ => none

/-- Does the change give the unit an owner or none? -/
def Change.owned : Change → Option Bool
  | .assign .. => some true
  | .unassign _ => some false
  | .inherit _ _ _ ownership => some ownership.isSome
  | _ => none

theorem Change.inStock_apply (columns : Columns) (change : Change) :
    (change.apply columns).inStock = change.inStock.getD columns.inStock := by
  cases change <;> rfl

theorem Change.owned_apply (columns : Columns) (change : Change) :
    (change.apply columns).owned = change.owned.getD columns.owned := by
  cases change <;> rfl

/-- The unit is not put in stock, and gets no owner. -/
def Change.Plain (change : Change) : Prop :=
  change.inStock ≠ some true ∧ change.owned ≠ some true

instance (change : Change) : Decidable change.Plain := inferInstanceAs (Decidable (_ ∧ _))

/-- What is known of a column: its committed value, and what was written. -/
structure Column where
  committed : Option Bool
  written : Option Bool
  deriving DecidableEq

namespace Column

/-- Nothing is known. -/
def blank : Column := ⟨none, none⟩

/-- The column is read: `none` if it cannot have this value. -/
def observe (column : Column) (value : Bool) : Option Column :=
  match column.written, column.committed with
  | some written, _ => if written = value then some column else none
  | none, some committed => if committed = value then some column else none
  | none, none => some ⟨some value, none⟩

def write (column : Column) (value : Option Bool) : Column :=
  ⟨column.committed, value.or column.written⟩

/-- What is known is true of a committed value and of the current one. -/
def Fits (column : Column) (committed current : Bool) : Prop :=
  (∀ value, column.committed = some value → committed = value) ∧
    current = column.written.getD committed

variable {column column' : Column} {committed current value : Bool}

theorem Fits.observe (h : column.Fits committed current) :
    ∃ column', column.observe current = some column' ∧ column'.Fits committed current := by
  obtain ⟨hcommitted, hcurrent⟩ := h
  unfold Column.observe
  cases hw : column.written with
  | some written =>
    rw [hw, Option.getD_some] at hcurrent
    exact ⟨column, if_pos hcurrent.symm, hcommitted, by rw [hw, Option.getD_some, hcurrent]⟩
  | none =>
    rw [hw, Option.getD_none] at hcurrent
    cases hc : column.committed with
    | some known =>
      refine ⟨column, if_pos ?_, hcommitted, by rw [hw, Option.getD_none, hcurrent]⟩
      exact (hcommitted known hc).symm.trans hcurrent.symm
    | none => exact ⟨_, rfl, fun value hvalue => by rw [← hcurrent]; exact Option.some.inj hvalue,
        hcurrent⟩

theorem Fits.kept (h : column.Fits committed true) (hwritten : column.written ≠ some true) :
    committed = true := by
  have hcurrent := h.2
  cases hw : column.written with
  | none =>
    rw [hw, Option.getD_none] at hcurrent
    exact hcurrent.symm
  | some written =>
    rw [hw, Option.getD_some] at hcurrent
    exact absurd (hw.trans (congrArg some hcurrent.symm)) hwritten

theorem Fits.write (h : column.Fits committed current) (value : Option Bool) :
    (column.write value).Fits committed (value.getD current) := by
  refine ⟨h.1, ?_⟩
  cases value with
  | none => exact h.2
  | some value => rfl

theorem written_of_observe (h : column.observe value = some column') :
    column'.written = column.written := by
  unfold observe at h
  split at h
  · exact (Option.some.inj (Option.ite_none_right_eq_some.mp h).2) ▸ rfl
  · exact (Option.some.inj (Option.ite_none_right_eq_some.mp h).2) ▸ rfl
  · rename_i hw hc
    exact (Option.some.inj h) ▸ hw.symm

theorem committed_of_observe (h : column.observe value = some column')
    (hcommitted : column.committed = some committed) : column'.committed = some committed := by
  unfold observe at h
  split at h
  · exact (Option.some.inj (Option.ite_none_right_eq_some.mp h).2) ▸ hcommitted
  · exact (Option.some.inj (Option.ite_none_right_eq_some.mp h).2) ▸ hcommitted
  · rename_i hw hc
    rw [hc] at hcommitted
    cases hcommitted

theorem known_of_observe (h : column.observe value = some column') (hw : column.written = none) :
    column'.committed = some value := by
  unfold observe at h
  split at h
  · rename_i hw'
    rw [hw] at hw'
    cases hw'
  · rename_i hc
    obtain ⟨rfl, hsome⟩ := Option.ite_none_right_eq_some.mp h
    rw [← Option.some.inj hsome]
    exact hc
  · rw [← Option.some.inj h]

theorem value_of_observe {written : Bool} (h : column.observe value = some column')
    (hw : column.written = some written) : value = written := by
  unfold observe at h
  rw [hw] at h
  exact (Option.ite_none_right_eq_some.mp h).1.symm

end Column

/-- What a call knows of a unit. -/
structure Facts where
  opened : Bool
  item : Option (Option Nat)
  touched : Bool
  inStock : Column
  owned : Column
  moved : Int
  stocked : Option (Nat × Nat)

/-- What a call knows: nothing is refused any more once a reply was impossible. -/
abbrev Know := Option Facts

namespace Facts

/-- Between transactions only the item is known. -/
def idle (item : Option (Option Nat)) : Facts :=
  ⟨false, item, false, Column.blank, Column.blank, 0, none⟩

/-- A transaction has begun. -/
def begun (item : Option (Option Nat)) : Facts := { idle item with opened := true }

/-- A row teaches the item of its unit. -/
def named (facts : Facts) (row : CpeDevice) : Know :=
  if facts.item = none ∨ facts.item = some row.inventoryItemId then
    some { facts with item := some row.inventoryItemId }
  else none

/-- The current row teaches everything. -/
def observed (facts : Facts) (row : CpeDevice) : Know := do
  let named ← facts.named row
  let inStock ← named.inStock.observe row.columns.inStock
  let owned ← named.owned.observe row.columns.owned
  pure { named with inStock := inStock, owned := owned }

def found (facts : Facts) (unitId id : Nat) (current : Bool) : Option CpeDevice → Know
  | none => some facts
  | some row =>
    if row.id ≠ id then none
    else if id ≠ unitId then some facts
    else if current then facts.observed row
    else facts.named row

def foundOutstanding (facts : Facts) (unitId id contractId : Nat) (reply : Option CpeDevice) :
    Know :=
  if reply.any fun row => !row.isOutstanding contractId then none
  else facts.found unitId id true reply

/-- The unit is registered. -/
def born (facts : Facts) (itemId : Nat) : Know :=
  if facts.item = none then
    some { facts with
      item := some (some itemId)
      touched := true
      inStock := ⟨some true, none⟩
      owned := ⟨some false, none⟩ }
  else none

/-- The unit is changed. -/
def changed (facts : Facts) (change : Change) : Facts :=
  if facts.opened then
    { facts with
      touched := true
      inStock := facts.inStock.write change.inStock
      owned := facts.owned.write change.owned }
  else facts

/-- A transaction changes a unit it knows; outside of one no stock is moved for it. -/
def Admits (facts : Facts) (change : Change) : Prop :=
  if facts.opened then facts.item ≠ none else facts.item = some none ∨ change.Plain

instance (facts : Facts) (change : Change) : Decidable (facts.Admits change) :=
  inferInstanceAs (Decidable (ite _ _ _))

/-- The stock of the unit is moved: once, by one, in a stock row of its item. -/
def Moves (facts : Facts) (stockId : Nat) (quantity : Rat) : Prop :=
  facts.moved = 0 ∧ (quantity = 1 ∨ quantity = -1) ∧ facts.item.join.isSome = true ∧
    facts.stocked = facts.item.join.map fun itemId => (stockId, itemId)

instance (facts : Facts) (stockId : Nat) (quantity : Rat) :
    Decidable (facts.Moves stockId quantity) :=
  inferInstanceAs (Decidable (_ ∧ _ ∧ _ ∧ _))

def stockedAt (facts : Facts) (itemId : Nat) (found : Option Nat) : Facts :=
  match found with
  | some stockId => { facts with stocked := some (stockId, itemId) }
  | none => facts

/-- Stock was moved as the unit was: see `Standing.Step`. -/
def Lawful (facts : Facts) : Prop :=
  facts.moved = 0 ∧ facts.inStock.written ≠ some true ∧ facts.owned.written ≠ some true ∨
  facts.moved = 0 ∧ facts.item = some none ∨
  facts.moved = -1 ∧ facts.inStock = ⟨some true, some false⟩ ∨
  facts.moved = 1 ∧ facts.owned = ⟨some true, some false⟩ ∨
  facts.moved = 0 ∧ facts.owned = ⟨some false, some false⟩

instance (facts : Facts) : Decidable facts.Lawful :=
  inferInstanceAs (Decidable (_ ∨ _ ∨ _ ∨ _ ∨ _))

/-- What a statement inside or outside of a transaction teaches. -/
def sent (unitId : Nat) (facts : Facts) : (op : Stmt) → Option (op.Res → Know)
  | .unit locking id _ =>
    if locking = true ∧ facts.opened = false then none
    else some (facts.found unitId id (locking || facts.touched))
  | .pickupUnit id contractId _ =>
    if facts.opened then some (facts.foundOutstanding unitId id contractId) else none
  | .insertUnit _ _ itemId _ =>
    if facts.opened then
      some fun (id : Nat) => if id = unitId then facts.born itemId else some facts
    else none
  | .updateUnit id change =>
    if id ≠ unitId then some fun _ => some facts
    else if facts.Admits change then some fun _ => some (facts.changed change)
    else none
  | .greatestStock itemId _ =>
    if facts.opened then some fun found => some (facts.stockedAt itemId found) else none
  | .insertStock itemId _ _ reason =>
    if facts.opened ∧ reason ≠ .unit unitId then
      some fun (id : Nat) => some (facts.stockedAt itemId (some id))
    else none
  | .addStock id quantity reason =>
    if facts.opened = false then none
    else if reason ≠ .unit unitId then some fun _ => some facts
    else if facts.Moves id quantity then
      some fun _ => some { facts with moved := roundHalf quantity }
    else none
  | _ => some fun _ => some facts

section Sent

variable {unitId id : Nat} {facts : Facts} {change : Change} {quantity : Rat} {reason : Reason}

theorem sent_update_other (h : id ≠ unitId) :
    facts.sent unitId (.updateUnit id change) = some fun _ => some facts := if_pos h

theorem sent_update (h : facts.Admits change) : facts.sent unitId (.updateUnit unitId change) =
    some fun _ => some (facts.changed change) :=
  (if_neg (not_not.mpr rfl)).trans (if_pos h)

theorem sent_add_other (hopened : facts.opened = true) (h : reason ≠ .unit unitId) :
    facts.sent unitId (.addStock id quantity reason) = some fun _ => some facts :=
  (if_neg (Bool.not_eq_false _ ▸ hopened)).trans (if_pos h)

theorem sent_add (hopened : facts.opened = true) (h : facts.Moves id quantity) :
    facts.sent unitId (.addStock id quantity (.unit unitId)) =
      some fun _ => some { facts with moved := roundHalf quantity } :=
  (if_neg (Bool.not_eq_false _ ▸ hopened)).trans
    ((if_neg (not_not.mpr rfl)).trans (if_pos h))

theorem sent_insertStock_idle {itemId warehouseId : Nat} (hopened : facts.opened = false) :
    facts.sent unitId (.insertStock itemId warehouseId quantity reason) = none :=
  if_neg fun h => Bool.false_ne_true (hopened.symm.trans h.1)

end Sent

end Facts

def unitDiscipline (unitId : Nat) :
    Discipline Know Stmt Stmt.Res (Outside Stmt Query) (Outside.Answer Query.Answer) where
  started := fun know => match know with
    | none => some none
    | some facts => if facts.opened = false then some (some (.begun facts.item)) else none
  committed := fun know => match know with
    | none => some none
    | some facts => if facts.opened = true ∧ facts.Lawful then some (some (.idle facts.item)) else none
  rolledBack := fun know => some (know.map fun _ => .idle none)
  sent := fun know via op => match know with
    | none => some fun _ => none
    | some facts => if facts.opened = decide (via = .conn) then facts.sent unitId op else none
  asked := fun know _ => some fun _ => know

variable {unitId : Nat}

theorem unitDiscipline_silent : Silent (unitDiscipline unitId) := ⟨fun _ _ => rfl, fun _ _ => rfl⟩

theorem unitDiscipline_lost : Lost (unitDiscipline unitId) none :=
  ⟨rfl, rfl, rfl, fun _ _ => rfl, fun _ => rfl⟩

end FireIsp.Inventory
