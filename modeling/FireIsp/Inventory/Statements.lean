import FireIsp.Base.Session
import FireIsp.Base.Text
import Mathlib.Data.List.Sort
import Mathlib.Data.Rat.Floor

/-!
# Inventory tables

Items, their stock, the serialized units and the purchase orders, as the services read them.  Rows
that are deleted are left out: none of the services reads or writes them.
-/

namespace FireIsp.Inventory

inductive LifecycleState
  | inStock
  | assigned
  | active
  | returned
  | rma
  deriving DecidableEq

inductive Ownership
  | rented
  | sold
  deriving DecidableEq

/-- Row of `inventory_items`. -/
structure Item where
  id : Nat
  organizationId : Option Nat
  serialRequired : Bool
  salePrice : Option Nat
  unitCost : Option Nat

/-- Columns of `cpe_devices` that change. -/
structure Columns where
  lifecycleState : LifecycleState
  contractId : Option Nat
  subscriberId : Option Nat
  ownership : Option Ownership
  saleInvoiceId : Option Nat
  deviceId : Option Nat
  cpeProfileId : Option Nat

/-- Row of `cpe_devices`. -/
structure CpeDevice where
  id : Nat
  organizationId : Option Nat
  serialNumber : String
  inventoryItemId : Option Nat
  columns : Columns

/-- Row of `inventory_stock`. -/
structure Stock where
  id : Nat
  itemId : Nat
  warehouseId : Nat
  located : Bool
  quantity : Int

/-- `status` of a purchase order. -/
inductive OrderStatus
  | draft
  | sent
  | part
  | received
  | cancelled
  deriving DecidableEq

/-- Row of `purchase_orders`. -/
structure PurchaseOrder where
  id : Nat
  organizationId : Option Nat
  status : OrderStatus
  warehouseId : Option Nat

/-- Row of `purchase_order_items`. -/
structure OrderLine where
  id : Nat
  poId : Nat
  inventoryItemId : Option Nat
  quantityOrdered : Nat
  quantityReceived : Nat

/-- What a stock quantity was moved for. -/
inductive Reason
  | unit (deviceId : Nat)
  /-- A line of a purchase order that is received. -/
  | line (lineId : Nat)
  | registered
  | sale
  deriving DecidableEq

/-- What a unit was registered for. -/
inductive Origin
  /-- A line of a purchase order that is received. -/
  | line (lineId : Nat)
  | registered
  | catchUp

/-- A change of a stock quantity. -/
structure Move where
  itemId : Nat
  delta : Int
  reason : Reason

/-- A unit that was registered. -/
structure Mint where
  deviceId : Nat
  itemId : Nat
  origin : Origin

/-- The tables, with what has moved the stock and registered the units so far. -/
structure Db where
  items : List Item
  devices : List CpeDevice
  stock : List Stock
  orders : List PurchaseOrder
  lines : List OrderLine
  /-- Changes of stock quantities, oldest first. -/
  moves : List Move
  /-- Units that were registered, oldest first. -/
  mints : List Mint

/-- A row of the organization, or of all. -/
def sharedWith (orgId : Nat) (organizationId : Option Nat) : Bool :=
  decide (organizationId = none ∨ organizationId = some orgId)

/-- The value an integer column stores: halves are rounded away from zero. -/
def roundHalf (q : Rat) : Int := if 0 ≤ q then ⌊q + 1 / 2⌋ else ⌈q - 1 / 2⌉

@[simp] theorem roundHalf_int (n : Int) : roundHalf n = n := by
  unfold roundHalf
  split_ifs
  · rw [Int.floor_eq_iff]
    constructor <;> norm_num
  · rw [Int.ceil_eq_iff]
    constructor <;> norm_num

inductive Change
  | assign (contractId subscriberId : Nat) (ownership : Ownership)
  /-- The unit is taken off its contract, with its sale invoice or without. -/
  | unassign (clearsInvoice : Bool)
  | inherit (subscriberId cpeProfileId contractId : Option Nat) (ownership : Option Ownership)
  | unlink
  | subscriber (subscriberId : Option Nat)
  | state (lifecycleState : LifecycleState)
  /-- It is bridged to a row of `devices`, or to none. -/
  | device (deviceId : Option Nat)
  | saleInvoice (invoiceId : Nat)

def Change.apply (columns : Columns) : Change → Columns
  | .assign contractId subscriberId ownership =>
    { columns with
      contractId := some contractId
      subscriberId := some subscriberId
      ownership := some ownership }
  | .unassign clearsInvoice =>
    { columns with
      contractId := none
      subscriberId := none
      ownership := none
      saleInvoiceId := if clearsInvoice then none else columns.saleInvoiceId }
  | .inherit subscriberId cpeProfileId contractId ownership =>
    { columns with
      subscriberId := subscriberId
      cpeProfileId := cpeProfileId
      contractId := contractId
      ownership := ownership }
  | .unlink => { columns with subscriberId := none, contractId := none }
  | .subscriber subscriberId => { columns with subscriberId := subscriberId }
  | .state lifecycleState => { columns with lifecycleState := lifecycleState }
  | .device deviceId => { columns with deviceId := deviceId }
  | .saleInvoice invoiceId => { columns with saleInvoiceId := some invoiceId }

/-- The columns of a unit that was just registered. -/
def Columns.fresh : Columns := ⟨.inStock, none, none, none, none, none, none⟩

def transitions : LifecycleState → List LifecycleState
  | .inStock => [.assigned]
  | .assigned => [.active, .returned, .inStock, .rma]
  | .active => [.returned, .rma, .inStock]
  | .returned => [.inStock, .rma]
  | .rma => [.inStock]

/-- The unit with this id. -/
def Db.device (db : Db) (id : Nat) : Option CpeDevice :=
  db.devices.find? fun row => decide (row.id = id)

def Db.stockRow (db : Db) (id : Nat) : Option Stock :=
  db.stock.find? fun row => decide (row.id = id)

def Db.itemShared (db : Db) (itemId orgId : Nat) : Bool :=
  db.items.any fun row => decide (row.id = itemId) && sharedWith orgId row.organizationId

/-- The stock row with the greatest quantity, the oldest of them. -/
def greatest (rows : List Stock) : Option Stock :=
  rows.foldl (fun best row => match best with
    | none => some row
    | some old =>
      if old.quantity < row.quantity ∨ old.quantity = row.quantity ∧ row.id < old.id then
        some row
      else some old) none

theorem mem_of_greatest {rows : List Stock} {row : Stock} (h : greatest rows = some row) :
    row ∈ rows := by
  have hmem : ∀ (rows : List Stock) (best : Option Stock),
      (rows.foldl (fun best row => match best with
        | none => some row
        | some old =>
          if old.quantity < row.quantity ∨ old.quantity = row.quantity ∧ row.id < old.id then
            some row
          else some old) best) = some row → row ∈ rows ∨ best = some row := by
    intro rows
    induction rows with
    | nil => exact fun best h => Or.inr h
    | cons first rows ih =>
      intro best h
      rw [List.foldl_cons] at h
      rcases ih _ h with hrest | hbest
      · exact Or.inl (List.mem_cons_of_mem _ hrest)
      · cases best with
        | none =>
          obtain rfl := Option.some.inj hbest
          exact Or.inl List.mem_cons_self
        | some old =>
          simp only at hbest
          split_ifs at hbest
          · obtain rfl := Option.some.inj hbest
            exact Or.inl List.mem_cons_self
          · exact Or.inr hbest
  exact (hmem rows none h).resolve_right nofun

end FireIsp.Inventory

/-!
## Statements of the inventory services

Every statement of the services on items, stock, units and purchase orders.  An update of a unit
writes a version of its row from the current one; an update of a stock row moves its quantity.
-/

namespace FireIsp.Inventory

open Txn

/-- Which units a query sees. -/
inductive UnitScope
  | any
  | shared (orgId : Nat)
  | own (orgId : Nat)

def UnitScope.admits (row : CpeDevice) : UnitScope → Bool
  | .any => true
  | .shared orgId => sharedWith orgId row.organizationId
  | .own orgId => decide (row.organizationId = some orgId)

/-- Statements. -/
inductive Stmt
  | elsewhere
  | item (itemId orgId : Nat)
  | serialRequired (itemId : Nat)
  | serialTaken (serialNumber : String) (orgId : Nat)
  | stockTotal (itemId orgId : Nat)
  | trackedTotal (itemId orgId : Nat)
  | greatestStock (itemId orgId : Nat)
  | stockAt (itemId warehouseId : Nat)
  /-- A unit, `FOR UPDATE` or not. -/
  | unit (locking : Bool) (id : Nat) (scope : UnitScope)
  /-- A rented unit that is out on a contract, `FOR UPDATE`. -/
  | pickupUnit (id contractId orgId : Nat)
  | outstanding (contractId : Nat)
  | order (id orgId : Nat)
  | lines (poId : Nat)
  /-- `INSERT INTO cpe_devices`. -/
  | insertUnit (orgId : Nat) (serialNumber : String) (itemId : Nat) (origin : Origin)
  /-- `UPDATE cpe_devices`. -/
  | updateUnit (id : Nat) (change : Change)
  /-- `INSERT INTO inventory_stock`. -/
  | insertStock (itemId warehouseId : Nat) (quantity : Rat) (reason : Reason)
  /-- `UPDATE inventory_stock SET quantity = quantity + ?`. -/
  | addStock (id : Nat) (quantity : Rat) (reason : Reason)
  /-- `UPDATE purchase_order_items SET quantity_received = ?`. -/
  | setReceived (lineId : Nat) (target : Rat)
  /-- `UPDATE purchase_orders SET status = ?`. -/
  | setOrder (id : Nat) (status : OrderStatus)

/-- Reply type of a statement: an `INSERT` returns the new id. -/
@[reducible] def Stmt.Res : Stmt → Type
  | .item .. => Option Item
  | .serialRequired _ => Option Bool
  | .serialTaken .. => Option Nat
  | .stockTotal .. => Int
  | .trackedTotal .. => Nat
  | .greatestStock .. => Option Nat
  | .stockAt .. => Option Nat
  | .unit .. => Option CpeDevice
  | .pickupUnit .. => Option CpeDevice
  | .outstanding _ => Nat
  | .order .. => Option PurchaseOrder
  | .lines _ => List OrderLine
  | .insertUnit .. => Nat
  | .insertStock .. => Nat
  | _ => Unit

/-- What one statement changes. -/
inductive Write
  | registers (row : CpeDevice) (mint : Mint)
  | unit (id : Nat) (columns : Columns)
  | opens (row : Stock)
  | stock (id : Nat) (move : Move)
  | line (id received : Nat)
  | order (id : Nat) (status : OrderStatus)

/-- Store one change. -/
def Db.apply (db : Db) : Write → Db
  | .registers row mint =>
    { db with devices := db.devices ++ [row], mints := db.mints ++ [mint] }
  | .unit id columns =>
    { db with devices := db.devices.map fun row =>
        if row.id = id then { row with columns := columns } else row }
  | .opens row => { db with stock := db.stock ++ [row] }
  | .stock id move =>
    { db with
      stock := db.stock.map fun row =>
        if row.id = id then { row with quantity := row.quantity + move.delta } else row
      moves := db.moves ++ [move] }
  | .line id received =>
    { db with lines := db.lines.map fun row =>
        if row.id = id then { row with quantityReceived := received } else row }
  | .order id status =>
    { db with orders := db.orders.map fun row =>
        if row.id = id then { row with status := status } else row }

def CpeDevice.isTracked (itemId : Nat) (row : CpeDevice) : Bool :=
  decide (row.inventoryItemId = some itemId ∧ row.columns.lifecycleState = .inStock)

def CpeDevice.isOutstanding (contractId : Nat) (row : CpeDevice) : Bool :=
  decide (row.columns.contractId = some contractId ∧ row.columns.ownership = some .rented ∧
    (row.columns.lifecycleState = .assigned ∨ row.columns.lifecycleState = .active))

/-- Reply and changes of a statement, from the current tables and those its transaction reads. -/
def exec (tick : Nat) (db seen : Db) : (op : Stmt) → op.Res × List Write
  | .elsewhere => ((), [])
  | .item itemId orgId =>
    (seen.items.find? fun row => decide (row.id = itemId) && sharedWith orgId row.organizationId,
      [])
  | .serialRequired itemId =>
    ((seen.items.find? fun row => decide (row.id = itemId)).map Item.serialRequired, [])
  | .serialTaken serialNumber orgId =>
    ((seen.devices.find? fun row =>
      decide (row.serialNumber = serialNumber) && sharedWith orgId row.organizationId).map
        CpeDevice.id, [])
  | .stockTotal itemId orgId =>
    (if seen.itemShared itemId orgId then
      ((seen.stock.filter fun row => decide (row.itemId = itemId)).map Stock.quantity).sum
    else 0, [])
  | .trackedTotal itemId orgId =>
    ((seen.devices.filter fun row =>
      row.isTracked itemId && sharedWith orgId row.organizationId).length, [])
  | .greatestStock itemId orgId =>
    (if seen.itemShared itemId orgId then
      (greatest (seen.stock.filter fun row => decide (row.itemId = itemId))).map Stock.id
    else none, [])
  | .stockAt itemId warehouseId =>
    ((seen.stock.find? fun row => decide (row.itemId = itemId ∧ row.warehouseId = warehouseId ∧
      row.located = false)).map Stock.id, [])
  | .unit locking id scope =>
    (((if locking then db else seen).device id).filter scope.admits, [])
  | .pickupUnit id contractId orgId =>
    ((db.device id).filter fun row =>
      row.isOutstanding contractId && sharedWith orgId row.organizationId, [])
  | .outstanding contractId => ((seen.devices.filter (CpeDevice.isOutstanding contractId)).length, [])
  | .order id orgId =>
    (seen.orders.find? fun row => decide (row.id = id ∧ row.organizationId = some orgId), [])
  | .lines poId =>
    ((seen.lines.filter fun row => decide (row.poId = poId)).insertionSort fun a b =>
      a.id ≤ b.id, [])
  | .insertUnit orgId serialNumber itemId origin =>
    (tick, [.registers ⟨tick, some orgId, serialNumber, some itemId, Columns.fresh⟩
      ⟨tick, itemId, origin⟩])
  | .updateUnit id change =>
    ((), match db.device id with
      | some row => [.unit id (change.apply row.columns)]
      | none => [])
  | .insertStock itemId warehouseId quantity reason =>
    (tick, [.opens ⟨tick, itemId, warehouseId, false, 0⟩,
      .stock tick ⟨itemId, roundHalf quantity, reason⟩])
  | .addStock id quantity reason =>
    ((), match db.stockRow id with
      | some row =>
        [.stock id ⟨row.itemId, roundHalf (row.quantity + quantity) - row.quantity, reason⟩]
      | none => [])
  | .setReceived lineId target => ((), [.line lineId (roundHalf target).toNat])
  | .setOrder id status => ((), [.order id status])

/-- Rows that are locked. -/
inductive Key
  | device (id : Nat)
  | stock (id : Nat)
  | line (id : Nat)
  | order (id : Nat)
  deriving DecidableEq

/-- Rows a statement locks. -/
def locks : Stmt → List Key
  | .unit true id _ => [.device id]
  | .pickupUnit id _ _ => [.device id]
  | .updateUnit id _ => [.device id]
  | .addStock id _ _ => [.stock id]
  | .setReceived lineId _ => [.line lineId]
  | .setOrder id _ => [.order id]
  | _ => []

/-- Statements with a consistent read. -/
def snapshots : Stmt → Bool
  | .unit locking _ _ => !locking
  | .pickupUnit .. => false
  | .insertUnit .. => false
  | .updateUnit .. => false
  | .insertStock .. => false
  | .addStock .. => false
  | .setReceived .. => false
  | .setOrder .. => false
  | _ => true

/-- The inventory as a transactional engine. -/
def engine : Engine Db Write Key Stmt Stmt.Res where
  apply := Db.apply
  exec := fun op tick current seen => exec tick current seen op
  locks := fun op _ => locks op
  snapshots := snapshots

end FireIsp.Inventory
