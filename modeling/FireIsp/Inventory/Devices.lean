import FireIsp.Base.Client
import FireIsp.Inventory.Statements

/-!
# Units and their stock

`inventoryDrawdownService` and `cpeInventoryService`: the stock row a movement goes to, the
lifecycle of a unit, its links to clients, and the swap of two units.
-/

namespace FireIsp.Inventory

open Txn Txn.Throwing
open Txn.Client (inTransaction swallowed)

/-- Why a call throws. -/
inductive Refusal
  | raised
  /-- `inventory_item_id does not belong to this organization`. -/
  | itemNotInOrganization
  /-- `Serial number '…' is already registered in this organization`. -/
  | serialTaken (serialNumber : String)
  | blankSerial
  /-- `No untracked stock available for this item`. -/
  | noUntrackedStock
  /-- `warehouse_id does not belong to this organization`. -/
  | warehouseNotInOrganization
  /-- `No warehouse is configured for this organization`. -/
  | noWarehouse
  /-- `Either cpe_device_id or new_serial is required`. -/
  | neitherUnit
  /-- `Provide only one of cpe_device_id or new_serial`. -/
  | bothUnits
  /-- `inventory_item_id is required when registering a new serial at install`. -/
  | itemRequired
  /-- `contract_id does not belong to this organization`. -/
  | contractNotInOrganization
  /-- `service_order_id does not match this contract in this organization`. -/
  | serviceOrderMismatch
  /-- `cpe_device_id does not belong to this organization`. -/
  | unitNotInOrganization
  | notInStock (state : LifecycleState)
  /-- `This unit is not linked to an inventory item`. -/
  | unlinkedUnit
  /-- `Item '…' has no sale_price or unit_cost configured`. -/
  | noPrice
  /-- `CPE device not found`. -/
  | notFound
  | notInstalled (state : LifecycleState)
  /-- `This contract has been cancelled or terminated`. -/
  | contractEnded
  /-- `The equipment sale invoice has a payment applied`. -/
  | paymentApplied
  /-- `Lifecycle transition … → … is not allowed`. -/
  | transition (fromState toState : LifecycleState)
  /-- `This unit is linked to a tracked inventory item`. -/
  | stockBoundary
  /-- `Old CPE lifecycle_state must be active or assigned (currently: …)`. -/
  | oldNotOut (state : LifecycleState)
  /-- `New CPE lifecycle_state must be in_stock (currently: …)`. -/
  | newNotInStock (state : LifecycleState)
  | pickupNotFound
  /-- `Pickup work order has no linked contract`. -/
  | pickupUnlinked
  /-- `This unit is not an outstanding rented device on this pickup order`. -/
  | notOutstanding
  | orderNotFound
  /-- `Cannot receive a cancelled purchase order`. -/
  | orderCancelled
  | alreadyReceived
  /-- `Each items[] entry needs a numeric id and a non-negative quantity_received`. -/
  | badEntry
  /-- `Line … is a serial-tracked item — this purchase order has no warehouse set`. -/
  | noOrderWarehouse (lineId : Nat)
  /-- `Line … is a serial-tracked item — provide exactly … serial number(s)`. -/
  | serialCount (lineId : Nat)

instance : Raises Refusal := ⟨.raised⟩

structure SaleInvoice where
  paid : Bool
  void : Bool

/-- Questions to the other tables. -/
inductive Query
  | contract (contractId orgId : Nat)
  | serviceOrderMatches (serviceOrderId contractId orgId : Nat)
  | contractEnded (contractId orgId : Nat)
  | saleInvoice (invoiceId orgId : Nat)
  | voids (invoiceId orgId : Nat)
  | warehouseShared (warehouseId orgId : Nat)
  | firstWarehouse (orgId : Nat)
  | insertsDevice
  | insertsInvoice (amount : Nat)
  | pickup (workOrderId orgId : Nat)
  /-- The client of the contract a unit is on, unless the query raises. -/
  | ownClient (contractId : Nat) (organizationId : Option Nat)
  /-- The client of a contract that a device with this serial number is on, unless it raises. -/
  | bridgedClient (serialNumber : String) (organizationId : Option Nat)
  | proceeds
  | otherwise

/-- Replies. -/
@[reducible] def Query.Answer : Query → Type
  | .contract .. => Option Nat
  | .serviceOrderMatches .. => Bool
  | .contractEnded .. => Bool
  | .saleInvoice .. => Option SaleInvoice
  | .voids .. => Bool
  | .warehouseShared .. => Bool
  | .firstWarehouse _ => Option Nat
  | .insertsDevice => Nat
  | .insertsInvoice _ => Nat
  | .pickup .. => Option (Option Nat)
  | .ownClient .. => Option (Option Nat)
  | .bridgedClient .. => Option (Option Nat)
  | .proceeds => Bool
  | .otherwise => Unit

/-- Functions of the services. -/
abbrev Body (A : Type) := Client Stmt Stmt.Res Query Query.Answer Refusal A

/-- A statement that may raise. -/
abbrev statement (via : Via) (op : Stmt) : Body op.Res := Client.statement via op

/-- A question to the other tables. -/
abbrev asked (query : Query) : Body query.Answer := Client.asked query

/-- Work in other tables that may fail. -/
def proceeds : Body Unit := do
  let proceeded ← asked .proceeds
  refuseIf (proceeded = false) .raised

/-- A consistent read of other tables within a transaction. -/
def lookedUp (query : Query) : Body query.Answer := do
  statement .conn .elsewhere
  asked query

/-- `resolveOrCreateStockRow`, once there is no stock row. -/
def createStockRow (orgId itemId : Nat) : Body Nat := do
  let found ← lookedUp (.firstWarehouse orgId)
  let warehouseId ← orThrow found .noWarehouse
  statement .conn (.insertStock itemId warehouseId 0 .registered)

def resolveOrCreateStockRow (orgId itemId : Nat) : Body Nat := do
  let found ← statement .conn (.greatestStock itemId orgId)
  match found with
  | some stockId => pure stockId
  | none => createStockRow orgId itemId

def moveStock (orgId itemId : Nat) (quantity : Int) (reason : Reason) : Body Unit := do
  let stockId ← resolveOrCreateStockRow orgId itemId
  statement .conn (.addStock stockId quantity reason)
  proceeds

def drawdownForSale (orgId itemId : Nat) (quantity : Int) (reason : Reason) : Body Unit :=
  moveStock orgId itemId (-quantity) reason

def assertTransitionAllowed (fromState toState : LifecycleState) : Except Refusal Unit :=
  if toState ∈ transitions fromState then .ok () else .error (.transition fromState toState)

def transitionLifecycleState (via : Via) (cpeDeviceId : Nat) (toState : LifecycleState) :
    Body (Option CpeDevice) := do
  let found ← statement via (.unit false cpeDeviceId .any)
  let device ← orThrow found .notFound
  checked (assertTransitionAllowed device.columns.lifecycleState toState)
  statement via (.updateUnit cpeDeviceId (.state toState))
  proceeds
  statement via (.unit false cpeDeviceId .any)

def assignInStock (cpeDeviceId : Nat) : Body Unit := do
  let found ← statement .pool (.unit false cpeDeviceId .any)
  if found.any fun row => decide (row.columns.lifecycleState = .inStock) then do
    let _ ← transitionLifecycleState .pool cpeDeviceId .assigned
    pure ()
  else pure ()

def assignLinked (cpeDeviceId : Nat) (subscriberId : Option Nat) : Body Unit :=
  if subscriberId.isSome then assignInStock cpeDeviceId else pure ()

def linkSubscriber (cpeDeviceId : Nat) (subscriberId : Option Nat) : Body (Option CpeDevice) := do
  statement .pool (.updateUnit cpeDeviceId (.subscriber subscriberId))
  assignLinked cpeDeviceId subscriberId
  statement .pool (.unit false cpeDeviceId .any)

/-- `_linkSubscriber`. -/
def autoLinked (cpeDeviceId subscriberId : Nat) : Body Unit := do
  statement .pool (.updateUnit cpeDeviceId (.subscriber (some subscriberId)))
  swallowed (assignInStock cpeDeviceId)

def linkOwn (device : CpeDevice) (contractId : Nat) : Body Bool := do
  let own ← asked (.ownClient contractId device.organizationId)
  let clientId ← orThrow own .raised
  match clientId with
  | none => pure false
  | some subscriberId => do
      autoLinked device.id subscriberId
      pure true

def linkBridged (device : CpeDevice) : Body Unit := do
  let bridged ← asked (.bridgedClient device.serialNumber device.organizationId)
  let clientId ← orThrow bridged .raised
  match clientId with
  | none => pure ()
  | some subscriberId => autoLinked device.id subscriberId

/-- Strategy 0 of the auto-link: has it linked a client? -/
def ownStrategy (device : CpeDevice) : Body Bool :=
  match device.columns.contractId with
  | none => pure false
  | some contractId => do
      let tried ← attempted (linkOwn device contractId)
      pure (match tried with
        | .ok linked => linked
        | .error _ => false)

/-- `tryAutoLinkSubscriber`, for the row that was read before. -/
def tryAutoLinkSubscriber (device : CpeDevice) : Body Unit :=
  if device.serialNumber = "" ∨ device.columns.subscriberId.isSome then pure ()
  else do
    let linked ← ownStrategy device
    if linked then pure () else swallowed (linkBridged device)

/-- `POST /devices/:id/lifecycle/transition`. -/
def transitionRoute (cpeDeviceId orgId : Nat) (toState : LifecycleState) :
    Body (Option CpeDevice) := do
  let found ← statement .pool (.unit false cpeDeviceId (.own orgId))
  let existing ← orThrow found .notFound
  refuseIf (existing.inventoryItemId.isSome ∧
    (existing.columns.lifecycleState = .inStock ∨ toState = .inStock)) .stockBoundary
  transitionLifecycleState .pool cpeDeviceId toState

/-- The item of a unit is looked up for its name. -/
def nameOf (unit : CpeDevice) : Body Unit :=
  if unit.inventoryItemId.isSome then statement .conn .elsewhere else pure ()

def bridgeUnitToDevice (unit : CpeDevice) : Body Unit :=
  if unit.columns.deviceId.isSome then pure ()
  else do
    nameOf unit
    proceeds
    let deviceId ← asked .insertsDevice
    statement .conn (.updateUnit unit.id (.device (some deviceId)))

def unbridgeUnit (unit : CpeDevice) : Body Unit :=
  if unit.columns.deviceId.isSome then do
    proceeds
    statement .conn (.updateUnit unit.id (.device none))
  else pure ()

/-- The stock of the unit that takes the place of another one. -/
def takeSwapIn (orgId : Nat) (unit : CpeDevice) : Body Unit :=
  match unit.inventoryItemId with
  | none => pure ()
  | some itemId => moveStock orgId itemId (-1) (.unit unit.id)

/-- The transaction of `swapDevice`. -/
def swapLocked (oldDeviceId newDeviceId orgId : Nat) : Body Unit := do
  let foundOld ← statement .conn (.unit false oldDeviceId .any)
  let old ← orThrow foundOld .notFound
  let foundNew ← statement .conn (.unit false newDeviceId .any)
  let new ← orThrow foundNew .notFound
  refuseIf (old.columns.lifecycleState ≠ .active ∧ old.columns.lifecycleState ≠ .assigned)
    (.oldNotOut old.columns.lifecycleState)
  refuseIf (new.columns.lifecycleState ≠ .inStock) (.newNotInStock new.columns.lifecycleState)
  statement .conn (.updateUnit newDeviceId (.inherit old.columns.subscriberId
    old.columns.cpeProfileId old.columns.contractId old.columns.ownership))
  statement .conn (.updateUnit oldDeviceId .unlink)
  unbridgeUnit old
  bridgeUnitToDevice new
  let _ ← transitionLifecycleState .conn oldDeviceId .returned
  let _ ← transitionLifecycleState .conn newDeviceId .assigned
  takeSwapIn orgId new

def swapDevice (oldDeviceId newDeviceId orgId : Nat) :
    Body (Option CpeDevice × Option CpeDevice) := do
  inTransaction (swapLocked oldDeviceId newDeviceId orgId)
  let oldUpdated ← statement .pool (.unit false oldDeviceId .any)
  let newUpdated ← statement .pool (.unit false newDeviceId .any)
  pure (oldUpdated, newUpdated)

end FireIsp.Inventory
