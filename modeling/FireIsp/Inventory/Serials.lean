import FireIsp.Inventory.Devices

/-!
# Serialized equipment

`inventorySerialService`: units are registered, installed on a contract, taken off it again, and
picked up once the contract has ended.
-/

namespace FireIsp.Inventory

open Txn Txn.Throwing
open Txn.Client (inTransaction)

def loadItem (itemId orgId : Nat) : Body Item := do
  let found ← statement .conn (.item itemId orgId)
  orThrow found .itemNotInOrganization

def assertSerialNotTaken (serialNumber : String) (orgId : Nat) : Body Unit := do
  let found ← statement .conn (.serialTaken serialNumber orgId)
  refuseIf (found.isSome = true) (.serialTaken serialNumber)

def untrackedCapacity (itemId orgId : Nat) : Body Int := do
  let total ← statement .conn (.stockTotal itemId orgId)
  let tracked ← statement .conn (.trackedTotal itemId orgId)
  pure (total - tracked)

/-- A unit of stock that is not tracked is left. -/
def assertUntracked (itemId orgId : Nat) : Body Unit := do
  let capacity ← untrackedCapacity itemId orgId
  refuseIf (capacity ≤ 0) .noUntrackedStock

/-- `createTrackedUnits`: the new units. -/
def createTrackedUnits (orgId itemId : Nat) (origin : Origin) : List String → Body (List Nat)
  | [] => pure []
  | serialNumber :: serials => do
      refuseIf (Text.isBlank serialNumber = true) .blankSerial
      assertSerialNotTaken (Text.trim serialNumber) orgId
      let id ← statement .conn (.insertUnit orgId (Text.trim serialNumber) itemId origin)
      let created ← createTrackedUnits orgId itemId origin serials
      pure (id :: created)

/-- Options of `registerSerial`. -/
structure RegisterOptions where
  orgId : Nat
  itemId : Nat
  serialNumber : String
  warehouseId : Option Nat
  incrementStock : Bool

def stockInWarehouse (itemId warehouseId : Nat) : Body Nat := do
  let found ← statement .conn (.stockAt itemId warehouseId)
  match found with
  | some stockId => pure stockId
  | none => statement .conn (.insertStock itemId warehouseId 0 .registered)

/-- The stock row of a new unit. -/
def stockForNew (options : RegisterOptions) : Body Nat :=
  match options.warehouseId with
  | some warehouseId => stockInWarehouse options.itemId warehouseId
  | none => resolveOrCreateStockRow options.orgId options.itemId

/-- The warehouse that was specified is one of the organization. -/
def assertWarehouse (options : RegisterOptions) : Body Unit :=
  match options.warehouseId with
  | none => pure ()
  | some warehouseId => do
      let shared ← lookedUp (.warehouseShared warehouseId options.orgId)
      refuseIf (shared = false) .warehouseNotInOrganization

def registerNew (options : RegisterOptions) : Body Nat := do
  assertWarehouse options
  let deviceId ← statement .conn (.insertUnit options.orgId (Text.trim options.serialNumber)
    options.itemId .registered)
  let stockId ← stockForNew options
  statement .conn (.addStock stockId 1 .registered)
  proceeds
  pure deviceId

/-- A unit of stock that was not tracked. -/
def registerCatchUp (options : RegisterOptions) : Body Nat := do
  assertUntracked options.itemId options.orgId
  statement .conn (.insertUnit options.orgId (Text.trim options.serialNumber) options.itemId
    .catchUp)

/-- The transaction of `registerSerial`. -/
def registerLocked (options : RegisterOptions) : Body Nat := do
  let _ ← loadItem options.itemId options.orgId
  assertSerialNotTaken (Text.trim options.serialNumber) options.orgId
  if options.incrementStock then registerNew options else registerCatchUp options

def registerSerial (options : RegisterOptions) : Body (Option CpeDevice) := do
  refuseIf (Text.isBlank options.serialNumber = true) .blankSerial
  let deviceId ← inTransaction (registerLocked options)
  statement .pool (.unit false deviceId .any)

/-- Options of `installEquipment`. -/
structure InstallOptions where
  orgId : Nat
  contractId : Nat
  serviceOrderId : Option Nat
  cpeDeviceId : Option Nat
  /-- Serial number of a unit that is not tracked yet. -/
  newSerial : Option String
  inventoryItemId : Option Nat
  ownership : Ownership

/-- What `installEquipment` checks of its options. -/
def assertInstallable (options : InstallOptions) : Except Refusal Unit :=
  if options.cpeDeviceId = none ∧ options.newSerial = none then .error .neitherUnit
  else if options.cpeDeviceId.isSome ∧ options.newSerial.isSome then .error .bothUnits
  else if options.newSerial.isSome ∧ options.inventoryItemId = none then .error .itemRequired
  else .ok ()

def assertServiceOrder (options : InstallOptions) : Body Unit :=
  match options.serviceOrderId with
  | none => pure ()
  | some serviceOrderId => do
      let matching ← lookedUp
        (.serviceOrderMatches serviceOrderId options.contractId options.orgId)
      refuseIf (matching = false) .serviceOrderMismatch

def pickedUnit (options : InstallOptions) (cpeDeviceId : Nat) : Body CpeDevice := do
  let found ← statement .conn (.unit true cpeDeviceId (.shared options.orgId))
  let unit ← orThrow found .unitNotInOrganization
  refuseIf (unit.columns.lifecycleState ≠ .inStock) (.notInStock unit.columns.lifecycleState)
  refuseIf (unit.inventoryItemId = none) .unlinkedUnit
  pure unit

/-- A unit of stock that was not tracked. -/
def typedUnit (options : InstallOptions) (newSerial : String) : Body CpeDevice := do
  let itemId ← orThrow options.inventoryItemId .itemRequired
  let _ ← loadItem itemId options.orgId
  assertUntracked itemId options.orgId
  refuseIf (Text.isBlank newSerial = true) .blankSerial
  assertSerialNotTaken (Text.trim newSerial) options.orgId
  let id ← statement .conn (.insertUnit options.orgId (Text.trim newSerial) itemId .catchUp)
  let found ← statement .conn (.unit true id .any)
  orThrow found .notFound

def unitToInstall (options : InstallOptions) : Body CpeDevice :=
  match options.cpeDeviceId, options.newSerial with
  | some cpeDeviceId, _ => pickedUnit options cpeDeviceId
  | none, some newSerial => typedUnit options newSerial
  | none, none => throw .neitherUnit

/-- The invoice of a unit that is sold. -/
def sellUnit (orgId : Nat) (unit : CpeDevice) (itemId : Nat) : Body Unit := do
  let item ← loadItem itemId orgId
  let amount ← orThrow (item.salePrice.or item.unitCost) .noPrice
  statement .conn .elsewhere
  proceeds
  let invoiceId ← asked (.insertsInvoice amount)
  drawdownForSale orgId itemId 1 (.unit unit.id)
  proceeds
  statement .conn (.updateUnit unit.id (.saleInvoice invoiceId))

def takeOfItem (options : InstallOptions) (unit : CpeDevice) (itemId : Nat) : Body Unit :=
  match options.ownership with
  | .rented => moveStock options.orgId itemId (-1) (.unit unit.id)
  | .sold => sellUnit options.orgId unit itemId

def takeInstalled (options : InstallOptions) (unit : CpeDevice) : Body Unit := do
  let itemId ← orThrow unit.inventoryItemId .unlinkedUnit
  takeOfItem options unit itemId

/-- The transaction of `installEquipment`. -/
def installLocked (options : InstallOptions) : Body Nat := do
  let contract ← lookedUp (.contract options.contractId options.orgId)
  let clientId ← orThrow contract .contractNotInOrganization
  assertServiceOrder options
  let unit ← unitToInstall options
  statement .conn (.updateUnit unit.id (.assign options.contractId clientId options.ownership))
  let _ ← transitionLifecycleState .conn unit.id .assigned
  bridgeUnitToDevice unit
  takeInstalled options unit
  pure unit.id

def installEquipment (options : InstallOptions) : Body (Option CpeDevice) := do
  checked (assertInstallable options)
  let unitId ← inTransaction (installLocked options)
  statement .pool (.unit false unitId .any)

def isOut (unit : CpeDevice) : Prop :=
  unit.columns.lifecycleState = .assigned ∨ unit.columns.lifecycleState = .active

instance (unit : CpeDevice) : Decidable (isOut unit) := inferInstanceAs (Decidable (_ ∨ _))

def assertContractLive (orgId : Nat) (unit : CpeDevice) : Body Unit :=
  match unit.columns.contractId with
  | none => pure ()
  | some contractId => do
      let ended ← asked (.contractEnded contractId orgId)
      refuseIf (ended = true) .contractEnded

def voidInvoiceById (orgId invoiceId : Nat) : Body Unit := do
  let done ← asked (.voids invoiceId orgId)
  refuseIf (done = false) .raised

def voidSale (orgId invoiceId : Nat) : Body Unit := do
  let found ← asked (.saleInvoice invoiceId orgId)
  match found with
  | none => pure ()
  | some invoice => do
      refuseIf (invoice.paid = true) .paymentApplied
      if invoice.void then pure () else voidInvoiceById orgId invoiceId

def voidSaleOf (orgId : Nat) (unit : CpeDevice) : Body Unit :=
  match unit.columns.ownership, unit.columns.saleInvoiceId with
  | some .sold, some invoiceId => voidSale orgId invoiceId
  | _, _ => pure ()

/-- The stock of a unit whose install is undone, if its install took any. -/
def restoreUninstalled (orgId : Nat) (unit : CpeDevice) : Body Unit :=
  match unit.inventoryItemId, unit.columns.ownership with
  | some itemId, some _ => moveStock orgId itemId 1 (.unit unit.id)
  | _, _ => pure ()

/-- The transaction of `uninstallEquipment`. -/
def uninstallLocked (orgId cpeDeviceId : Nat) : Body Unit := do
  let found ← statement .conn (.unit true cpeDeviceId (.shared orgId))
  let unit ← orThrow found .notFound
  refuseIf (¬isOut unit) (.notInstalled unit.columns.lifecycleState)
  restoreUninstalled orgId unit
  let _ ← transitionLifecycleState .conn unit.id .inStock
  statement .conn (.updateUnit unit.id (.unassign true))
  unbridgeUnit unit

def uninstallEquipment (orgId cpeDeviceId : Nat) : Body (Option CpeDevice) := do
  let found ← statement .pool (.unit false cpeDeviceId (.shared orgId))
  let unit ← orThrow found .notFound
  refuseIf (¬isOut unit) (.notInstalled unit.columns.lifecycleState)
  assertContractLive orgId unit
  voidSaleOf orgId unit
  inTransaction (uninstallLocked orgId cpeDeviceId)
  statement .pool (.unit false cpeDeviceId .any)

/-- What becomes of a unit that is picked up. -/
inductive Disposition
  | returned
  | rma

/-- The state of a unit that was picked up. -/
def Disposition.toState : Disposition → LifecycleState
  | .returned => .inStock
  | .rma => .rma

def restorePicked (orgId : Nat) (disposition : Disposition) (unit : CpeDevice) : Body Unit :=
  match disposition, unit.inventoryItemId with
  | .returned, some itemId => moveStock orgId itemId 1 (.unit unit.id)
  | _, _ => pure ()

/-- The transaction of `completePickupUnit`. -/
def pickupLocked (orgId contractId cpeDeviceId : Nat) (disposition : Disposition) : Body Unit := do
  let found ← statement .conn (.pickupUnit cpeDeviceId contractId orgId)
  let unit ← orThrow found .notOutstanding
  let _ ← transitionLifecycleState .conn unit.id disposition.toState
  statement .conn (.updateUnit unit.id (.unassign false))
  unbridgeUnit unit
  restorePicked orgId disposition unit

/-- The work order is completed once no unit is out any more. -/
def completePickup (remaining : Nat) : Body Unit := if remaining = 0 then proceeds else pure ()

def completePickupUnit (orgId workOrderId cpeDeviceId : Nat) (disposition : Disposition) :
    Body (Option CpeDevice) := do
  let found ← asked (.pickup workOrderId orgId)
  let contract ← orThrow found .pickupNotFound
  let contractId ← orThrow contract .pickupUnlinked
  inTransaction (pickupLocked orgId contractId cpeDeviceId disposition)
  let remaining ← statement .pool (.outstanding contractId)
  completePickup remaining
  statement .pool (.unit false cpeDeviceId .any)

end FireIsp.Inventory

/-!
## Receiving a purchase order

`POST /purchase-orders/:id/receive`, and the calls of all services on the inventory.
-/

namespace FireIsp.Inventory

open Txn Txn.Throwing
open Txn.Client (inTransaction)

/-- Body of the request. -/
structure ReceiveRequest where
  /-- Cumulative quantities by line, in full if there are none. -/
  items : Option (List (Int × Rat))
  serials : List (Nat × List String)

/-- The last quantity that is given for a line. -/
def overrideOf (entries : List (Int × Rat)) (lineId : Nat) : Option Rat :=
  entries.reverse.lookup (lineId : Int)

def targetOf (request : ReceiveRequest) (line : OrderLine) : Rat :=
  match request.items with
  | none => line.quantityOrdered
  | some entries =>
    min (max ((overrideOf entries line.id).getD line.quantityReceived) line.quantityReceived)
      line.quantityOrdered

def deltaOf (request : ReceiveRequest) (line : OrderLine) : Rat :=
  targetOf request line - line.quantityReceived

/-- Serial numbers that are given for a line. -/
def serialsOf (request : ReceiveRequest) (line : OrderLine) : List String :=
  (request.serials.lookup line.id).getD []

/-- Whether the items of the lines are tracked, each asked once. -/
def serialRequiredByItem : List OrderLine → List (Nat × Bool) → Body (List (Nat × Bool))
  | [], known => pure known
  | line :: lines, known =>
    match line.inventoryItemId with
    | none => serialRequiredByItem lines known
    | some itemId =>
      if (known.lookup itemId).isSome then serialRequiredByItem lines known
      else do
        let required ← statement .conn (.serialRequired itemId)
        serialRequiredByItem lines ((itemId, required.getD false) :: known)

def isSerialRequired (known : List (Nat × Bool)) (line : OrderLine) : Bool :=
  line.inventoryItemId.any fun itemId => (known.lookup itemId).getD false

/-- The serial numbers of a line are complete, before anything is written. -/
def assertSerials (order : PurchaseOrder) (request : ReceiveRequest) (known : List (Nat × Bool))
    (line : OrderLine) : Except Refusal Unit :=
  if 0 < deltaOf request line ∧ isSerialRequired known line = true then
    if order.warehouseId = none then .error (.noOrderWarehouse line.id)
    else if ((serialsOf request line).length : Rat) ≠ deltaOf request line then
      .error (.serialCount line.id)
    else .ok ()
  else .ok ()

def receiveStock (lineId itemId warehouseId : Nat) (delta : Rat) : Body Unit := do
  let found ← statement .conn (.stockAt itemId warehouseId)
  match found with
  | some stockId => statement .conn (.addStock stockId delta (.line lineId))
  | none => do
      let _ ← statement .conn (.insertStock itemId warehouseId delta (.line lineId))
      pure ()

def mintUnits (orgId itemId : Nat) (request : ReceiveRequest) (known : List (Nat × Bool))
    (line : OrderLine) : Body Unit :=
  if (known.lookup itemId).getD false then do
    let _ ← createTrackedUnits orgId itemId (.line line.id) (serialsOf request line)
    pure ()
  else pure ()

def receiveItem (order : PurchaseOrder) (orgId : Nat) (request : ReceiveRequest)
    (known : List (Nat × Bool)) (line : OrderLine) : Body Unit :=
  match line.inventoryItemId, order.warehouseId with
  | some itemId, some warehouseId => do
      receiveStock line.id itemId warehouseId (deltaOf request line)
      proceeds
      mintUnits orgId itemId request known line
  | _, _ => pure ()

def receiveLine (order : PurchaseOrder) (orgId : Nat) (request : ReceiveRequest)
    (known : List (Nat × Bool)) (line : OrderLine) : Body Unit :=
  if 0 < deltaOf request line then do
    receiveItem order orgId request known line
    statement .conn (.setReceived line.id (targetOf request line))
  else pure ()

def receiveLines (order : PurchaseOrder) (orgId : Nat) (request : ReceiveRequest)
    (known : List (Nat × Bool)) : List OrderLine → Body Unit
  | [] => pure ()
  | line :: lines => do
      receiveLine order orgId request known line
      receiveLines order orgId request known lines

def newStatus (order : PurchaseOrder) (request : ReceiveRequest) (lines : List OrderLine) :
    OrderStatus :=
  if lines = [] then order.status
  else if lines.all fun line => decide ((line.quantityOrdered : Rat) ≤ targetOf request line) then
    .received
  else if lines.any fun line => decide (0 < targetOf request line) then .part
  else order.status

/-- The transaction of the request. -/
def receiveLocked (order : PurchaseOrder) (orgId : Nat) (request : ReceiveRequest) :
    Body Unit := do
  let lines ← statement .conn (.lines order.id)
  let known ← serialRequiredByItem lines []
  checked (lines.forM (assertSerials order request known))
  receiveLines order orgId request known lines
  statement .conn (.setOrder order.id (newStatus order request lines))

/-- Every quantity is given for a line, and none is negative. -/
def assertEntries (request : ReceiveRequest) : Except Refusal Unit :=
  if (request.items.getD []).any fun entry => decide (entry.2 < 0) then .error .badEntry
  else .ok ()

/-- `POST /purchase-orders/:id/receive`. -/
def receivePo (orgId poId : Nat) (request : ReceiveRequest) : Body (Option PurchaseOrder) := do
  let found ← statement .pool (.order poId orgId)
  let order ← orThrow found .orderNotFound
  refuseIf (order.status = .cancelled) .orderCancelled
  refuseIf (order.status = .received) .alreadyReceived
  checked (assertEntries request)
  inTransaction (receiveLocked order orgId request)
  statement .pool (.order poId orgId)

/-- The lines of an invoice are sold one by one. -/
def sellLines (orgId : Nat) : List (Nat × Int) → Body Unit
  | [] => pure ()
  | line :: lines => do
      proceeds
      drawdownForSale orgId line.1 line.2 .sale
      sellLines orgId lines

/-- The transaction of an invoice whose lines are items with quantities. -/
def saleLocked (orgId : Nat) (lines : List (Nat × Int)) : Body Unit := do
  statement .conn .elsewhere
  sellLines orgId lines
  proceeds

/-- Calls on the inventory. -/
inductive Call
  /-- `POST /purchase-orders/:id/receive`. -/
  | receive (orgId poId : Nat) (request : ReceiveRequest)
  | register (options : RegisterOptions)
  | install (options : InstallOptions)
  | uninstall (orgId cpeDeviceId : Nat)
  | pickup (orgId workOrderId cpeDeviceId : Nat) (disposition : Disposition)
  | swap (oldDeviceId newDeviceId orgId : Nat)
  | link (cpeDeviceId : Nat) (subscriberId : Option Nat)
  /-- `tryAutoLinkSubscriber`, for the row that was read before. -/
  | autoLink (device : CpeDevice)
  /-- `POST /devices/:id/lifecycle/transition`. -/
  | transition (cpeDeviceId orgId : Nat) (toState : LifecycleState)
  | sell (orgId : Nat) (lines : List (Nat × Int))

/-- What a call returns is sent to its caller. -/
def answered {A : Type} (body : Body A) : Body Unit := do
  let _ ← body
  pure ()

/-- What a call does. -/
def Call.run : Call → Body Unit
  | .receive orgId poId request => answered (receivePo orgId poId request)
  | .register options => answered (registerSerial options)
  | .install options => answered (installEquipment options)
  | .uninstall orgId cpeDeviceId => answered (uninstallEquipment orgId cpeDeviceId)
  | .pickup orgId workOrderId cpeDeviceId disposition =>
    answered (completePickupUnit orgId workOrderId cpeDeviceId disposition)
  | .swap oldDeviceId newDeviceId orgId => answered (swapDevice oldDeviceId newDeviceId orgId)
  | .link cpeDeviceId subscriberId => answered (linkSubscriber cpeDeviceId subscriberId)
  | .autoLink device => tryAutoLinkSubscriber device
  | .transition cpeDeviceId orgId toState => answered (transitionRoute cpeDeviceId orgId toState)
  | .sell orgId lines => inTransaction (saleLocked orgId lines)

/-- Calls on the inventory, interleaved. -/
abbrev System :=
  Sys Db Write Key Stmt Stmt.Res (Outside Stmt Query) (Outside.Answer Query.Answer)
    (Except Refusal Unit)

end FireIsp.Inventory
