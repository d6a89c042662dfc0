import FireIsp.Base.Session
import FireIsp.Lifecycle.Evidence

/-!
# Statements of the customer lifecycle

The queries and updates that `lifecycleService` and `contractActivationService` send, with the
service orders and contracts they lock.  A row that refers to an order or a contract locks the row
it refers to when it is inserted.
-/

namespace FireIsp.Lifecycle

open Txn

/-- Queries. -/
inductive Select
  /-- A service order; `live` leaves out deleted ones. -/
  | order (id : Nat) (scope : Scope) (live : Bool)
  /-- A contract; `live` leaves out deleted ones. -/
  | contract (id : Nat) (scope : Scope) (live : Bool)
  | client (id : Nat) (scope : Scope)
  | clientOrganization (id : Nat)
  | organization (id : Nat)
  | environment (organizationId : Nat)
  /-- The active activation-contract templates of an environment, and those without a source. -/
  | templates (organizationId : Nat) (environment : Option Environment)
  | openInstallation (orderId : Nat)
  | installation (orderId contractId : Nat) (scope : Scope) (live : Bool)
  | speedTest (contractId workOrderId : Nat) (startedAt : Option Nat)
  | signed (orderId organizationId : Nat) (clientId : Option Nat) (contractId : Nat)
  /-- A signed acknowledgment of an order: `LIMIT 1`. -/
  | acknowledgment (orderId : Nat) (organizationId clientId : Option Nat) (contractId : Nat)
  /-- The pending and signed documents of an order. -/
  | instances (orderId : Nat) (organizationId : Option Nat) (clientId contractId : Nat)
      (templateType : TemplateType)
  | accounts (contractId : Nat) (scope : Scope)
  | activationOrder (contractId : Nat) (scope : Scope)
  | openActivationOrder (contractId : Nat) (scope : Scope)

/-- Rows of a query. -/
@[reducible] def Select.Res : Select → Type
  | .order .. => Option Order
  | .contract .. => Option Contract
  | .client .. => Option Client
  | .clientOrganization _ => Option Nat
  | .organization _ => Option Organization
  | .environment _ => Option (Locale × Environment)
  | .templates .. => List Registered
  | .openInstallation _ => Bool
  | .installation .. => Option WorkOrder
  | .speedTest .. => Bool
  | .signed .. => List Document
  | .acknowledgment .. => Option Document
  | .instances .. => List Document
  | .accounts .. => Option (Contract × List Radius)
  | .activationOrder .. => Option Order
  | .openActivationOrder .. => Option Order

def Db.order (db : Db) (id : Nat) : Option Order := db.orders.find? fun row => row.id == id

def Db.contract (db : Db) (id : Nat) : Option Contract :=
  db.contracts.find? fun row => row.id == id

def Db.organization (db : Db) (id : Nat) : Option Organization :=
  db.organizations.find? fun row => row.id == id

/-- Environment of new contracts: production without a profile but with its source. -/
def Db.environmentOf (db : Db) (organization : Organization) : Environment :=
  organization.profileEnvironment.getD
    (if db.sources.any fun source =>
      decide (source.organizationId = organization.id ∧ source.environment = .production) then
      .production else .sandbox)

/-- `FIELD(status, 'in_process', 'new', 'done', 'cancelled')`, the first highest. -/
def OrderStatus.rank : OrderStatus → Nat
  | .inProcess => 3
  | .new => 2
  | .done => 1
  | .cancelled => 0

def Order.activates (contractId : Nat) (scope : Scope) (row : Order) : Bool :=
  decide (row.contractId = some contractId ∧ row.orderType = .newInstall ∧ row.deleted = false) &&
    scope.takes row.organizationId

def OrderStatus.isOpen (status : OrderStatus) : Bool :=
  decide (status = .new ∨ status = .inProcess)

def WorkOrder.installs (orderId contractId : Nat) (scope : Scope) (row : WorkOrder) : Bool :=
  decide (row.serviceOrderId = some orderId ∧ row.contractId = some contractId ∧
    row.workType = .installation) && scope.takes (some row.organizationId)

/-- The visit is neither completed nor cancelled. -/
def WorkOrderStatus.isOpen (status : WorkOrderStatus) : Bool :=
  decide (status ≠ .completed ∧ status ≠ .cancelled)

def Db.installation (db : Db) (orderId contractId : Nat) (scope : Scope) (live : Bool) :
    Option WorkOrder :=
  newestBy WorkOrder.id (db.workOrders.filter fun row =>
    row.installs orderId contractId scope && (!live || !row.deleted))

def Db.tested (db : Db) (contractId workOrderId : Nat) (startedAt : Option Nat) : Bool :=
  startedAt.any fun started => db.speedTests.any fun row =>
    decide (row.contractId = some contractId ∧ row.workOrderId = some workOrderId ∧
      row.testSource = .technician ∧ started ≤ row.testedAt ∧ row.deleted = false)

def Document.belongs (orderId : Nat) (organizationId clientId : Option Nat) (contractId : Nat)
    (row : Document) : Bool :=
  decide (row.serviceOrderId = some orderId ∧ row.organizationId = organizationId ∧
    organizationId ≠ none ∧ row.clientId = clientId ∧ row.contractId = some contractId ∧
    row.deleted = false)

def Template.isRequired (organizationId : Nat) (row : Template) : Bool :=
  decide (row.organizationId = some organizationId ∧ row.templateType = .activationContract ∧
    row.isActive = true ∧ row.deleted = false)

def Db.joined (db : Db) (row : Template) : Registered :=
  ⟨row, row.contractTemplateMxId.bind fun id => db.sources.find? fun source => source.id == id⟩

def Registered.isOf (environment : Option Environment) (row : Registered) : Bool :=
  row.source.all fun source => decide (environment = some source.environment)

def Db.rows (db : Db) : (query : Select) → query.Res
  | .order id scope live => (db.order id).filter fun row =>
    scope.takes row.organizationId && (!live || !row.deleted)
  | .contract id scope live => (db.contract id).filter fun row =>
    scope.takes row.organizationId && (!live || !row.deleted)
  | .client id scope => db.clients.find? fun row =>
    row.id == id && scope.takes row.organizationId && !row.deleted
  | .clientOrganization id => (db.clients.find? fun row => row.id == id).bind Client.organizationId
  | .organization id => db.organization id
  | .environment id => (db.organization id).map fun row => (row.locale, db.environmentOf row)
  | .templates organizationId environment =>
    ((db.templates.filter (Template.isRequired organizationId)).map db.joined).filter
      (Registered.isOf environment)
  | .openInstallation orderId => db.workOrders.any fun row =>
    decide (row.serviceOrderId = some orderId ∧ row.workType = .installation ∧
      row.deleted = false) && row.status.isOpen
  | .installation orderId contractId scope live => db.installation orderId contractId scope live
  | .speedTest contractId workOrderId startedAt => db.tested contractId workOrderId startedAt
  | .signed orderId organizationId clientId contractId => db.documents.filter fun row =>
    row.belongs orderId (some organizationId) clientId contractId &&
      decide (row.templateType = .activationContract ∧ row.status = .signed)
  | .acknowledgment orderId organizationId clientId contractId => db.documents.find? fun row =>
    row.belongs orderId organizationId clientId contractId &&
      decide (row.templateId = none ∧ row.templateType = globalAcknowledgmentType ∧
        row.status = .signed)
  | .instances orderId organizationId clientId contractId templateType =>
    db.documents.filter fun row =>
      row.belongs orderId organizationId (some clientId) contractId &&
        decide (row.templateType = templateType ∧
          (row.status = .pending ∨ row.status = .signed))
  | .accounts contractId scope =>
    ((db.contract contractId).filter fun row => scope.takes row.organizationId).map fun row =>
      (row, db.radius.filter fun account =>
        decide (account.contractId = some contractId ∧ account.deleted = false))
  | .activationOrder contractId scope => Table.newest (fun row => row.status.rank) Order.id
      (db.orders.filter (Order.activates contractId scope))
  | .openActivationOrder contractId scope => newestBy Order.id
      (db.orders.filter fun row => row.activates contractId scope && row.status.isOpen)

/-- What one statement changes. -/
inductive Write
  | order (row : Order)
  | started (id startedAt : Nat) (clientId contractId : Option Nat)
  | orderStatus (id : Nat) (status : OrderStatus)
  | orderAssigned (id assignedTo : Nat)
  | contract (row : Contract)
  | activated (id : Nat)
  | contractCancelled (id : Nat) (cleanupPending : Bool)
  | radius (contractId : Nat) (status : RadiusStatus)
  | workOrder (row : WorkOrder)
  /-- Technician of the open installation work orders of an order. -/
  | visitsAssigned (orderId assignedTo : Nat)
  | visitsCancelled (orderId : Nat)
  | document (row : Document)
  | documentsCancelled (orderId : Nat) (organizationId : Option Nat)
  | invoice (row : Invoice)

/-- Rows a transaction can lock. -/
inductive Key
  | order (id : Nat)
  | contract (id : Nat)
  deriving DecidableEq

/-- Statements. -/
inductive Stmt
  /-- A query, `FOR UPDATE` if it is locking. -/
  | select (locking : Bool) (query : Select)
  /-- `UPDATE service_orders SET status = 'in_process', ... WHERE status = 'new'`. -/
  | startRow (id : Nat) (clientId contractId : Option Nat)
  /-- `UPDATE service_orders SET status = 'done' WHERE status = 'in_process'`. -/
  | completeRow (id : Nat)
  /-- `UPDATE service_orders SET status = 'cancelled' WHERE status IN ('new', 'in_process')`. -/
  | cancelRow (id : Nat)
  /-- `INSERT INTO service_orders`; the id of the row is the new one. -/
  | insertOrder (row : Order)
  /-- `UPDATE service_orders SET assigned_to`. -/
  | assignOrder (id assignedTo : Nat)
  /-- `INSERT INTO contracts`. -/
  | insertContract (row : Contract)
  /-- `UPDATE contracts SET status = 'active' WHERE status = 'pending'` and no test window. -/
  | activateContract (id : Nat)
  /-- `UPDATE contracts SET status = 'cancelled' WHERE status = 'pending'`. -/
  | cancelContract (id : Nat) (live cleanupPending : Bool)
  /-- `UPDATE radius SET status`. -/
  | setRadius (contractId : Nat) (status : RadiusStatus)
  /-- `INSERT INTO work_orders`. -/
  | insertWorkOrder (row : WorkOrder)
  /-- `UPDATE work_orders SET assigned_to`. -/
  | assignVisits (orderId assignedTo : Nat)
  /-- `UPDATE work_orders SET status = 'cancelled'`. -/
  | cancelVisits (orderId : Nat)
  /-- `INSERT INTO signed_documents`. -/
  | insertDocument (row : Document)
  /-- `UPDATE signed_documents SET status = 'cancelled'`. -/
  | cancelDocuments (orderId : Nat) (organizationId : Option Nat)
  /-- `INSERT INTO invoices`. -/
  | insertInvoice (row : Invoice)

/-- Reply of a statement; `none` from a trigger that signalled. -/
@[reducible] def Stmt.Res : Stmt → Type
  | .select _ query => query.Res
  | .startRow .. => Bool
  | .completeRow _ => Bool
  | .cancelRow _ => Bool
  | .insertOrder _ => Nat
  | .insertContract _ => Nat
  | .activateContract _ => Option Bool
  | .cancelContract .. => Bool
  | .insertWorkOrder _ => Nat
  | .insertInvoice _ => Nat
  | _ => Unit

def changed (id : Nat) (change : Order → Order) (rows : List Order) : List Order :=
  rows.map fun row => if row.id = id then change row else row

def amended (id : Nat) (change : Contract → Contract) (rows : List Contract) : List Contract :=
  rows.map fun row => if row.id = id then change row else row

def WorkOrder.isOpenVisit (orderId : Nat) (row : WorkOrder) : Bool :=
  decide (row.serviceOrderId = some orderId ∧ row.workType = .installation ∧
    row.deleted = false) && row.status.isOpen

/-- Change the tables. -/
def Db.apply (db : Db) : Write → Db
  | .order row => { db with orders := db.orders ++ [row] }
  | .started id startedAt clientId contractId =>
    { db with orders := changed id (fun row =>
        { row with
          status := .inProcess
          startedAt := some startedAt
          clientId := clientId.or row.clientId
          contractId := contractId.or row.contractId }) db.orders }
  | .orderStatus id status =>
    { db with orders := changed id (fun row => { row with status }) db.orders }
  | .orderAssigned id assignedTo =>
    { db with orders := changed id (fun row =>
        { row with assignedTo := some assignedTo }) db.orders }
  | .contract row => { db with contracts := db.contracts ++ [row] }
  | .activated id =>
    { db with contracts := amended id (fun row =>
        { row with
          status := .active
          testWindowExpiresAt := none
          testWindowCleanupPending := false }) db.contracts }
  | .contractCancelled id cleanupPending =>
    { db with contracts := amended id (fun row =>
        { row with
          status := .cancelled
          testWindowExpiresAt := if cleanupPending then row.testWindowExpiresAt else none
          testWindowCleanupPending := cleanupPending }) db.contracts }
  | .radius contractId status =>
    { db with radius := db.radius.map fun row =>
        if row.contractId = some contractId ∧ row.deleted = false then { row with status }
        else row }
  | .workOrder row => { db with workOrders := db.workOrders ++ [row] }
  | .visitsAssigned orderId assignedTo =>
    { db with workOrders := db.workOrders.map fun row =>
        if row.isOpenVisit orderId = true then
          { row with
            assignedTo := some assignedTo
            status := if row.status = .pending then .assigned else row.status }
        else row }
  | .visitsCancelled orderId =>
    { db with workOrders := db.workOrders.map fun row =>
        if row.isOpenVisit orderId = true then { row with status := .cancelled } else row }
  | .document row => { db with documents := db.documents ++ [row] }
  | .documentsCancelled orderId organizationId =>
    { db with documents := db.documents.map fun row =>
        if row.serviceOrderId = some orderId ∧ row.organizationId = organizationId ∧
            row.status = .pending ∧ row.deleted = false then
          { row with status := .cancelled }
        else row }
  | .invoice row => { db with invoices := db.invoices ++ [row] }

/-- `trg_contracts_radius_consistency_bu`: a PPPoE contract without an account is not activated. -/
def Db.lacksAccount (db : Db) (contract : Contract) : Bool :=
  contract.connectionType.isPppoe &&
    !db.radius.any fun row => decide (row.contractId = some contract.id)

/-- Organization the status trigger looks at. -/
def Db.ownerOf (db : Db) (contract : Contract) : Option Nat :=
  contract.organizationId.or (db.rows (.clientOrganization contract.clientId))

/-- `trg_contracts_status_fsm_bu` for an activation: what a Mexican organization needs is missing. -/
def Db.refusesActivation (db : Db) (contract : Contract) : Bool :=
  ((db.ownerOf contract).bind db.organization).any fun organization =>
    decide (organization.locale = .mx ∧
      (contract.contractTemplateMxId = none ∨ contract.mxContractEnvironment = none ∨
        contract.mxContractEnvironment = some .sandbox ∧
          db.environmentOf organization = .production))

/-- The contract is as the `WHERE` of its activation has it. -/
def Contract.activatable (contract : Contract) : Bool :=
  decide (contract.status = .pending ∧ contract.testWindowExpiresAt = none ∧
    contract.testWindowCleanupPending = false)

/-- The order has the status an update asks for. -/
def Db.orderIs (db : Db) (id : Nat) (status : OrderStatus → Bool) : Bool :=
  db.orders.any fun row => row.id == id && status row.status

/-- Reply and changes of a statement; `seen` is the state its consistent reads see. -/
def exec (tick : Nat) (current seen : Db) : (op : Stmt) → op.Res × List Write
  | .select locking query => ((if locking then current else seen).rows query, [])
  | .startRow id clientId contractId =>
    if current.orderIs id fun status => decide (status = .new) then
      (true, [.started id tick clientId contractId])
    else (false, [])
  | .completeRow id =>
    if current.orderIs id fun status => decide (status = .inProcess) then
      (true, [.orderStatus id .done])
    else (false, [])
  | .cancelRow id =>
    if current.orderIs id OrderStatus.isOpen then (true, [.orderStatus id .cancelled])
    else (false, [])
  | .insertOrder row => (tick, [.order { row with id := tick }])
  | .assignOrder id assignedTo => ((), [.orderAssigned id assignedTo])
  | .insertContract row => (tick, [.contract { row with id := tick }])
  | .activateContract id =>
    match current.contract id with
    | none => (some false, [])
    | some row =>
      if row.activatable = false then (some false, [])
      else if current.lacksAccount row || current.refusesActivation row then (none, [])
      else (some true, [.activated id])
  | .cancelContract id live cleanupPending =>
    if current.contracts.any fun row => row.id == id && decide (row.status = .pending) &&
        (!live || !row.deleted) then
      (true, [.contractCancelled id cleanupPending])
    else (false, [])
  | .setRadius contractId status => ((), [.radius contractId status])
  | .insertWorkOrder row => (tick, [.workOrder { row with id := tick }])
  | .assignVisits orderId assignedTo => ((), [.visitsAssigned orderId assignedTo])
  | .cancelVisits orderId => ((), [.visitsCancelled orderId])
  | .insertDocument row => ((), [.document { row with id := tick }])
  | .cancelDocuments orderId organizationId => ((), [.documentsCancelled orderId organizationId])
  | .insertInvoice row => (tick, [.invoice { row with id := tick }])

/-- Rows a query locks `FOR UPDATE`. -/
def Select.locked (db : Db) : Select → List Key
  | .order id _ _ => [.order id]
  | .contract id _ _ => [.contract id]
  | .openActivationOrder contractId scope =>
    ((db.rows (.openActivationOrder contractId scope)).map fun row : Order =>
      Key.order row.id).toList
  | _ => []

/-- Rows a new row refers to. -/
def referred (orderId contractId : Option Nat) : List Key :=
  (orderId.map Key.order).toList ++ (contractId.map Key.contract).toList

def locks : Stmt → Db → List Key
  | .select true query, db => query.locked db
  | .startRow id _ contractId, _ => referred (some id) contractId
  | .completeRow id, _ => [.order id]
  | .cancelRow id, _ => [.order id]
  | .insertOrder row, _ => referred none row.contractId
  | .assignOrder id _, _ => [.order id]
  | .activateContract id, _ => [.contract id]
  | .cancelContract id _ _, _ => [.contract id]
  | .insertWorkOrder row, _ => referred row.serviceOrderId row.contractId
  | .insertDocument row, _ => referred row.serviceOrderId row.contractId
  | .insertInvoice row, _ => referred none row.contractId
  | _, _ => []

/-- The statement contains a consistent read. -/
def reads : Stmt → Bool
  | .select locking _ => !locking
  | _ => false

/-- The tables of the customer lifecycle as a transactional engine. -/
def engine : Engine Db Write Key Stmt Stmt.Res where
  apply := Db.apply
  exec := fun op tick current seen => exec tick current seen op
  locks := locks
  snapshots := reads

end FireIsp.Lifecycle
