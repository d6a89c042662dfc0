import FireIsp.Base.Throwing
import FireIsp.Lifecycle.Statements

/-!
# Service orders

`startOrder`, `completeOrder` and `cancelOrder` of `lifecycleService`.  Every statement may raise,
and what they do in tables that nothing else here reads is a question to the world outside.
-/

namespace FireIsp.Lifecycle

open Txn Throwing

/-- Calls of a connection that may raise. -/
inductive Bracket
  | connect
  | begin
  | commit
  | rollback

/-- Questions to the world outside the tables. -/
inductive Query
  | raises (op : Stmt)
  | fails (bracket : Bracket)
  | proceeds
  | otherwise
  | now
  | planSelectable (planId organizationId : Option Nat)
  /-- `convertLeadOnConnection`: the client, unless it throws. -/
  | convertsLead (leadId organizationId : Option Nat)
  /-- `generateForOrder`: the documents it renders, unless it throws. -/
  | generates (orderId : Nat)
  /-- Tax, rounding and number of `createOneOffInvoice`: the total, unless it throws. -/
  | composes (clientId : Option Nat) (amount : Int)
  /-- `requiresExternalCleanup`, unless it throws. -/
  | requiresCleanup (contractId : Nat)
  | mayCommission (userId organizationId : Nat)

/-- Replies from outside. -/
@[reducible] def Query.Answer : Query → Type
  | .raises _ => Bool
  | .fails _ => Bool
  | .proceeds => Bool
  | .otherwise => Unit
  | .now => Nat
  | .planSelectable .. => Bool
  | .convertsLead .. => Option Nat
  | .generates _ => Option (List Document)
  | .composes .. => Option Int
  | .requiresCleanup _ => Option Bool
  | .mayCommission .. => Bool

/-- Functions of the services. -/
abbrev Body (A : Type) := Throwing Stmt Stmt.Res Query Query.Answer Refusal A

def statement (via : Via) (op : Stmt) : Body op.Res := do
  let raised ← lift (Prog.ask (Query.raises op))
  refuseIf raised .raised
  lift (Prog.send via op)

/-- A question to the world outside. -/
def asked (query : Query) : Body query.Answer := lift (Prog.ask query)

/-- Work in other tables. -/
def proceeds : Body Unit := do
  let proceeded ← asked .proceeds
  refuseIf (!proceeded) .raised

/-- Work in other tables, if it is done at all. -/
def proceedsIf (condition : Bool) : Body Unit := if condition then proceeds else pure ()

def bracket (call : Bracket) : Body Unit := do
  let failed ← asked (.fails call)
  refuseIf failed .raised

/-- `await conn.rollback(); throw err;`; the server rolls back even if the call raises. -/
def rolledBack {A : Type} (error : Refusal) : Body A := do
  let failed ← asked (.fails .rollback)
  lift Prog.rollbackNow
  throw (if failed then .raised else error)

/-- The `try` of a transaction: what it does until `COMMIT`, and what it reads after it. -/
def committing {A B : Type} (body : Body A) (reload : Body B) : Body (A × B) := do
  bracket .begin
  lift Prog.begin
  let value ← body
  bracket .commit
  lift Prog.commitNow
  let read ← reload
  pure (value, read)

/-- The `catch` of a transaction. -/
def settle {A : Type} : Except Refusal A → Body A
  | .ok value => pure value
  | .error error => rolledBack error

def inTransaction {A B : Type} (body : Body A) (reload : Body B) : Body (A × B) := do
  bracket .connect
  let tried ← attempted (committing body reload)
  settle tried

variable (H : Hashing)

/-- Options of `startOrder`. -/
structure StartOptions where
  orgId : Option Nat
  canStartInstallation : Bool

/-- What `startOrder` checks of the order, before and after it is locked. -/
def assertStartable (options : StartOptions) (order : Order) : Except Refusal Unit := do
  Fallible.refuseIf (order.status ≠ .new) (.transition order.status)
  Fallible.refuseIf (order.planId = none) .noPlan
  Fallible.refuseIf (order.clientId = none ∧ order.leadId = none) .noClientOrLead
  Fallible.refuseIf (order.orderType = .newInstall ∧ options.canStartInstallation = false)
    .forbidden

/-- The client of the order, from the lead if it has none. -/
def resolveClient (order : Order) (effectiveOrgId : Option Nat) : Body Nat :=
  match order.clientId with
  | some clientId => do
      let found ← statement .conn (.select true (.client clientId (Scope.of effectiveOrgId)))
      let _ ← orThrow found .clientNotFound
      pure clientId
  | none => do
      let converted ← asked (.convertsLead order.leadId effectiveOrgId)
      orThrow converted .leadNotConverted

/-- The linked contract and the environment of the installation. -/
def flowEnvironment (order : Order) (activationOrgId : Nat) :
    Body (Option Contract × Environment) :=
  match order.contractId with
  | some contractId => do
      let linked ← statement .conn (.select true (.contract contractId (.own activationOrgId) true))
      let environment ← orThrow (linked.bind Contract.mxContractEnvironment) .environmentNotFrozen
      pure (linked, environment)
  | none => do
      let found ← statement .conn (.select false (.environment activationOrgId))
      let environment ← orThrow found .organizationNotFound
      refuseIf (environment.1 ≠ .mx) .organizationNotMx
      pure (none, environment.2)

def linkedTo (contract : Option Contract) (source : Option Snapshot) : Bool :=
  match contract, source with
  | some contract, some source =>
    decide (contract.contractTemplateMxId.getD 0 = source.contractTemplateMxId ∧
      contract.mxContractEnvironment = some source.contractEnvironment)
  | _, _ => false

/-- The source a Mexican installation uses. -/
def mxSource (order : Order) (activationOrgId : Nat) : Body (Option Snapshot) := do
  let flow ← flowEnvironment order activationOrgId
  let activationTemplates ←
    statement .conn (.select true (.templates activationOrgId (some flow.2)))
  refuseIf (activationTemplates = []) .templatesMissing
  let source ←
    checked (assertOneRegisteredSource H activationTemplates activationOrgId (some flow.2))
  refuseIf (order.contractId.isSome ∧ linkedTo flow.1 source = false) .notLinkedToTemplate
  pure source

/-- The source an installation uses, if it is Mexican. -/
def registrationFor (order : Order) (effectiveOrgId : Option Nat) : Body (Option Snapshot) :=
  match decide (order.orderType = .newInstall), effectiveOrgId with
  | true, some activationOrgId => do
      let found ← statement .conn (.select true (.organization activationOrgId))
      let organization ← orThrow found .organizationNotFound
      match organization.locale with
      | .mx => mxSource H order activationOrgId
      | .global => pure none
  | _, _ => pure none

/-- The contract that `startOrder` creates. -/
def contractData (order : Order) (orgId : Option Nat) (clientId : Nat) (source : Option Snapshot) :
    Contract where
  id := 0
  organizationId := order.organizationId.or orgId
  clientId
  planId := order.planId.getD 0
  connectionType := .pppoe
  contractTemplateMxId := source.map Snapshot.contractTemplateMxId
  mxContractEnvironment := source.map Snapshot.contractEnvironment
  status := .pending
  testWindowExpiresAt := none
  testWindowCleanupPending := false
  deleted := false

def contractToLink (order : Order) (orgId : Option Nat) (clientId : Nat)
    (source : Option Snapshot) : Body (Option Nat) :=
  if order.orderType = .newInstall ∧ order.contractId = none then do
    let selectable ← asked (.planSelectable order.planId orgId)
    refuseIf (!selectable) .planArchived
    let contractId ← statement .conn (.insertContract (contractData order orgId clientId source))
    proceeds
    pure (some contractId)
  else pure order.contractId

def installationVisit (organizationId : Nat) (clientId : Option Nat) (contractId : Option Nat)
    (order : Order) : WorkOrder where
  id := 0
  organizationId
  clientId
  contractId
  serviceOrderId := some order.id
  assignedTo := order.assignedTo
  status := if order.assignedTo.isSome then .assigned else .pending
  workType := .installation
  acceptanceSignalDbm := none
  acceptanceLinkMbps := none
  acceptanceRxDbm := none
  acceptanceWaived := false
  deleted := false

/-- The visit of an installation, unless one is open. -/
def dispatch (order : Order) (orgId : Option Nat) (clientId : Nat) (contractId : Option Nat) :
    Body (Option Nat) :=
  match decide (order.orderType = .newInstall), order.organizationId.or orgId with
  | true, some woOrgId => do
      let existing ← statement .conn (.select false (.openInstallation order.id))
      if existing then pure none
      else do
        let workOrderId ← statement .conn
          (.insertWorkOrder (installationVisit woOrgId (some clientId) contractId order))
        proceeds
        pure (some workOrderId)
  | _, _ => pure none

/-- A document as `generateForOrder` inserts it. -/
def Document.generatedFor (orgId : Nat) (clientId contractId : Option Nat) (orderId : Nat)
    (workOrderId : Option Nat) (rendered : Document) : Document :=
  { rendered with
    organizationId := some orgId
    clientId
    contractId
    serviceOrderId := some orderId
    workOrderId
    status := .pending
    evidenceFormatVersion := 3
    deleted := false }

def insertDocuments : List Document → Body Unit
  | [] => pure ()
  | row :: rows => do
      statement .conn (.insertDocument row)
      insertDocuments rows

def generateForOrder (orgId clientId contractId : Option Nat) (orderId : Nat)
    (workOrderId : Option Nat) : Body Unit :=
  match orgId with
  | none => pure ()
  | some orgId => do
      let rendered ← asked (.generates orderId)
      let documents ← orThrow rendered .documentsNotGenerated
      insertDocuments
        (documents.map (Document.generatedFor orgId clientId contractId orderId workOrderId))

/-- The documents of an installation. -/
def handOver (order : Order) (orgId : Option Nat) (clientId : Nat) (contractId : Option Nat)
    (workOrderId : Option Nat) : Body Unit :=
  if order.orderType = .newInstall then
    generateForOrder (order.organizationId.or orgId) (some clientId) contractId order.id workOrderId
  else pure ()

/-- What an update sets: the value if it is a new one. -/
def newValue (value old : Option Nat) : Option Nat := if value = old then none else value

/-- The transaction of `startOrder`. -/
def startLocked (orderId : Nat) (options : StartOptions) : Body (Option Nat × Option Nat) := do
  let found ← statement .conn (.select true (.order orderId (Scope.of options.orgId) false))
  let order ← orThrow found .orderNotFound
  checked (assertStartable options order)
  let effectiveOrgId := order.organizationId.or options.orgId
  let clientId ← resolveClient order effectiveOrgId
  let source ← registrationFor H order effectiveOrgId
  let contractId ← contractToLink order options.orgId clientId source
  let started ← statement .conn (.startRow orderId (newValue (some clientId) order.clientId)
    (newValue contractId order.contractId))
  refuseIf (!started) .modifiedConcurrently
  let workOrderId ← dispatch order options.orgId clientId contractId
  handOver order options.orgId clientId contractId workOrderId
  pure (contractId, workOrderId)

/-- `SELECT * FROM service_orders` after the commit. -/
def reloadOrder (orderId : Nat) : Body (Option Order) :=
  statement .pool (.select false (.order orderId .all false))

def startOrder (orderId : Nat) (options : StartOptions) : Body (Option Order) := do
  let found ← statement .pool (.select false (.order orderId (Scope.of options.orgId) true))
  let preOrder ← orThrow found .orderNotFound
  checked (assertStartable options preOrder)
  let result ← inTransaction (startLocked H orderId options) (reloadOrder orderId)
  pure result.2

inductive Billing
  | alreadyPaid
  | createInvoice

/-- Options of `completeOrder`. -/
structure CompleteOptions where
  orgId : Option Nat
  billing : Billing
  installationFee : Option Int
  canActivateContract : Bool
  canCreateInvoice : Bool

/-- What `completeOrder` checks of the invoice before any write: the fee. -/
def assertInvoice (options : CompleteOptions) (preOrder : Order) : Body Int :=
  match options.billing with
  | .alreadyPaid => pure 0
  | .createInvoice => do
      refuseIf (options.canCreateInvoice = false) .forbidden
      let clientId ← orThrow preOrder.clientId .noClient
      let found ← statement .pool (.select false (.client clientId (Scope.of options.orgId)))
      let _ ← orThrow found .clientNotFound
      let fee ← orThrow (options.installationFee.filter fun fee => 0 < fee) .feeNotPositive
      proceedsIf preOrder.planId.isSome
      pure fee

/-- What the gate asks of the contract of an order. -/
def assertActivatable (order : Order) (contract : Contract) : Except Refusal Unit := do
  Fallible.refuseIf (contract.status ≠ .pending) (.contractStatus contract.status)
  Fallible.refuseIf (order.clientId ≠ some contract.clientId ∨
    order.planId ≠ some contract.planId) .partiesDiffer
  Fallible.refuseIf contract.testWindowCleanupPending .windowCleanupPending
  Fallible.refuseIf contract.testWindowExpiresAt.isSome .windowOpen

/-- What the gate asks of the installation visit. -/
def assertVisit (visit : WorkOrder) : Except Refusal Unit := do
  Fallible.refuseIf (visit.status ≠ .completed) .workOrderNotCompleted
  Fallible.refuseIf (visit.hasAcceptanceEvidence = false) .acceptanceMissing

def activationLocale (locking : Bool) (via : Via) (organizationId : Option Nat) : Body Locale :=
  match organizationId with
  | none => pure .global
  | some id => do
      let found ← statement via (.select locking (.organization id))
      pure (found.elim .global Organization.locale)

def allSigned (templates : List Registered) (documents : List Document) : Bool :=
  templates.all fun row => decide (row.template.id ∈ documents.map Document.templateNumber)

def provesSource (source : Option Snapshot) (document : Document) : Bool :=
  signatureEvidenceIsValid H document &&
    source.any fun source => snapshotMatchesRegisteredSource document source

def assertContractsSigned (order : Order) (contractId : Nat) (contract : Contract)
    (activationOrgId : Nat) : Body Unit := do
  let requiredTemplates ← statement .conn
    (.select true (.templates activationOrgId contract.mxContractEnvironment))
  refuseIf (requiredTemplates = []) .templatesMissing
  let registeredSource ← checked (assertOneRegisteredSource H requiredTemplates activationOrgId
    contract.mxContractEnvironment)
  refuseIf (registeredSource.map Snapshot.contractTemplateMxId ≠
    some (contract.contractTemplateMxId.getD 0)) .notLinkedToTemplate
  refuseIf (registeredSource.map Snapshot.contractEnvironment ≠ contract.mxContractEnvironment)
    .environmentDiffers
  let signedDocuments ← statement .conn
    (.select true (.signed order.id activationOrgId order.clientId contractId))
  refuseIf (allSigned requiredTemplates (signedDocuments.filter (provesSource H registeredSource))
    = false) .signatureMissing

/-- The acknowledgment of the service is signed. -/
def assertAcknowledged (order : Order) (contractId : Nat) (activationOrgId : Option Nat) :
    Body Unit := do
  let acknowledgment ← statement .conn
    (.select true (.acknowledgment order.id activationOrgId order.clientId contractId))
  refuseIf (acknowledgment.any (signatureEvidenceIsValid H) = false) .acknowledgmentMissing

/-- What the client has to sign is signed. -/
def assertSigned (order : Order) (contractId : Nat) (contract : Contract) (locale : Locale)
    (activationOrgId : Option Nat) : Body Unit :=
  match locale, activationOrgId with
  | .mx, some activationOrgId => assertContractsSigned H order contractId contract activationOrgId
  | _, _ => assertAcknowledged H order contractId activationOrgId

def Contract.incompleteSnapshot (contract : Contract) : Bool :=
  decide (contract.contractTemplateMxId = none ∨ contract.contractEnvironment = none)

/-- A sandbox contract against the organization it belongs to. -/
def assertResumable (contract : Contract) (organization : Locale × Environment) :
    Except Refusal Unit := do
  Fallible.refuseIf (organization.1 = .mx ∧ contract.incompleteSnapshot = true)
    .snapshotIncomplete
  Fallible.refuseIf (contract.contractEnvironment = some .sandbox ∧ organization.1 = .mx ∧
    organization.2 = .production) .sandboxInProduction

/-- Tenant of the contract, or else of its client. -/
def owningOrganization (contract : Contract) : Body (Option Nat) :=
  match contract.organizationId with
  | some orgId => pure (some orgId)
  | none => statement .conn (.select false (.clientOrganization contract.clientId))

def assertOwnedResumable (contract : Contract) : Option Nat → Body Unit
  | none => refuseIf (contract.contractEnvironment = some .sandbox) .sandboxWithoutOrganization
  | some orgId => do
      let found ← statement .conn (.select true (.environment orgId))
      let organization ← orThrow found .organizationNotFound
      checked (assertResumable contract organization)

/-- `assertSandboxContractCanResume`, with the locale of the organization that activates. -/
def assertSandboxContractCanResume (contract : Contract) (organizationLocale : Locale) :
    Body Unit :=
  if contract.contractEnvironment = some .production ∧ contract.contractTemplateMxId.isSome then
    pure ()
  else if contract.incompleteSnapshot then
    refuseIf (organizationLocale = .mx) .snapshotIncomplete
  else do
    let orgId ← owningOrganization contract
    assertOwnedResumable contract orgId

/-- `organization_id = ? OR organization_id IS NULL`, left out without an organization. -/
def Scope.ofOrNone : Option Nat → Scope
  | none => .all
  | some id => .ownOrNone id

/-- The contract with its accounts may be enabled; it is active here. -/
def assertEligible (contract : Contract) (accounts : List Radius) : Except Refusal Unit := do
  Fallible.refuseIf (accounts.length ≠ 1) .severalAccounts
  Fallible.refuseIf (contract.deleted = true ∨ contract.status ≠ .active ∨
    contract.connectionType.isPppoe = false ∨
    (accounts.all fun row => decide (row.status = .active)) = false) .notEligible

/-- `syncFreeradiusContract` with its accounts enabled. -/
def enableAccounts (contractId : Nat) (organizationId : Option Nat) : Body Unit := do
  let found ← statement .conn
    (.select false (.accounts contractId (Scope.ofOrNone organizationId)))
  match found with
  | none => pure ()
  | some (contract, accounts) =>
    if accounts = [] then pure ()
    else do
      proceeds
      checked (assertEligible contract accounts)
      proceeds

/-- The `UPDATE` that activates the contract. -/
def activated : Option Bool → Except Refusal Unit
  | none => .error .signalled
  | some false => .error .modifiedConcurrently
  | some true => .ok ()

/-- The contract of the order goes live. -/
def goLive (contractId : Nat) (activationOrgId : Option Nat) : Body Unit := do
  let activation ← statement .conn (.activateContract contractId)
  checked (activated activation)
  statement .conn (.setRadius contractId .active)
  enableAccounts contractId activationOrgId

def activationGate (order : Order) (options : CompleteOptions) : Body Unit := do
  refuseIf (options.canActivateContract = false) .forbidden
  let contractId ← orThrow order.contractId .contractNotLinked
  let found ← statement .conn (.select true (.contract contractId (Scope.of options.orgId) true))
  let contract ← orThrow found .contractNotFound
  checked (assertActivatable order contract)
  let visits ← statement .conn (.select true (.installation order.id contractId .all true))
  let visit ← orThrow visits .workOrderMissing
  checked (assertVisit visit)
  let tested ← statement .conn (.select false (.speedTest contractId visit.id order.startedAt))
  refuseIf (tested = false) .speedTestMissing
  let activationOrgId := order.organizationId.or (options.orgId.or contract.organizationId)
  let locale ← activationLocale true .conn activationOrgId
  assertSigned H order contractId contract locale activationOrgId
  assertSandboxContractCanResume contract locale
  goLive contractId activationOrgId

/-- `createOneOffInvoice` on the connection of the order. -/
def createOneOffInvoice (order : Order) (options : CompleteOptions) (fee : Int) : Body Unit :=
  match options.billing with
  | .alreadyPaid => pure ()
  | .createInvoice => do
      let composed ← asked (.composes order.clientId fee)
      let total ← orThrow composed .invoiceNotCreated
      let _ ← statement .conn (.insertInvoice {
        id := 0
        organizationId := options.orgId
        clientId := order.clientId
        contractId := order.contractId
        total })
      proceeds

def activationIf (order : Order) (options : CompleteOptions) : Body Unit :=
  if order.orderType = .newInstall then activationGate H order options else pure ()

/-- The transaction of `completeOrder`. -/
def completeLocked (orderId : Nat) (options : CompleteOptions) (fee : Int) : Body Unit := do
  let found ← statement .conn (.select true (.order orderId (Scope.of options.orgId) false))
  let order ← orThrow found .orderNotFound
  refuseIf (order.status ≠ .inProcess) (.transition order.status)
  activationIf H order options
  createOneOffInvoice order options fee
  let completed ← statement .conn (.completeRow orderId)
  refuseIf (!completed) .modifiedConcurrently

def completeOrder (orderId : Nat) (options : CompleteOptions) : Body (Option Order) := do
  let found ← statement .pool (.select false (.order orderId (Scope.of options.orgId) true))
  let preOrder ← orThrow found .orderNotFound
  refuseIf (preOrder.status ≠ .inProcess) (.transition preOrder.status)
  let fee ← assertInvoice options preOrder
  let result ← inTransaction (completeLocked H orderId options fee) (reloadOrder orderId)
  let _ ← asked .otherwise
  pure result.2

/-- Options of `cancelOrder`. -/
structure CancelOptions where
  orgId : Option Nat
  canCancelContract : Bool

/-- The network of a pending contract needs a cleanup outside the database. -/
def needsExternalCleanup (contract : Contract) : Body Bool :=
  if contract.testWindowExpiresAt.isSome ∨ contract.testWindowCleanupPending = true ∨
      contract.connectionType.isPppoe = true then do
    let required ← asked (.requiresCleanup contract.id)
    orThrow required .raised
  else pure false

def cancelPending (contractId : Nat) (contract : Contract) : Body Unit := do
  proceeds
  let cleanupMarked ← needsExternalCleanup contract
  let _ ← statement .conn (.cancelContract contractId false cleanupMarked)
  statement .conn (.setRadius contractId .inactive)
  proceeds

def cancelLinked (order : Order) (options : CancelOptions) : Body Bool :=
  match order.contractId with
  | none => pure false
  | some contractId => do
      let found ← statement .conn
        (.select true (.contract contractId (Scope.ofOrNone options.orgId) false))
      match found.filter fun contract => contract.status = .pending with
      | none => pure false
      | some contract => do
          cancelPending contractId contract
          pure true

/-- The transaction of `cancelOrder`: whether it cancelled the contract. -/
def cancelLocked (orderId : Nat) (options : CancelOptions) : Body Bool := do
  let found ← statement .conn (.select true (.order orderId (Scope.of options.orgId) false))
  let order ← orThrow found .orderNotFound
  refuseIf (order.orderType = .newInstall ∧ options.canCancelContract = false) .forbidden
  refuseIf (order.status.isOpen = false) (.transition order.status)
  let contractCancelled ← cancelLinked order options
  let cancelled ← statement .conn (.cancelRow orderId)
  refuseIf (!cancelled) .modifiedConcurrently
  statement .conn (.cancelDocuments orderId (order.organizationId.or options.orgId))
  statement .conn (.cancelVisits orderId)
  pure contractCancelled

/-- `cancelOrder`: the order, and whether its contract was cancelled. -/
def cancelOrder (orderId : Nat) (options : CancelOptions) : Body (Bool × Option Order) := do
  let result ← inTransaction (cancelLocked orderId options) (reloadOrder orderId)
  let _ ← asked .otherwise
  pure result

end FireIsp.Lifecycle
