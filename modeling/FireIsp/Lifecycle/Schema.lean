import Mathlib.Data.List.Dedup
import FireIsp.Base.History
import FireIsp.Base.Table

/-!
# Tables of the customer lifecycle

Service orders with their contracts, the field work, speed tests and signed documents that are the
evidence of an installation, and the templates and sources these documents are generated from.
Dates and times are counted, and `deleted` says that `deleted_at` is set.
-/

namespace FireIsp.Lifecycle

/-- `service_orders.status`. -/
inductive OrderStatus
  | new
  | inProcess
  | done
  | cancelled
  deriving DecidableEq

inductive OrderType
  | newInstall
  | upgrade
  | downgrade
  | relocation
  | reconnect
  deriving DecidableEq

/-- Row of `service_orders`. -/
structure Order where
  id : Nat
  organizationId : Option Nat
  clientId : Option Nat
  leadId : Option Nat
  planId : Option Nat
  contractId : Option Nat
  orderType : OrderType
  status : OrderStatus
  assignedTo : Option Nat
  startedAt : Option Nat
  deleted : Bool

/-- `contracts.status`. -/
inductive ContractStatus
  | pending
  | active
  | suspended
  | expired
  | cancelled
  | terminated
  deriving DecidableEq

inductive ConnectionType
  | pppoe
  | pppoeDual
  | static
  | dual
  deriving DecidableEq

/-- `['pppoe', 'pppoe_dual'].includes(connection_type)`. -/
def ConnectionType.isPppoe : ConnectionType → Bool
  | .pppoe => true
  | .pppoeDual => true
  | _ => false

/-- `CONTRACT_ENVIRONMENTS`. -/
inductive Environment
  | sandbox
  | production
  deriving DecidableEq

/-- Row of `contracts`. -/
structure Contract where
  id : Nat
  organizationId : Option Nat
  clientId : Nat
  planId : Nat
  connectionType : ConnectionType
  contractTemplateMxId : Option Nat
  mxContractEnvironment : Option Environment
  status : ContractStatus
  testWindowExpiresAt : Option Nat
  testWindowCleanupPending : Bool
  deleted : Bool

/-- Row of `clients`. -/
structure Client where
  id : Nat
  organizationId : Option Nat
  deleted : Bool

inductive Locale
  | global
  | mx
  deriving DecidableEq

/-- Row of `organizations` with the environment of its live `organization_mx_profiles` row. -/
structure Organization where
  id : Nat
  locale : Locale
  profileEnvironment : Option Environment

/-- `contract_templates_mx.status`. -/
inductive SourceStatus
  | draft
  | submitted
  | sandboxReady
  | registered
  | expired
  | revoked
  deriving DecidableEq

/-- Row of `contract_templates_mx`. -/
structure Source where
  id : Nat
  organizationId : Nat
  environment : Environment
  iftRegistrationNumber : Option String
  registeredAt : Option Nat
  version : String
  templateBody : Option String
  status : SourceStatus
  deleted : Bool

/-- `template_type` of templates and documents. -/
inductive TemplateType
  | installationAuthorization
  | activationContract
  | serviceAcknowledgment
  | equipmentComodato
  | custom
  deriving DecidableEq

def globalAcknowledgmentType : TemplateType := .serviceAcknowledgment

def globalAcknowledgmentTemplateId : Nat := 0

/-- Row of `document_templates`. -/
structure Template where
  id : Nat
  organizationId : Option Nat
  templateType : TemplateType
  bodyMd : String
  contractTemplateMxId : Option Nat
  isActive : Bool
  deleted : Bool

/-- `signed_documents.status`. -/
inductive DocumentStatus
  | pending
  | signed
  | declined
  | cancelled
  deriving DecidableEq

/-- `signed_documents.communication_choices`, parsed and normalised. -/
structure CommunicationChoices where
  email : Bool
  sms : Bool
  whatsapp : Bool
  confirmed : Bool
  privacyNoticeVersion : Option String
  privacyNoticeHash : Option String

/-- Row of `signed_documents`. -/
structure Document where
  id : Nat
  organizationId : Option Nat
  clientId : Option Nat
  contractId : Option Nat
  serviceOrderId : Option Nat
  workOrderId : Option Nat
  templateId : Option Nat
  templateType : TemplateType
  title : String
  renderedBody : String
  contentSha256 : String
  status : DocumentStatus
  signerName : Option String
  signatureImage : Option String
  signedAt : Option Nat
  signedIp : Option String
  capturedBy : Option Nat
  communicationChoices : Option CommunicationChoices
  evidenceSha256 : Option String
  evidenceFormatVersion : Nat
  contractTemplateMxId : Option Nat
  mxContractEnvironment : Option Environment
  mxRegistrationNumber : Option String
  mxRegisteredAt : Option Nat
  mxTemplateVersion : Option String
  mxSourceSha256 : Option String
  deleted : Bool

/-- `work_orders.status`. -/
inductive WorkOrderStatus
  | pending
  | assigned
  | inProgress
  | completed
  | cancelled
  deriving DecidableEq

inductive WorkType
  | installation
  | maintenance
  | repair
  | survey
  | pickup
  | other
  deriving DecidableEq

/-- Row of `work_orders`. -/
structure WorkOrder where
  id : Nat
  organizationId : Nat
  clientId : Option Nat
  contractId : Option Nat
  serviceOrderId : Option Nat
  assignedTo : Option Nat
  status : WorkOrderStatus
  workType : WorkType
  acceptanceSignalDbm : Option Int
  /-- Link rate measured at the handoff, in hundredths of Mbps. -/
  acceptanceLinkMbps : Option Int
  /-- Optical power measured at the handoff, in hundredths of dBm. -/
  acceptanceRxDbm : Option Int
  acceptanceWaived : Bool
  deleted : Bool

inductive TestSource
  | clientPortal
  | technician
  | automatedProbe
  | external
  deriving DecidableEq

/-- Row of `speed_tests`. -/
structure SpeedTest where
  id : Nat
  contractId : Option Nat
  workOrderId : Option Nat
  testSource : TestSource
  testedAt : Nat
  deleted : Bool

/-- `radius.status`. -/
inductive RadiusStatus
  | active
  | inactive
  | suspended
  deriving DecidableEq

/-- Row of `radius`. -/
structure Radius where
  id : Nat
  contractId : Option Nat
  status : RadiusStatus
  deleted : Bool

/-- Row of `invoices`. -/
structure Invoice where
  id : Nat
  organizationId : Option Nat
  clientId : Option Nat
  contractId : Option Nat
  total : Int

/-- Tables. -/
structure Db where
  orders : List Order
  contracts : List Contract
  clients : List Client
  organizations : List Organization
  sources : List Source
  templates : List Template
  documents : List Document
  workOrders : List WorkOrder
  speedTests : List SpeedTest
  radius : List Radius
  invoices : List Invoice

/-- Rows a query on `organization_id` takes. -/
inductive Scope
  | all
  | own (organizationId : Nat)
  /-- `organization_id = ? OR organization_id IS NULL`. -/
  | ownOrNone (organizationId : Nat)

/-- The row of a tenant is taken. -/
def Scope.takes (organizationId : Option Nat) : Scope → Bool
  | .all => true
  | .own id => decide (organizationId = some id)
  | .ownOrNone id => decide (organizationId = some id ∨ organizationId = none)

/-- The condition is left out without an organization. -/
def Scope.of : Option Nat → Scope
  | none => .all
  | some id => .own id

/-- `... ORDER BY id DESC LIMIT 1`. -/
def newestBy {ρ : Type} (id : ρ → Nat) (rows : List ρ) : Option ρ := Table.newest id id rows

end FireIsp.Lifecycle
