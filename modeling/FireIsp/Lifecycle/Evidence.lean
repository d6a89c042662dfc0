import FireIsp.Base.Fallible
import FireIsp.Base.Text
import FireIsp.Lifecycle.Schema

/-!
# Evidence of an installation

What `mxRegisteredContractTemplateService` and `legalDocumentService` check of the templates and of
the documents a client has signed.  The hash function and the text of the evidence that is hashed
are parameters.
-/

namespace FireIsp.Lifecycle

open Fallible

/-- What a call throws. -/
inductive Refusal
  | raised
  | orderNotFound
  | contractNotFound
  | organizationNotFound
  | clientNotFound
  | transition (status : OrderStatus)
  | noPlan
  | noClientOrLead
  | noClient
  | forbidden
  | feeNotPositive
  | planArchived
  | leadNotConverted
  | organizationNotMx
  | environmentNotFrozen
  | templatesMissing
  | notLinkedToTemplate
  | modifiedConcurrently
  | documentsNotGenerated
  | invoiceNotCreated
  | contractNotLinked
  | contractStatus (status : ContractStatus)
  | partiesDiffer
  | windowCleanupPending
  | windowOpen
  | workOrderMissing
  | workOrderNotCompleted
  | acceptanceMissing
  | speedTestMissing
  | environmentDiffers
  | signatureMissing
  | acknowledgmentMissing
  | snapshotIncomplete
  | sandboxWithoutOrganization
  | sandboxInProduction
  | signalled
  | severalAccounts
  | notEligible
  | organizationRequired
  | assigneeNotAuthorized
  | orderChanged
  | templateNotLinked
  | otherOrganization
  | otherEnvironment
  | sourceNotReady
  | sourceArchived
  | registrationMissing
  | registrationForbidden
  | sourceTextMissing
  | sourceVersionMissing
  | textDiffers
  | sourceEvidenceMissing
  | severalSources

structure Registered where
  template : Template
  source : Option Source

/-- What `registrationSnapshot` keeps of a source. -/
structure Snapshot where
  contractTemplateMxId : Nat
  contractEnvironment : Environment
  registrationNumber : Option String
  registeredAt : Option Nat
  version : String
  sourceSha256 : String

/-- `READY_STATUS_BY_ENVIRONMENT`. -/
def readyStatus : Environment → SourceStatus
  | .sandbox => .sandboxReady
  | .production => .registered

/-- A string that is not empty: `value || null`. -/
def orNull (value : Option String) : Option String := value.filter fun text => text ≠ ""

/-- Evidence as it is hashed. -/
structure Envelope where
  version : Nat
  documentId : Nat
  organizationId : Option Nat
  clientId : Option Nat
  contractId : Option Nat
  serviceOrderId : Option Nat
  workOrderId : Option Nat
  templateType : TemplateType
  title : Option String
  documentContentSha256 : String
  renderedBodySha256 : String
  contractTemplateMxId : Option Nat
  mxRegistrationNumber : Option String
  mxRegisteredAt : Option Nat
  mxTemplateVersion : Option String
  mxSourceSha256 : Option String
  signerName : String
  signatureImageSha256 : String
  signedAt : Option Nat
  signedIp : Option String
  capturedBy : Option Nat
  communicationChoices : Option CommunicationChoices
  /-- Environment of the source, from version 3 on. -/
  mxContractEnvironment : Option (Option Environment)

/-- `crypto` and `JSON.stringify`. -/
structure Hashing where
  sha256 : String → String
  stringify : Envelope → String

/-- `contractEnvironment` of a contract. -/
def Contract.contractEnvironment (contract : Contract) : Option Environment :=
  contract.mxContractEnvironment.or
    (if contract.status = .expired then some .production else none)

/-- `contractEnvironment` of a document. -/
def Document.contractEnvironment (document : Document) : Option Environment :=
  document.mxContractEnvironment.or
    (if (orNull document.mxRegistrationNumber).isSome ∨ document.mxRegisteredAt.isSome then
      some .production else none)

variable (H : Hashing)

def registrationSnapshot (contractTemplateMxId : Nat) (source : Source) : Snapshot where
  contractTemplateMxId
  contractEnvironment := source.environment
  registrationNumber :=
    if source.environment = .production then source.iftRegistrationNumber else none
  registeredAt := if source.environment = .production then source.registeredAt else none
  version := source.version
  sourceSha256 := H.sha256 (source.templateBody.getD "null")

/-- The official registration a source needs in production and must not have in the sandbox. -/
def assertRegistration (source : Source) : Except Refusal Unit :=
  match source.environment with
  | .production => refuseIf (Text.isBlank (source.iftRegistrationNumber.getD "") ∨
      source.registeredAt = none) .registrationMissing
  | .sandbox => refuseIf (Text.isBlank (source.iftRegistrationNumber.getD "") = false ∨
      source.registeredAt.isSome) .registrationForbidden

def assertReadyRecord (contractTemplateMxId orgId : Nat) (bodyMd : String)
    (expectedEnvironment : Option Environment) (source : Source) : Except Refusal Snapshot := do
  refuseIf (source.organizationId ≠ orgId) .otherOrganization
  refuseIf (expectedEnvironment.any fun expected => source.environment ≠ expected)
    .otherEnvironment
  refuseIf (source.status ≠ readyStatus source.environment) .sourceNotReady
  refuseIf source.deleted .sourceArchived
  assertRegistration source
  refuseIf (Text.isBlank (source.templateBody.getD "")) .sourceTextMissing
  refuseIf (Text.isBlank source.version) .sourceVersionMissing
  refuseIf (source.templateBody ≠ some bodyMd) .textDiffers
  pure (registrationSnapshot H contractTemplateMxId source)

/-- `assertActiveActivationTemplate`; a linked source is there. -/
def assertActiveActivationTemplate (orgId : Nat) (expectedEnvironment : Option Environment)
    (row : Registered) : Except Refusal (Option Snapshot) :=
  if row.template.templateType ≠ .activationContract ∨ row.template.isActive = false then
    .ok none
  else
    match row.template.contractTemplateMxId, row.source with
    | some contractTemplateMxId, some source =>
      (assertReadyRecord H contractTemplateMxId orgId row.template.bodyMd expectedEnvironment
        source).map some
    | _, _ => .error .templateNotLinked

def assertOneRegisteredSource (activeRows : List Registered) (orgId : Nat)
    (expectedEnvironment : Option Environment) : Except Refusal (Option Snapshot) := do
  let snapshots ← activeRows.mapM (assertActiveActivationTemplate H orgId expectedEnvironment)
  let ids := ((snapshots.filterMap id).map Snapshot.contractTemplateMxId).dedup
  refuseIf (activeRows ≠ [] ∧ ids = []) .sourceEvidenceMissing
  refuseIf (1 < ids.length) .severalSources
  pure (snapshots.filterMap id).head?

def snapshotMatchesRegisteredSource (row : Document) (snapshot : Snapshot) : Bool :=
  decide (row.contractTemplateMxId.getD 0 = snapshot.contractTemplateMxId ∧
    row.contractEnvironment = some snapshot.contractEnvironment ∧
    row.mxRegistrationNumber.getD "" = snapshot.registrationNumber.getD "" ∧
    row.mxRegisteredAt = snapshot.registeredAt ∧
    row.mxTemplateVersion.getD "" = snapshot.version ∧
    row.mxSourceSha256 = some snapshot.sourceSha256)

def envelope (document : Document) : Envelope where
  version := if 3 ≤ document.evidenceFormatVersion then 3 else 2
  documentId := document.id
  organizationId := document.organizationId
  clientId := document.clientId
  contractId := document.contractId
  serviceOrderId := document.serviceOrderId
  workOrderId := document.workOrderId
  templateType := document.templateType
  title := orNull (some document.title)
  documentContentSha256 := document.contentSha256
  renderedBodySha256 := H.sha256 document.renderedBody
  contractTemplateMxId := document.contractTemplateMxId
  mxRegistrationNumber := orNull document.mxRegistrationNumber
  mxRegisteredAt := document.mxRegisteredAt
  mxTemplateVersion := orNull document.mxTemplateVersion
  mxSourceSha256 := orNull document.mxSourceSha256
  signerName := Text.trim (document.signerName.getD "")
  signatureImageSha256 := H.sha256 (document.signatureImage.getD "")
  signedAt := document.signedAt
  signedIp := orNull document.signedIp
  capturedBy := document.capturedBy
  communicationChoices := document.communicationChoices
  mxContractEnvironment :=
    if 3 ≤ document.evidenceFormatVersion then some document.mxContractEnvironment else none

def evidenceDigest (document : Document) : String := H.sha256 (H.stringify (envelope H document))

/-- `verifyEvidence`: `none` without evidence. -/
def verifyEvidence (document : Document) : Option Bool :=
  match orNull document.evidenceSha256, orNull document.signatureImage with
  | some evidence, some _ =>
    if H.sha256 document.renderedBody ≠ document.contentSha256 then some false
    else some (decide (evidenceDigest H document = evidence))
  | _, _ => none

def signatureEvidenceIsValid (document : Document) : Bool :=
  if document.templateType = globalAcknowledgmentType ∨
      (document.templateType = .activationContract ∧ document.contractTemplateMxId.isSome) then
    decide (verifyEvidence H document = some true)
  else decide (verifyEvidence H document ≠ some false)

def WorkOrder.hasAcceptanceEvidence (row : WorkOrder) : Bool :=
  row.acceptanceSignalDbm.isSome || row.acceptanceLinkMbps.isSome || row.acceptanceRxDbm.isSome ||
    row.acceptanceWaived

/-- `Number(template_id)`. -/
def Document.templateNumber (document : Document) : Nat := document.templateId.getD 0

end FireIsp.Lifecycle
