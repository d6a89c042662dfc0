import FireIsp.Base.Program
import FireIsp.Base.Table

/-!
# CGNAT attribution ledger

Tables of the attribution service and the records collectors send.  Instants are milliseconds
since 1970, addresses the number of the IPv4.
-/

namespace FireIsp.Cgnat

def maxClockUncertaintyMs : Int := 300000

def maxAbsoluteClockOffsetMs : Int := 86400000

/-- `2038-01-19T03:14:07Z`. -/
def maxTimestamp : Int := 2147483647000

inductive EventType
  | allocate
  | release
  deriving DecidableEq

inductive BindingType
  | singlePort
  | portBlock
  deriving DecidableEq

inductive SequenceStatus
  | initial
  | contiguous
  | reset
  | gap
  | outOfOrder
  deriving DecidableEq

/-- Identity of an exporter declaration within an organization. -/
structure ExporterKey where
  exporterId : String
  natInstanceId : String
  natPoolId : String
  natRealm : String
  deriving DecidableEq

/-- Key of `cgnat_public_tuple_locks`. -/
structure TupleKey where
  organizationId : Nat
  publicIpv4 : Nat
  protocol : Nat
  deriving DecidableEq

/-- Translated addresses and ports. -/
structure Translation where
  bindingType : BindingType
  privateIpv4 : Nat
  privatePortStart : Option Nat
  privatePortEnd : Option Nat
  publicIpv4 : Nat
  publicPortStart : Nat
  publicPortEnd : Nat
  protocol : Nat
  deriving DecidableEq

/-- A normalized binding record. -/
structure Binding where
  eventType : EventType
  bindingKey : String
  translation : Translation
  allocatedAt : Int
  releasedAt : Option Int
  clientId : Option Nat
  contractId : Option Nat
  username : Option String
  radiusSessionId : Option String
  sessionInstanceId : String
  exporterNasId : Option Nat
  exporterIp : Option Nat
  exporter : ExporterKey
  exporterBootId : String
  eventId : String
  sequenceNumber : Nat
  deviceRecordedAt : Int
  clockOffsetMs : Option Int
  clockUncertaintyMs : Option Nat
  recordsLostBefore : Option Nat
  deriving DecidableEq

/-- Clock uncertainty in force: the maximum when it was not reported. -/
def uncertainty (clockUncertaintyMs : Option Nat) : Int :=
  match clockUncertaintyMs with
  | none => maxClockUncertaintyMs
  | some ms => ms

def Binding.correctedDeviceAt (binding : Binding) : Int :=
  binding.deviceRecordedAt - binding.clockOffsetMs.getD 0

def Binding.coverageHorizonAt (binding : Binding) : Int :=
  binding.correctedDeviceAt - uncertainty binding.clockUncertaintyMs

def Binding.metadataComplete (binding : Binding) : Bool :=
  binding.clockOffsetMs.isSome && binding.clockUncertaintyMs.isSome &&
    binding.recordsLostBefore.isSome

/-- Tuple the allocation is searched by. -/
def Binding.tuple (binding : Binding) (organizationId : Nat) : TupleKey :=
  ⟨organizationId, binding.translation.publicIpv4, binding.translation.protocol⟩

/-- Row of `cgnat_exporter_configs`. -/
structure ExporterConfig where
  id : Nat
  organizationId : Nat
  exporter : ExporterKey
  exporterNasId : Option Nat
  exporterIp : Option Nat
  collectorApiTokenId : Nat
  recoveryCollectorApiTokenId : Option Nat
  /-- `recovery_approved_at` and `recovery_reference` are set. -/
  recoveryApproved : Bool
  publicIpv4Start : Nat
  publicIpv4End : Nat
  purposeReference : Bool
  tupleExclusivityConfirmed : Bool
  authoritativeBaselineConfirmed : Bool
  baselineReference : Bool
  baselineConfirmedAt : Option Int
  collectionApprovedAt : Option Int
  enabled : Bool
  retiredAt : Option Int
  bindingReceived : Bool
  lastCorrectedDeviceAt : Option Int
  coverageHorizonAt : Option Int
  lastExporterBootId : Option String
  lastSequenceNumber : Nat
  sequenceGapEvents : Nat
  sequenceMissingRecords : Nat
  outOfOrderEvents : Nat
  reportedLostRecords : Nat
  /-- Events without their clock or loss metadata. -/
  incompleteMetadataEvents : Nat

/-- What `resolveSession` pins of the access session. -/
structure SessionPin where
  connectionLogId : Nat
  clientId : Nat
  contractId : Nat
  username : String
  radiusSessionId : String
  sessionInstanceId : String
  radiusEvidenceId : Nat
  radiusEvidenceEventAt : Int
  radiusEvidenceObservedAt : Int
  radiusEvidenceIntegrityHash : String

/-- What an allocation or a release records of its event. -/
structure EventMark where
  eventId : String
  sequenceNumber : Nat
  sequenceStatus : SequenceStatus
  clockUncertaintyMs : Option Nat
  recordsLostBefore : Option Nat

/-- Row of `cgnat_attribution_bindings`. -/
structure BindingRow where
  id : Nat
  organizationId : Nat
  exporterConfigId : Nat
  session : SessionPin
  bindingKey : String
  translation : Translation
  allocatedAt : Int
  releasedAt : Option Int
  exporter : ExporterKey
  exporterBootId : String
  allocation : EventMark
  release : Option EventMark
  metadataComplete : Bool

def BindingRow.tuple (row : BindingRow) : TupleKey :=
  ⟨row.organizationId, row.translation.publicIpv4, row.translation.protocol⟩

/-- Row of `cgnat_binding_events`. -/
structure EventRow where
  id : Nat
  organizationId : Nat
  bindingId : Nat
  exporterConfigId : Nat
  collectorApiTokenId : Nat
  eventType : EventType
  exporterBootId : String
  eventId : String
  sequenceNumber : Nat
  sequenceStatus : SequenceStatus
  payloadHash : String

/-- Row of `connection_logs`. -/
structure AccessSession where
  id : Nat
  organizationId : Nat
  evidenceComplete : Bool
  /-- `COALESCE(framed_ip, ip_address)`. -/
  address : Option Nat
  stopped : Bool
  eventAt : Int
  sessionDuration : Option Nat
  lastAccountingAt : Option Int
  lastAccountingReceivedAt : Option Int
  clientId : Option Nat
  contractId : Option Nat
  username : Option String
  /-- `COALESCE(acct_session_id, session_id)`. -/
  radiusSessionId : Option String
  sessionInstanceId : Option String

/-- Row of `radius_accounting_events`. -/
structure AccountingEvent where
  id : Nat
  organizationId : Nat
  sessionInstanceId : String
  stop : Bool
  framedIp : Option Nat
  eventAt : Int
  observedAt : Int
  integrityHash : Option String

/-- Row of `collector_ingest_receipts`. -/
structure Receipt where
  organizationId : Nat
  apiTokenId : Nat
  received : Nat
  inserted : Nat
  replayed : Nat

/-- The tables. -/
structure Db where
  configs : List ExporterConfig
  tupleLocks : List TupleKey
  bindings : List BindingRow
  events : List EventRow
  sessions : List AccessSession
  evidence : List AccountingEvent
  receipts : List Receipt

/-- Row versions. -/
inductive Write
  | config (row : ExporterConfig)
  | tupleLock (key : TupleKey)
  | binding (row : BindingRow)
  | event (row : EventRow)
  | receipt (row : Receipt)

/-- Store a row version. -/
def Db.apply (db : Db) : Write → Db
  | .config row => { db with configs := Table.put ExporterConfig.id row db.configs }
  | .tupleLock key => { db with tupleLocks := Table.put id key db.tupleLocks }
  | .binding row => { db with bindings := Table.put BindingRow.id row db.bindings }
  | .event row => { db with events := Table.put EventRow.id row db.events }
  | .receipt row => { db with receipts := db.receipts ++ [row] }

end FireIsp.Cgnat
