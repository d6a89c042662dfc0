import FireIsp.Base.Fallible
import FireIsp.Base.Text
import FireIsp.Cgnat.Statements

/-!
# Ingesting binding batches

`ingestBatch`: the records are normalized, then each is checked against its exporter
declaration, recognized as a replay or applied, all in one transaction.
-/

namespace FireIsp.Cgnat

open Txn Fallible

/-- Class of an error. -/
inductive ErrorKind
  | validation
  | forbidden
  | conflict
  | database

/-- A thrown error. -/
structure Refusal where
  kind : ErrorKind
  message : String
  field : Option String

/-- `ValidationError` with one field. -/
def invalid (message field : String) : Refusal := ⟨.validation, message, some field⟩

/-- `ConflictError`. -/
def conflict (message : String) : Refusal := ⟨.conflict, message, none⟩

/-- `ForbiddenError`. -/
def forbidden (message : String) : Refusal := ⟨.forbidden, message, none⟩

/-- Settings read from the environment. -/
structure Settings where
  /-- `CGNAT_ATTRIBUTION_MAX_BATCH`, between 1 and 1000. -/
  maxBatch : Nat
  /-- `CGNAT_ATTRIBUTION_MAX_CLOCK_SKEW_SECONDS`, at most 3600. -/
  maxSkewSeconds : Nat

section Normalize

/-- A binding record as it is sent, with instants already parsed. -/
structure Record where
  eventType : String
  bindingKey : String
  bindingType : String
  privateIpv4 : Nat
  privatePortStart : Option Nat
  privatePortEnd : Option Nat
  publicIpv4 : Nat
  publicPortStart : Option Nat
  publicPortEnd : Option Nat
  protocol : String
  allocatedAt : Int
  releasedAt : Option Int
  clientId : Option Nat
  contractId : Option Nat
  username : Option String
  radiusSessionId : Option String
  sessionInstanceId : String
  exporterNasId : Option Nat
  exporterId : String
  exporterIp : Option Nat
  exporterBootId : String
  natInstanceId : String
  natPoolId : String
  natRealm : String
  eventId : String
  sequenceNumber : Nat
  deviceRecordedAt : Int
  clockOffsetMs : Option Int
  clockUncertaintyMs : Option Nat
  recordsLostBefore : Option Nat

def port (value : Option Nat) (field : String) (nullable : Bool) : Except Refusal (Option Nat) :=
  match value with
  | none => if nullable then pure none else throw (invalid (field ++ " is required") field)
  | some p => if 1 ≤ p ∧ p ≤ 65535 then pure (some p) else throw (invalid ("Invalid " ++ field) field)

/-- `port` of a field that is not nullable. -/
def requiredPort (value : Option Nat) (field : String) : Except Refusal Nat :=
  match value with
  | none => throw (invalid (field ++ " is required") field)
  | some p => if 1 ≤ p ∧ p ≤ 65535 then pure p else throw (invalid ("Invalid " ++ field) field)

def requiredAsciiString (value field : String) (maximum : Nat) : Except Refusal String :=
  if Text.isBlank value ∨ maximum < Text.units value then
    throw (invalid ("Invalid " ++ field) field)
  else if (Text.trimmed value).all fun c => decide (32 ≤ c.toNat ∧ c.toNat ≤ 126) then
    pure (Text.trim value)
  else throw (invalid ("Invalid " ++ field) field)

/-- `requiredSessionInstanceId`, but for the shape of the UUID. -/
def requiredSessionInstanceId (value : String) : Except Refusal String := do
  let normalized ← requiredAsciiString value "session_instance_id" 36
  pure normalized.toLower

def optionalString (value : Option String) (field : String) (maximum : Nat) :
    Except Refusal (Option String) :=
  match value with
  | none => pure none
  | some text =>
    if text = "" then pure none
    else if maximum < Text.units text then throw (invalid ("Invalid " ++ field) field)
    else pure (some text)

/-- `positiveInteger` of a nullable id. -/
def optionalId (value : Option Nat) (field : String) : Except Refusal (Option Nat) :=
  if value = some 0 then throw (invalid ("Invalid " ++ field) field) else pure value

def isGloballyRoutableIpv4 (address : Nat) : Bool :=
  let a := address / 16777216
  let b := address / 65536 % 256
  let c := address / 256 % 256
  !(a == 0 || a == 10 || a == 127 || decide (224 ≤ a)) &&
    !(a == 100 && decide (64 ≤ b) && decide (b ≤ 127)) &&
    !(a == 169 && b == 254) &&
    !(a == 172 && decide (16 ≤ b) && decide (b ≤ 31)) &&
    !(a == 192 && b == 168) &&
    !(a == 192 && b == 0 && c == 0) &&
    !(a == 192 && b == 0 && c == 2) &&
    !(a == 192 && b == 88 && c == 99) &&
    !(a == 198 && (b == 18 || b == 19)) &&
    !(a == 198 && b == 51 && c == 100) &&
    !(a == 203 && b == 0 && c == 113)

def publicIpv4 (address : Nat) : Except Refusal Nat :=
  if isGloballyRoutableIpv4 address then pure address
  else throw (invalid "Invalid public_ipv4" "public_ipv4")

/-- `dateValue` of a parsed instant. -/
def dateValue (instant : Int) (field : String) : Except Refusal Int :=
  if 0 ≤ instant ∧ instant ≤ maxTimestamp then pure instant
  else throw (invalid ("Invalid " ++ field) field)

/-- `dateValue` of an instant that may be left out. -/
def optionalDate (instant : Option Int) (field : String) : Except Refusal (Option Int) :=
  match instant with
  | none => pure none
  | some instant => some <$> dateValue instant field

def normalizeProtocol (value : String) : Except Refusal Nat :=
  let normalized := (Text.trim value).toLower
  if normalized = "tcp" ∨ normalized = "6" then pure 6
  else if normalized = "udp" ∨ normalized = "17" then pure 17
  else throw (invalid "Invalid protocol" "protocol")

/-- `event_type` of a record. -/
def normalizeEventType (value : String) : Except Refusal EventType :=
  if Text.isBlank value ∨ 16 < Text.units value then
    throw (invalid "Invalid event_type" "event_type")
  else if Text.trim value = "allocate" then pure .allocate
  else if Text.trim value = "release" then pure .release
  else throw (invalid "Invalid event_type" "event_type")

/-- `binding_type` of a record. -/
def normalizeBindingType (value : String) : Except Refusal BindingType :=
  if Text.isBlank value ∨ 20 < Text.units value then
    throw (invalid "Invalid binding_type" "binding_type")
  else if Text.trim value = "single_port" then pure .singlePort
  else if Text.trim value = "port_block" then pure .portBlock
  else throw (invalid "Invalid binding_type" "binding_type")

def normalizePorts (record : Record) (bindingType : BindingType) :
    Except Refusal (Option Nat × Option Nat × Nat × Nat) := do
  let block := decide (bindingType = .portBlock)
  let privatePortStart ← port record.privatePortStart "private_port_start" block
  let privatePortEnd ← port record.privatePortEnd "private_port_end" block
  let publicPortStart ← requiredPort record.publicPortStart "public_port_start"
  let publicPortEnd ← requiredPort record.publicPortEnd "public_port_end"
  refuseIf (bindingType = .singlePort ∧
      (privatePortStart ≠ privatePortEnd ∨ publicPortStart ≠ publicPortEnd))
    (invalid "Invalid single-port binding" "public_port_end")
  refuseIf (bindingType = .portBlock ∧ (privatePortStart ≠ none ∨ privatePortEnd ≠ none))
    (invalid "Invalid port-block allocation" "private_port_start")
  refuseIf (bindingType = .portBlock ∧ publicPortEnd ≤ publicPortStart)
    (invalid "Invalid port-block allocation" "public_port_end")
  pure (privatePortStart, privatePortEnd, publicPortStart, publicPortEnd)

/-- The interval of a record, at instant `now`. -/
def normalizeInterval (settings : Settings) (now : Int) (record : Record) (eventType : EventType) :
    Except Refusal (Int × Option Int) := do
  let allocatedAt ← dateValue record.allocatedAt "allocated_at"
  let releasedAt ← optionalDate record.releasedAt "released_at"
  refuseIf (eventType = .allocate ∧ releasedAt ≠ none)
    (invalid "Invalid allocate event" "released_at")
  refuseIf (eventType = .release ∧ releasedAt = none)
    (invalid "Invalid release event" "released_at")
  refuseIf (releasedAt.any (· ≤ allocatedAt))
    (invalid "Invalid allocation interval" "released_at")
  refuseIf (now + 1000 * settings.maxSkewSeconds < allocatedAt ∨
      releasedAt.any (now + 1000 * settings.maxSkewSeconds < ·))
    (invalid "Allocation timestamp is in the future" "released_at")
  pure (allocatedAt, releasedAt)

/-- The clock evidence of a record, at instant `now`. -/
def checkClock (settings : Settings) (now : Int) (record : Record) (eventTime : Int) :
    Except Refusal Unit := do
  let deviceRecordedAt ← dateValue record.deviceRecordedAt "device_recorded_at"
  refuseIf (record.clockOffsetMs.any fun ms =>
      maxAbsoluteClockOffsetMs < ms ∨ ms < -maxAbsoluteClockOffsetMs)
    (invalid "Invalid clock_offset_ms" "clock_offset_ms")
  refuseIf (record.clockUncertaintyMs.any fun ms => maxClockUncertaintyMs < ms)
    (invalid "Invalid clock_uncertainty_ms" "clock_uncertainty_ms")
  let corrected := deviceRecordedAt - record.clockOffsetMs.getD 0
  refuseIf (now + 1000 * settings.maxSkewSeconds < corrected)
    (invalid "Corrected device timestamp is in the future" "device_recorded_at")
  refuseIf (record.clockOffsetMs.isSome ∧ record.clockUncertaintyMs.any fun ms =>
      (ms : Int) < corrected - eventTime ∨ (ms : Int) < eventTime - corrected)
    (invalid "Device clock evidence is internally inconsistent" "clock_offset_ms")

/-- `normalizeBinding`, at instant `now`. -/
def normalizeBinding (settings : Settings) (now : Int) (record : Record) :
    Except Refusal Binding := do
  let eventType ← normalizeEventType record.eventType
  let bindingType ← normalizeBindingType record.bindingType
  let ports ← normalizePorts record bindingType
  let interval ← normalizeInterval settings now record eventType
  checkClock settings now record
    (if eventType = .release then interval.2.getD interval.1 else interval.1)
  let bindingKey ← requiredAsciiString record.bindingKey "binding_key" 191
  let publicAddress ← publicIpv4 record.publicIpv4
  let protocol ← normalizeProtocol record.protocol
  let clientId ← optionalId record.clientId "client_id"
  let contractId ← optionalId record.contractId "contract_id"
  let username ← optionalString record.username "username" 64
  let radiusSessionId ← optionalString record.radiusSessionId "radius_session_id" 64
  let sessionInstanceId ← requiredSessionInstanceId record.sessionInstanceId
  let exporterNasId ← optionalId record.exporterNasId "exporter_nas_id"
  let exporterId ← requiredAsciiString record.exporterId "exporter_id" 191
  let exporterBootId ← requiredAsciiString record.exporterBootId "exporter_boot_id" 191
  let natInstanceId ← requiredAsciiString record.natInstanceId "nat_instance_id" 191
  let natPoolId ← requiredAsciiString record.natPoolId "nat_pool_id" 191
  let natRealm ← requiredAsciiString record.natRealm "nat_realm" 191
  let eventId ← requiredAsciiString record.eventId "event_id" 191
  pure {
    eventType, bindingKey, clientId, contractId, username, radiusSessionId, sessionInstanceId,
    exporterNasId, exporterBootId, eventId
    translation := ⟨bindingType, record.privateIpv4, ports.1, ports.2.1, publicAddress,
      ports.2.2.1, ports.2.2.2, protocol⟩
    allocatedAt := interval.1
    releasedAt := interval.2
    exporterIp := record.exporterIp
    exporter := ⟨exporterId, natInstanceId, natPoolId, natRealm⟩
    sequenceNumber := record.sequenceNumber
    deviceRecordedAt := record.deviceRecordedAt
    clockOffsetMs := record.clockOffsetMs
    clockUncertaintyMs := record.clockUncertaintyMs
    recordsLostBefore := record.recordsLostBefore }

/-- What normalization guarantees of the interval. -/
structure Binding.WellFormed (binding : Binding) : Prop where
  openAllocation : binding.eventType = .allocate → binding.releasedAt = none
  inRange : ∀ e ∈ binding.releasedAt, e ≤ maxTimestamp

theorem optionalDate_ok {instant : Option Int} {field : String} {value : Option Int}
    (h : optionalDate instant field = .ok value) : ∀ e ∈ value, e ≤ maxTimestamp := by
  unfold optionalDate dateValue at h
  cases instant with
  | none =>
    cases h
    exact nofun
  | some instant =>
    simp only [Functor.map, Except.map] at h
    split at h
    · nomatch h
    · rename_i hd
      split at hd
      · rename_i hr
        cases hd
        cases h
        rintro e ⟨⟩
        exact hr.2
      · nomatch hd

variable {settings : Settings} {now : Int} {record : Record}

theorem normalizeInterval_spec {eventType : EventType} {interval : Int × Option Int}
    (h : normalizeInterval settings now record eventType = .ok interval) :
    ((eventType = .allocate → interval.2 = none) ∧ ∀ e ∈ interval.2, e ≤ maxTimestamp) ∧
      (eventType = .release → interval.2 ≠ none) := by
  unfold normalizeInterval at h
  obtain ⟨allocatedAt, ha, h⟩ := ok_of_bind h
  obtain ⟨releasedAt, hr, h⟩ := ok_of_bind h
  obtain ⟨_, hallocate, h⟩ := ok_of_bind h
  obtain ⟨_, hend, h⟩ := ok_of_bind h
  obtain ⟨_, hpositive, h⟩ := ok_of_bind h
  obtain ⟨_, hfuture, h⟩ := ok_of_bind h
  cases h
  refine ⟨⟨fun he => ?_, optionalDate_ok hr⟩, fun hrelease hnone => ?_⟩
  · by_contra hne
    exact refuseIf_ok hallocate ⟨he, hne⟩
  · exact refuseIf_ok hend ⟨hrelease, hnone⟩

theorem normalizeBinding_spec {binding : Binding}
    (h : normalizeBinding settings now record = .ok binding) :
    binding.WellFormed ∧ (binding.eventType = .release → binding.releasedAt ≠ none) := by
  unfold normalizeBinding at h
  obtain ⟨eventType, -, h⟩ := ok_of_bind h
  obtain ⟨bindingType, -, h⟩ := ok_of_bind h
  obtain ⟨ports, -, h⟩ := ok_of_bind h
  obtain ⟨interval, hinterval, h⟩ := ok_of_bind h
  obtain ⟨_, -, h⟩ := ok_of_bind h
  iterate 15 obtain ⟨_, -, h⟩ := ok_of_bind h
  cases h
  obtain ⟨⟨hopen, hbounded⟩, hclosed⟩ := normalizeInterval_spec hinterval
  exact ⟨⟨hopen, hbounded⟩, hclosed⟩

end Normalize

/-- The request as a program; it makes no outside calls. -/
abbrev Request (A : Type) := Prog Stmt Stmt.Res Empty (fun _ => Empty) A

/-- A statement on the transaction's connection. -/
@[simp] def execute (op : Stmt) : Request op.Res := Prog.send .conn op

/-- The token may send the record to the declaration. -/
def checkToken (config : ExporterConfig) (binding : Binding) (token : Nat) : Except Refusal Unit :=
  if config.collectorApiTokenId ≠ token ∧ config.recoveryCollectorApiTokenId ≠ some token then
    throw (forbidden "Collector token is not bound to this CGNAT exporter configuration")
  else if config.recoveryCollectorApiTokenId = some token ∧
      (binding.eventType ≠ .release ∨ !config.recoveryApproved) then
    throw (forbidden "The incident-recovery collector may submit release events only")
  else pure ()

/-- The record lies within the approved purpose and baseline. -/
def checkBaseline (config : ExporterConfig) (binding : Binding) : Bool :=
  config.authoritativeBaselineConfirmed && config.baselineReference &&
    config.collectionApprovedAt.any (fun approvedAt =>
      (binding.eventType != .allocate || decide (approvedAt ≤ binding.certainAllocationStart)) &&
        decide (approvedAt ≤ binding.coverageHorizonAt)) &&
    config.baselineConfirmedAt.any fun baselineAt =>
      (binding.eventType != .allocate || decide (baselineAt ≤ binding.certainAllocationStart)) &&
        decide (baselineAt ≤ binding.coverageHorizonAt)

/-- Checks of `resolveExporterConfig`. -/
def checkExporterConfig (config : ExporterConfig) (binding : Binding) (token : Nat) :
    Except Refusal Unit := do
  checkToken config binding token
  refuseIf (binding.exporterNasId ≠ none ∧ config.exporterNasId ≠ binding.exporterNasId)
    (invalid "Exporter NAS mismatch" "exporter_nas_id")
  refuseIf (binding.exporterIp ≠ none ∧ binding.exporterIp ≠ config.exporterIp)
    (invalid "Exporter IP mismatch" "exporter_ip")
  refuseIf (!checkBaseline config binding) (invalid
    "CGNAT event predates the approved collection purpose or authoritative baseline"
    "allocated_at")
  refuseIf (binding.translation.publicIpv4 < config.publicIpv4Start ∨
      config.publicIpv4End < binding.translation.publicIpv4)
    (invalid "Public IPv4 is outside the configured NAT pool" "public_ipv4")

def sequenceState (config : ExporterConfig) (binding : Binding) (bootSeenBefore : Bool) :
    SequenceStatus × Nat × Bool :=
  match config.lastExporterBootId with
  | none =>
    if binding.sequenceNumber ≤ 1 then (.initial, 0, true)
    else (.gap, binding.sequenceNumber - 1, true)
  | some boot =>
    if boot ≠ binding.exporterBootId then
      if bootSeenBefore ∨ config.lastCorrectedDeviceAt.any (binding.correctedDeviceAt ≤ ·) then
        (.outOfOrder, 0, false)
      else (.gap, binding.sequenceNumber - 1, false)
    else if config.lastCorrectedDeviceAt.any (binding.correctedDeviceAt < ·) then
      (.outOfOrder, 0, false)
    else if binding.sequenceNumber = config.lastSequenceNumber + 1 then (.contiguous, 0, true)
    else if config.lastSequenceNumber + 1 < binding.sequenceNumber then
      (.gap, binding.sequenceNumber - config.lastSequenceNumber - 1, true)
    else (.outOfOrder, 0, false)

inductive Accepted
  | replayed
  | inserted (eventType : EventType) (status : SequenceStatus) (complete : Bool)
  deriving DecidableEq

def resolveSession (org : Nat) (binding : Binding) : Request (Except Refusal SessionPin) := do
  match ← execute (.selectSessions org binding) with
  | [session] =>
    match session.username, session.radiusSessionId, session.sessionInstanceId,
        session.clientId, session.contractId with
    | some username, some radiusSessionId, some instanceId, some clientId, some contractId =>
      match ← execute (.selectEvidence org instanceId binding.translation.privateIpv4
          binding.certainAllocationStart) with
      | some ⟨evidenceId, _, _, _, _, eventAt, observedAt, some hash⟩ =>
        pure (.ok ⟨session.id, clientId, contractId, username, radiusSessionId, instanceId,
          evidenceId, eventAt, observedAt, hash⟩)
      | _ => pure (.error (invalid "Access session lacks a matching RADIUS evidence anchor"
          "private_ipv4"))
    | _, _, _, _, _ => pure (.error (invalid "Access session identity is incomplete"
        "radius_session_id"))
  | _ => pure (.error (invalid
      "CGNAT binding cannot be attributed to exactly one access session" "session_instance_id"))

def assertExclusivePublicAllocation (org : Nat) (binding : Binding) :
    Request (Except Refusal Unit) := do
  execute (.insertTupleLock (binding.tuple org))
  execute (.selectTupleLock (binding.tuple org))
  match ← execute (.selectOverlaps org binding) with
  | [] => pure (.ok ())
  | _ => pure (.error (conflict ("Public CGNAT tuple overlaps an existing subscriber " ++
      "allocation on the nominal half-open interval")))

def Binding.mark (binding : Binding) (status : SequenceStatus) : EventMark :=
  ⟨binding.eventId, binding.sequenceNumber, status, binding.clockUncertaintyMs,
    binding.recordsLostBefore⟩

/-- The row an allocation inserts. -/
def Binding.row (org : Nat) (config : ExporterConfig) (binding : Binding) (session : SessionPin)
    (status : SequenceStatus) : BindingRow where
  id := 0
  organizationId := org
  exporterConfigId := config.id
  session := session
  bindingKey := binding.bindingKey
  translation := binding.translation
  allocatedAt := binding.allocatedAt
  releasedAt := none
  exporter := binding.exporter
  exporterBootId := binding.exporterBootId
  allocation := binding.mark status
  release := none
  metadataComplete := binding.metadataComplete

/-- An `allocate` event: id of the new binding. -/
def ingestAllocation (org : Nat) (config : ExporterConfig) (binding : Binding)
    (status : SequenceStatus) : Request (Except Refusal Nat) := do
  match ← execute (.selectBinding org config.id binding.bindingKey) with
  | _ :: _ => pure (.error (conflict
      "binding_key already identifies a different allocation event"))
  | [] =>
    match ← resolveSession org binding with
    | .error e => pure (.error e)
    | .ok session =>
      match ← assertExclusivePublicAllocation org binding with
      | .error e => pure (.error e)
      | .ok () =>
        match ← execute (.insertBinding (binding.row org config session status)) with
        | none => pure (.error ⟨.database, "Duplicate entry", none⟩)
        | some id => pure (.ok id)

/-- A hint of a release is absent or agrees with the projection. -/
def agrees {α : Type} [DecidableEq α] (hint : Option α) (column : α) : Bool :=
  hint.isNone || decide (hint = some column)

/-- The release repeats the tuple and the identity of its allocation. -/
def Binding.matchesProjection (binding : Binding) (projection : BindingRow) : Bool :=
  decide (projection.translation = binding.translation) &&
    decide (projection.exporter.natInstanceId = binding.exporter.natInstanceId ∧
      projection.exporter.natPoolId = binding.exporter.natPoolId ∧
      projection.exporter.natRealm = binding.exporter.natRealm) &&
    agrees binding.clientId projection.session.clientId &&
    agrees binding.contractId projection.session.contractId &&
    agrees binding.username projection.session.username &&
    agrees binding.radiusSessionId projection.session.radiusSessionId &&
    decide (projection.session.sessionInstanceId = binding.sessionInstanceId) &&
    decide (projection.allocatedAt = binding.allocatedAt)

/-- A `release` event at `releasedAt`: id of the binding. -/
def ingestRelease (org : Nat) (config : ExporterConfig) (binding : Binding) (releasedAt : Int)
    (status : SequenceStatus) : Request (Except Refusal Nat) := do
  match ← execute (.selectBinding org config.id binding.bindingKey) with
  | [projection] =>
    if projection.releasedAt ≠ none then
      pure (.error (conflict "CGNAT allocation is already released"))
    else if !binding.matchesProjection projection then
      pure (.error (conflict "Release event tuple does not match the stored allocation"))
    else if releasedAt ≤ projection.allocatedAt then
      pure (.error (invalid "Invalid release interval" "released_at"))
    else
      match ← execute (.selectReleaseCover org projection
          (releasedAt + uncertainty binding.clockUncertaintyMs)) with
      | [] => pure (.error (invalid "Release is not covered by the attributed access session"
          "released_at"))
      | _ :: _ =>
        match ← execute (.updateBinding projection.id org
            ⟨releasedAt, binding.mark status, binding.metadataComplete⟩) with
        | 1 => pure (.ok projection.id)
        | _ => pure (.error (conflict
            "CGNAT allocation changed before release was recorded"))
  | _ => pure (.error (invalid "Release event has no unique allocation" "binding_key"))

/-- What an event adds to its declaration. -/
def Binding.advance (binding : Binding) (state : SequenceStatus × Nat × Bool) : Advance :=
  ⟨state.2.2, binding.correctedDeviceAt, binding.coverageHorizonAt, binding.exporterBootId,
    binding.sequenceNumber, state.1, state.2.1, binding.recordsLostBefore,
    binding.metadataComplete⟩

def Binding.eventRow (id org token bindingId configId : Nat) (payloadHash : String)
    (binding : Binding) (status : SequenceStatus) : EventRow :=
  ⟨id, org, bindingId, configId, token, binding.eventType, binding.exporterBootId,
    binding.eventId, binding.sequenceNumber, status, payloadHash⟩

/-- The event is recorded and the declaration moved on. -/
def recordEvent (org token : Nat) (payloadHash : String) (config : ExporterConfig)
    (binding : Binding) (state : SequenceStatus × Nat × Bool) (bindingId : Nat) :
    Request (Except Refusal Accepted) := do
  match ← execute (.insertEvent (binding.eventRow 0 org token bindingId config.id
      payloadHash state.1)) with
  | none => pure (.error ⟨.database, "Duplicate entry", none⟩)
  | some _ => do
      execute (.updateConfig config.id org (binding.advance state))
      pure (.ok (.inserted binding.eventType state.1 binding.metadataComplete))

def bootSeenBefore (org : Nat) (config : ExporterConfig) (binding : Binding) : Request Bool :=
  if config.lastExporterBootId.any (· ≠ binding.exporterBootId) then do
    let seen ← execute (.selectBoot org config.id binding.exporterBootId)
    pure seen.isSome
  else pure false

/-- The allocation or the release of an event: id of its binding. -/
def applyEvent (org : Nat) (config : ExporterConfig) (binding : Binding)
    (status : SequenceStatus) : Request (Except Refusal Nat) :=
  match binding.eventType, binding.releasedAt with
  | .release, some releasedAt => ingestRelease org config binding releasedAt status
  | _, _ => ingestAllocation org config binding status

/-- An event that was not stored before. -/
def ingestNew (org token : Nat) (payloadHash : String) (config : ExporterConfig)
    (binding : Binding) : Request (Except Refusal Accepted) := do
  let seen ← bootSeenBefore org config binding
  let state := sequenceState config binding seen
  match ← applyEvent org config binding state.1 with
  | .error e => pure (.error e)
  | .ok bindingId => recordEvent org token payloadHash config binding state bindingId

section Loop

variable (canonicalPayloadHash : Nat → Binding → String)

/-- One event of the batch. -/
def ingestEvent (org token : Nat) (binding : Binding) : Request (Except Refusal Accepted) := do
  match ← execute (.selectConfig org binding.exporter) with
  | [config] =>
    match checkExporterConfig config binding token with
    | .error e => pure (.error e)
    | .ok () => do
        match ← execute (.selectEvent org config.id binding.exporterBootId binding.eventId) with
        | some stored =>
          if stored.collectorApiTokenId ≠ token then
            pure (.error (forbidden
              "Collector token is not authorized to replay this exporter event"))
          else if stored.payloadHash ≠ canonicalPayloadHash org binding then
            pure (.error (conflict ("The same exporter boot/event identity was already " ++
              "stored with different content")))
          else pure (.ok .replayed)
        | none => ingestNew org token (canonicalPayloadHash org binding) config binding
  | _ => pure (.error (invalid
      "CGNAT exporter is not uniquely configured for this organization" "exporter_id"))

/-- The events of the batch, in order. -/
def ingestEvents (org token : Nat) : List Binding → Request (Except Refusal (List Accepted))
  | [] => pure (.ok [])
  | binding :: rest => do
      match ← ingestEvent canonicalPayloadHash org token binding with
      | .error e => pure (.error e)
      | .ok accepted => do
          match ← ingestEvents org token rest with
          | .error e => pure (.error e)
          | .ok others => pure (.ok (accepted :: others))

/-- Events that were not replays. -/
def insertedCount (accepted : List Accepted) : Nat :=
  (accepted.filter fun a => decide (a ≠ .replayed)).length

/-- The transaction of `ingestBatch`, over normalized records. -/
def ingestBindings (org token : Nat) (bindings : List Binding) :
    Request (Except Refusal (List Accepted)) := do
  Prog.begin
  match ← ingestEvents canonicalPayloadHash org token bindings with
  | .error e => do
      Prog.rollbackNow
      pure (.error e)
  | .ok accepted => do
      execute (.insertReceipt ⟨org, token, bindings.length, insertedCount accepted,
        bindings.length - insertedCount accepted⟩)
      Prog.commitNow
      pure (.ok accepted)

/-- `ingestBatch`, at instant `now`. -/
def ingestBatch (settings : Settings) (now : Int) (org token : Nat) (records : List Record) :
    Request (Except Refusal (List Accepted)) :=
  if records.isEmpty then pure (.error (invalid "Invalid binding batch" "bindings"))
  else if settings.maxBatch < records.length then
    pure (.error (invalid "Binding batch too large" "bindings"))
  else
    match records.mapM (normalizeBinding settings now) with
    | .error e => pure (.error e)
    | .ok bindings => ingestBindings canonicalPayloadHash org token bindings

end Loop

end FireIsp.Cgnat
