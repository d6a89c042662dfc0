import FireIsp.Cgnat.Replay

/-!
# Looking up a public tuple

`lookupAttribution` on the translated path: the approved case, the joined candidates whose
widened interval contains the instant, and the checks the sole candidate has to pass.
-/

namespace FireIsp.Cgnat

open Txn Fallible

/-- A normalized lookup. -/
structure Lookup where
  govDataRequestId : Nat
  publicIpv4 : Nat
  /-- Public port and protocol; left out for a direct public assignment. -/
  translated : Option (Nat × Nat)
  observedAt : Int

/-- Row of `gov_data_requests`. -/
structure GovDataRequest where
  id : Nat
  organizationId : Nat
  /-- `request_type = 'ip_traceability' AND status = 'processing'`. -/
  processing : Bool
  /-- Authority reference, legal basis and row hash are not blank. -/
  documented : Bool
  rowHashMatches : Bool
  clientId : Option Nat
  contractId : Option Nat
  ipAddress : Option Nat
  translated : Option (Nat × Nat)
  observedAt : Option Int

/-- A row of the joined candidate query. -/
structure Candidate where
  binding : BindingRow
  config : ExporterConfig
  session : AccessSession
  stop : Option AccountingEvent

def joinsConfig (binding : BindingRow) (config : ExporterConfig) : Bool :=
  decide (config.id = binding.exporterConfigId ∧ config.organizationId = binding.organizationId)

def joinsSession (binding : BindingRow) (session : AccessSession) : Bool :=
  decide (session.id = binding.session.connectionLogId ∧
    session.organizationId = binding.organizationId ∧
    session.sessionInstanceId = some binding.session.sessionInstanceId)

def joinsAnchor (binding : BindingRow) (event : AccountingEvent) : Bool :=
  decide (event.id = binding.session.radiusEvidenceId ∧
    event.eventAt = binding.session.radiusEvidenceEventAt ∧
    event.observedAt = binding.session.radiusEvidenceObservedAt ∧
    event.organizationId = binding.organizationId ∧
    event.sessionInstanceId = binding.session.sessionInstanceId ∧
    event.framedIp = some binding.translation.privateIpv4 ∧
    event.integrityHash = some binding.session.radiusEvidenceIntegrityHash ∧
    event.eventAt ≤ binding.widenedStart ∧ event.observedAt ≤ binding.widenedStart)

def joinsAllocation (binding : BindingRow) (event : EventRow) : Bool :=
  decide (event.bindingId = binding.id ∧ event.organizationId = binding.organizationId ∧
    event.eventType = .allocate ∧ event.eventId = binding.allocation.eventId)

def joinsRelease (binding : BindingRow) (event : EventRow) : Bool :=
  decide (event.bindingId = binding.id ∧ event.organizationId = binding.organizationId ∧
    event.eventType = .release ∧ binding.release.map EventMark.eventId = some event.eventId)

def stopEvidence (db : Db) (binding : BindingRow) (session : AccessSession) :
    Option AccountingEvent :=
  if session.stopped then
    Table.newest (fun e => e.eventAt.toNat) AccountingEvent.id (db.evidence.filter fun e =>
      decide (e.organizationId = session.organizationId ∧
        some e.sessionInstanceId = session.sessionInstanceId ∧ e.stop = true ∧
        e.framedIp = some binding.translation.privateIpv4))
  else none

/-- The session covers the instant: it stopped later, or it is live and reported later. -/
def sessionCovers (now liveness observedAt : Int) (session : AccessSession)
    (stop : Option AccountingEvent) : Bool :=
  if session.stopped then
    stop.any fun e => decide (observedAt < e.eventAt) && decide (observedAt < e.observedAt)
  else
    session.lastAccountingReceivedAt.any (fun received =>
      decide (now - liveness ≤ received) && decide (observedAt ≤ received)) &&
      session.lastAccountingAt.any (observedAt ≤ ·)

def BindingRow.ofTuple (org publicIpv4 port protocol : Nat) (binding : BindingRow) : Bool :=
  decide (binding.organizationId = org ∧ binding.translation.publicIpv4 = publicIpv4 ∧
    binding.translation.protocol = protocol ∧ binding.translation.publicPortStart ≤ port ∧
    port ≤ binding.translation.publicPortEnd)

/-- The widened interval contains the instant. -/
def BindingRow.mayHold (binding : BindingRow) (observedAt : Int) : Bool :=
  decide (binding.widenedStart ≤ observedAt) && binding.widenedEnd.all (observedAt < ·)

/-- Sessions of a binding that cover the instant, joined with the declaration. -/
def sessionRows (db : Db) (now liveness observedAt : Int) (binding : BindingRow)
    (config : ExporterConfig) : List Candidate :=
  ((db.sessions.filter (joinsSession binding)).filter fun session => session.evidenceComplete &&
      sessionCovers now liveness observedAt session (stopEvidence db binding session)).map
    fun session => ⟨binding, config, session, stopEvidence db binding session⟩

/-- Rows of one binding: its declaration, sessions, anchors and events. -/
def joinedRows (db : Db) (now liveness observedAt : Int) (binding : BindingRow) : List Candidate :=
  (db.configs.filter (joinsConfig binding)).flatMap fun config =>
    (sessionRows db now liveness observedAt binding config).flatMap fun row =>
      (db.evidence.filter (joinsAnchor binding)).flatMap fun _ =>
        (db.events.filter (joinsAllocation binding)).flatMap fun _ =>
          List.replicate (max 1 (db.events.filter (joinsRelease binding)).length) row

/-- The candidate query. -/
def candidates (db : Db) (org : Nat) (now liveness : Int) (publicIpv4 port protocol : Nat)
    (observedAt : Int) : List Candidate :=
  (db.bindings.filter fun b =>
      b.ofTuple org publicIpv4 port protocol && b.mayHold observedAt).flatMap
    (joinedRows db now liveness observedAt)

def certainlyCoversInstant (binding : BindingRow) (observedAt : Int) : Bool :=
  decide (binding.allocatedAt + uncertainty binding.allocation.clockUncertaintyMs ≤ observedAt) &&
    binding.releasedAt.all fun releasedAt => decide (observedAt <
      releasedAt - uncertainty (binding.release.bind EventMark.clockUncertaintyMs))

/-- A sequence status that leaves no doubt. -/
def SequenceStatus.sure (status : SequenceStatus) : Bool :=
  status == .initial || status == .contiguous

/-- The events of the binding are complete, in sequence and without reported losses. -/
def evidenceSure (binding : BindingRow) : Bool :=
  binding.metadataComplete && binding.allocation.sequenceStatus.sure &&
    decide (binding.allocation.recordsLostBefore.getD 0 = 0) &&
    (binding.releasedAt.isNone || binding.release.any fun mark =>
      mark.sequenceStatus.sure && decide (mark.recordsLostBefore.getD 0 = 0))

/-- The declaration is approved from `start` on and has no incident up to `observedAt`. -/
def ExporterConfig.healthy (config : ExporterConfig) (start observedAt : Int) : Bool :=
  config.purposeReference && config.authoritativeBaselineConfirmed && config.baselineReference &&
    config.collectionApprovedAt.any (· ≤ start) && config.baselineConfirmedAt.any (· ≤ start) &&
    config.retiredAt.all (observedAt < ·) && config.tupleExclusivityConfirmed &&
    config.bindingReceived && config.coverageHorizonAt.any (observedAt ≤ ·) &&
    decide (config.sequenceGapEvents = 0) && decide (config.sequenceMissingRecords = 0) &&
    decide (config.outOfOrderEvents = 0) && decide (config.reportedLostRecords = 0) &&
    decide (config.incompleteMetadataEvents = 0)

/-- Declarations in force for the address at the instant. -/
def coveringConfigs (db : Db) (org publicIpv4 : Nat) (observedAt : Int) : List ExporterConfig :=
  db.configs.filter fun config => decide (config.organizationId = org) &&
    config.collectionApprovedAt.any (· ≤ observedAt) &&
    config.baselineConfirmedAt.any (· ≤ observedAt) &&
    config.retiredAt.all (observedAt < ·) &&
    decide (config.publicIpv4Start ≤ publicIpv4 ∧ publicIpv4 ≤ config.publicIpv4End)

/-- `publicAttribution`: the binding and its certain interval. -/
structure Attribution where
  binding : BindingRow
  certainFrom : Int
  /-- `certain_until`; `none` when a joined instant is missing. -/
  certainUntil : Option Int

/-- Last certain instant of the binding itself. -/
def bindingCertainUntil (row : Candidate) : Option Int :=
  match row.binding.releasedAt with
  | some releasedAt =>
    some (releasedAt - uncertainty (row.binding.release.bind EventMark.clockUncertaintyMs))
  | none => row.config.coverageHorizonAt

def accessCertainUntil (row : Candidate) : Option Int :=
  if row.session.stopped then row.stop.map fun e => min e.eventAt e.observedAt
  else row.session.lastAccountingAt.bind fun last =>
    row.session.lastAccountingReceivedAt.map fun received => min last received

def publicAttribution (row : Candidate) : Attribution where
  binding := row.binding
  certainFrom := row.binding.allocatedAt + uncertainty row.binding.allocation.clockUncertaintyMs
  certainUntil := (bindingCertainUntil row).bind fun b =>
    (accessCertainUntil row).map fun a => min b a

/-- Answer of a lookup. -/
inductive Answer
  | unavailable (reason : String)
  /-- `ambiguous`, with the number of candidates. -/
  | ambiguous (count : Nat)
  | matched (attribution : Attribution)
  /-- A lookup without a port, answered from the RADIUS ledger. -/
  | direct

def loadAuthorizedCase (cases : List GovDataRequest) (org : Nat) (lookup : Lookup) :
    Except Refusal GovDataRequest :=
  match cases.find? fun c => decide (c.id = lookup.govDataRequestId ∧ c.organizationId = org) with
  | none => throw ⟨.validation, "Government data request not found", none⟩
  | some request => do
      refuseIf (!request.processing || !request.documented) (forbidden
        ("IP attribution requires an approved processing ip_traceability request with " ++
          "authority reference and legal basis"))
      refuseIf (!request.rowHashMatches) (forbidden
        "Government request consistency marker does not match the stored request")
      refuseIf (request.ipAddress ≠ some lookup.publicIpv4 ∨
          request.translated ≠ lookup.translated ∨ request.observedAt ≠ some lookup.observedAt)
        (forbidden "Lookup tuple and exact time must match the approved government request")
      pure request

def assertAuthorizedCaseSubject (request : GovDataRequest) (binding : BindingRow) :
    Except Refusal Unit := do
  refuseIf (request.clientId.any (· ≠ binding.session.clientId))
    (forbidden "Attributed subscriber does not match the approved case subject")
  refuseIf (request.contractId.any (· ≠ binding.session.contractId))
    (forbidden "Attributed contract does not match the approved case subject")

/-- What the sole candidate is found to be. -/
def assess (db : Db) (org : Nat) (publicIpv4 : Nat) (observedAt : Int) (row : Candidate) :
    Except String Attribution := do
  refuseIf (!certainlyCoversInstant row.binding observedAt) "clock_boundary_uncertainty"
  refuseIf (!evidenceSure row.binding) "incomplete_exporter_evidence"
  refuseIf (!(db.configs.find? fun c => decide (c.id = row.binding.exporterConfigId ∧
      c.organizationId = org)).any (·.healthy row.binding.widenedStart observedAt))
    "candidate_exporter_evidence_incomplete"
  refuseIf ((coveringConfigs db org publicIpv4 observedAt).length ≠ 1 ∨
      ((coveringConfigs db org publicIpv4 observedAt).filter
        (·.healthy observedAt observedAt)).length ≠ 1)
    "incomplete_exporter_pool_coverage"
  pure (publicAttribution row)

/-- `lookupAttribution` at instant `now`; `liveness` in milliseconds. -/
def lookupAttribution (db : Db) (cases : List GovDataRequest) (org : Nat) (now liveness : Int)
    (lookup : Lookup) : Except Refusal Answer := do
  refuseIf (now < lookup.observedAt) (invalid "Future attribution queries are not allowed"
    "observed_at")
  let request ← loadAuthorizedCase cases org lookup
  match lookup.translated with
  | none => pure .direct
  | some (port, protocol) =>
    match candidates db org now liveness lookup.publicIpv4 port protocol lookup.observedAt with
    | [] => pure (.unavailable "no_attribution_evidence")
    | [row] =>
      match assess db org lookup.publicIpv4 lookup.observedAt row with
      | .error reason => pure (.unavailable reason)
      | .ok attribution => do
          assertAuthorizedCaseSubject request attribution.binding
          pure (.matched attribution)
    | rows => pure (.ambiguous rows.length)

end FireIsp.Cgnat
