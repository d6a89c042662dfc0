import FireIsp.Base.History
import FireIsp.Cgnat.Schema

/-!
# Statements of the attribution ingest

Every SQL statement `ingestBatch` sends, with its `WHERE` clause, its reply, the rows it locks
and the row versions it writes.
-/

namespace FireIsp.Cgnat

/-- Lock keys. -/
inductive Key
  | config (id : Nat)
  | tuple (key : TupleKey)
  | binding (id : Nat)
  | bindingKey (org configId : Nat) (key : String)
  /-- Entry of `uq_cgnat_event_replay` or of `uq_cgnat_allocation_event`. -/
  | event (org configId : Nat) (bootId eventId : String)
  deriving DecidableEq

/-- What a release writes to its binding. -/
structure Release where
  releasedAt : Int
  mark : EventMark
  metadataComplete : Bool

/-- What an accepted event adds to its exporter declaration. -/
structure Advance where
  advances : Bool
  correctedDeviceAt : Int
  coverageHorizonAt : Int
  exporterBootId : String
  sequenceNumber : Nat
  status : SequenceStatus
  missing : Nat
  recordsLostBefore : Option Nat
  metadataComplete : Bool

/-- SQL statements. -/
inductive Stmt
  /-- Enabled declaration of an exporter, `LIMIT 2 FOR UPDATE`. -/
  | selectConfig (org : Nat) (exporter : ExporterKey)
  /-- Accepted event of an exporter boot, `LIMIT 1`. -/
  | selectEvent (org configId : Nat) (bootId eventId : String)
  /-- Any accepted event of an exporter boot, `LIMIT 1`. -/
  | selectBoot (org configId : Nat) (bootId : String)
  /-- Binding of a key, `FOR UPDATE`. -/
  | selectBinding (org configId : Nat) (bindingKey : String)
  /-- Access sessions covering an allocation, `LIMIT 2`. -/
  | selectSessions (org : Nat) (binding : Binding)
  /-- Latest evidence of a session before an instant, `LIMIT 1`. -/
  | selectEvidence (org : Nat) (sessionInstanceId : String) (privateIpv4 : Nat) (upTo : Int)
  /-- `INSERT INTO cgnat_public_tuple_locks … ON DUPLICATE KEY UPDATE`. -/
  | insertTupleLock (key : TupleKey)
  /-- The lock row, `FOR UPDATE`. -/
  | selectTupleLock (key : TupleKey)
  /-- Bindings nominally overlapping an allocation, `LIMIT 50 FOR UPDATE`. -/
  | selectOverlaps (org : Nat) (binding : Binding)
  /-- `INSERT INTO cgnat_attribution_bindings`. -/
  | insertBinding (row : BindingRow)
  | selectReleaseCover (org : Nat) (projection : BindingRow) (releaseEnd : Int)
  /-- `UPDATE cgnat_attribution_bindings … WHERE released_at IS NULL`: affected rows. -/
  | updateBinding (id org : Nat) (release : Release)
  /-- `INSERT INTO cgnat_binding_events`. -/
  | insertEvent (row : EventRow)
  /-- `UPDATE cgnat_exporter_configs`. -/
  | updateConfig (id org : Nat) (advance : Advance)
  /-- `INSERT INTO collector_ingest_receipts`. -/
  | insertReceipt (row : Receipt)

/-- Reply type of a statement. -/
@[reducible] def Stmt.Res : Stmt → Type
  | .selectConfig .. => List ExporterConfig
  | .selectEvent .. => Option EventRow
  | .selectBoot .. => Option EventRow
  | .selectBinding .. => List BindingRow
  | .selectSessions .. => List AccessSession
  | .selectEvidence .. => Option AccountingEvent
  | .insertTupleLock _ => Unit
  | .selectTupleLock _ => Unit
  | .selectOverlaps .. => List BindingRow
  | .insertBinding _ => Option Nat
  | .selectReleaseCover .. => List AccessSession
  | .updateBinding .. => Nat
  | .insertEvent _ => Option Nat
  | .updateConfig .. => Unit
  | .insertReceipt _ => Unit

/-- Two half-open intervals share an instant; a missing end is open. -/
def IntervalsMeet (start₁ : Int) (end₁ : Option Int) (start₂ : Int) (end₂ : Option Int) : Prop :=
  (∀ e ∈ end₂, start₁ < e) ∧ ∀ e ∈ end₁, start₂ < e

instance (start₁ : Int) (end₁ : Option Int) (start₂ : Int) (end₂ : Option Int) :
    Decidable (IntervalsMeet start₁ end₁ start₂ end₂) := by
  unfold IntervalsMeet
  infer_instance

/-- Two public port ranges share a port. -/
def PortsMeet (a b : Translation) : Prop :=
  a.publicPortStart ≤ b.publicPortEnd ∧ b.publicPortStart ≤ a.publicPortEnd

instance (a b : Translation) : Decidable (PortsMeet a b) := by
  unfold PortsMeet
  infer_instance

/-- `nominalEnd` of the overlap check. -/
def Binding.nominalEnd (binding : Binding) : Int := binding.releasedAt.getD maxTimestamp

def BindingRow.inTheWay (org : Nat) (binding : Binding) (row : BindingRow) : Bool :=
  decide (row.tuple = binding.tuple org) &&
    decide (PortsMeet row.translation binding.translation) &&
    decide (row.allocatedAt < binding.nominalEnd) &&
    decide (∀ e ∈ row.releasedAt, binding.allocatedAt < e)

/-- First certain instant of the allocation event. -/
def Binding.certainAllocationStart (binding : Binding) : Int :=
  binding.allocatedAt - uncertainty binding.clockUncertaintyMs

def Binding.correlationEnd (binding : Binding) : Int :=
  binding.releasedAt.getD binding.allocatedAt + uncertainty binding.clockUncertaintyMs

/-- A hint is absent or agrees with the column. -/
def hinted {α : Type} [DecidableEq α] (hint column : Option α) : Bool :=
  hint.isNone || decide (hint = column)

/-- The access session covers the allocation; `grace` in milliseconds. -/
def AccessSession.covers (org : Nat) (binding : Binding) (grace : Int)
    (session : AccessSession) : Bool :=
  decide (session.organizationId = org) && session.evidenceComplete &&
    decide (session.address = some binding.translation.privateIpv4) &&
    decide (session.eventAt ≤ binding.certainAllocationStart) &&
    (if session.stopped then
      decide (binding.correlationEnd < session.lastAccountingAt.getD
        (session.eventAt + 1000 * session.sessionDuration.getD 0))
    else decide (binding.correlationEnd ≤ session.lastAccountingAt.getD session.eventAt + grace)) &&
    decide (session.sessionInstanceId = some binding.sessionInstanceId) &&
    hinted binding.radiusSessionId session.radiusSessionId &&
    hinted binding.username session.username &&
    hinted binding.clientId session.clientId &&
    hinted binding.contractId session.contractId &&
    session.clientId.any (· ≠ 0) && session.contractId.any (· ≠ 0)

/-- The access session of a binding covers its release; `grace` in milliseconds. -/
def AccessSession.coversRelease (org : Nat) (projection : BindingRow) (releaseEnd grace : Int)
    (evidence : List AccountingEvent) (session : AccessSession) : Bool :=
  decide (session.id = projection.session.connectionLogId) &&
    decide (session.organizationId = org) && session.evidenceComplete &&
    decide (session.sessionInstanceId = some projection.session.sessionInstanceId) &&
    decide (session.address = some projection.translation.privateIpv4) &&
    if session.stopped then
      evidence.any fun event =>
        decide (event.organizationId = org) &&
          decide (event.sessionInstanceId = projection.session.sessionInstanceId) && event.stop &&
          decide (event.framedIp = some projection.translation.privateIpv4) &&
          decide (releaseEnd ≤ event.eventAt + grace) &&
          decide (releaseEnd ≤ event.observedAt + grace)
    else decide (releaseEnd ≤ session.lastAccountingAt.getD session.eventAt + grace)

def BindingRow.released (row : BindingRow) (release : Release) : BindingRow :=
  { row with
    releasedAt := some release.releasedAt
    release := some release.mark
    metadataComplete := row.metadataComplete && release.metadataComplete }

/-- `CASE WHEN ? = 1 AND (column IS NULL OR column < ?) THEN ? ELSE column END`. -/
def latest (advances : Bool) (column : Option Int) (instant : Int) : Option Int :=
  if advances && column.all (· < instant) then some instant else column

/-- The declaration once an event was accepted. -/
def ExporterConfig.advance (config : ExporterConfig) (a : Advance) : ExporterConfig :=
  { config with
    bindingReceived := true
    lastCorrectedDeviceAt := latest a.advances config.lastCorrectedDeviceAt a.correctedDeviceAt
    coverageHorizonAt := latest a.advances config.coverageHorizonAt a.coverageHorizonAt
    lastExporterBootId := if a.advances then some a.exporterBootId else config.lastExporterBootId
    lastSequenceNumber := if a.advances then a.sequenceNumber else config.lastSequenceNumber
    sequenceGapEvents := config.sequenceGapEvents + if a.status = .gap then 1 else 0
    sequenceMissingRecords := config.sequenceMissingRecords + a.missing
    outOfOrderEvents := config.outOfOrderEvents + if a.status = .outOfOrder then 1 else 0
    reportedLostRecords := config.reportedLostRecords + a.recordsLostBefore.getD 0
    incompleteMetadataEvents := config.incompleteMetadataEvents +
      if a.metadataComplete then 0 else 1 }

/-- `CHECK` constraints of `cgnat_attribution_bindings`. -/
def BindingRow.checked (row : BindingRow) : Bool :=
  let t := row.translation
  decide (1 ≤ t.publicPortStart ∧ t.publicPortStart ≤ 65535 ∧
      t.publicPortStart ≤ t.publicPortEnd ∧ t.publicPortEnd ≤ 65535) &&
    (match t.bindingType with
    | .singlePort => t.privatePortStart.any (fun p => decide (1 ≤ p ∧ p ≤ 65535)) &&
        decide (t.privatePortEnd = t.privatePortStart) &&
        decide (t.publicPortEnd = t.publicPortStart)
    | .portBlock => t.privatePortStart.isNone && t.privatePortEnd.isNone &&
        decide (t.publicPortStart < t.publicPortEnd)) &&
    decide (t.protocol = 6 ∨ t.protocol = 17) &&
    row.releasedAt.all (row.allocatedAt < ·)

/-- Unique keys of `cgnat_attribution_bindings` are free. -/
def bindingFree (row : BindingRow) (rows : List BindingRow) : Bool :=
  rows.all fun other =>
    decide (¬(other.organizationId = row.organizationId ∧
      other.exporterConfigId = row.exporterConfigId ∧ other.bindingKey = row.bindingKey)) &&
    decide (¬(other.organizationId = row.organizationId ∧
      other.exporterConfigId = row.exporterConfigId ∧ other.exporterBootId = row.exporterBootId ∧
      other.allocation.eventId = row.allocation.eventId))

def EventRow.isEvent (org configId : Nat) (bootId eventId : String) (row : EventRow) : Bool :=
  decide (row.organizationId = org ∧ row.exporterConfigId = configId ∧
    row.exporterBootId = bootId ∧ row.eventId = eventId)

/-- Reply and row versions of a statement: consistent reads see `view`, all else `now`. -/
def exec (grace : Int) : (op : Stmt) → Nat → Db → Db → op.Res × List Write
  | .selectConfig org exporter, _, now, _ =>
    ((now.configs.filter fun c =>
      decide (c.organizationId = org ∧ c.exporter = exporter) && c.enabled).take 2, [])
  | .selectEvent org configId bootId eventId, _, _, view =>
    (view.events.find? (EventRow.isEvent org configId bootId eventId), [])
  | .selectBoot org configId bootId, _, _, view =>
    (view.events.find? fun e => decide (e.organizationId = org ∧ e.exporterConfigId = configId ∧
      e.exporterBootId = bootId), [])
  | .selectBinding org configId bindingKey, _, now, _ =>
    ((now.bindings.filter fun b => decide (b.organizationId = org ∧
      b.exporterConfigId = configId ∧ b.bindingKey = bindingKey)).take 2, [])
  | .selectSessions org binding, _, _, view =>
    ((view.sessions.filter (AccessSession.covers org binding grace)).take 2, [])
  | .selectEvidence org sessionInstanceId privateIpv4 upTo, _, _, view =>
    (Table.newest (fun e => (max e.eventAt e.observedAt).toNat) AccountingEvent.id
      (view.evidence.filter fun e => decide (e.organizationId = org ∧
        e.sessionInstanceId = sessionInstanceId ∧ e.framedIp = some privateIpv4 ∧
        e.eventAt ≤ upTo ∧ e.observedAt ≤ upTo)), [])
  | .insertTupleLock key, _, _, _ => ((), [.tupleLock key])
  | .selectTupleLock _, _, _, _ => ((), [])
  | .selectOverlaps org binding, _, now, _ =>
    ((now.bindings.filter (BindingRow.inTheWay org binding)).take 50, [])
  | .insertBinding row, tick, now, _ =>
    if row.checked && bindingFree row now.bindings then
      (some tick, [.binding { row with id := tick }])
    else (none, [])
  | .selectReleaseCover org projection releaseEnd, _, _, view =>
    ((view.sessions.filter (AccessSession.coversRelease org projection releaseEnd grace
      view.evidence)).take 1, [])
  | .updateBinding id org release, _, now, _ =>
    match now.bindings.find? fun b => decide (b.id = id ∧ b.organizationId = org ∧
        b.releasedAt = none ∧ b.allocatedAt < release.releasedAt) with
    | none => (0, [])
    | some row => (1, [.binding (row.released release)])
  | .insertEvent row, tick, now, _ =>
    if now.events.any (EventRow.isEvent row.organizationId row.exporterConfigId
        row.exporterBootId row.eventId) then (none, [])
    else (some tick, [.event { row with id := tick }])
  | .updateConfig id org advance, _, now, _ =>
    match now.configs.find? fun c => decide (c.id = id ∧ c.organizationId = org) with
    | none => ((), [])
    | some config => ((), [.config (config.advance advance)])
  | .insertReceipt row, _, _, _ => ((), [.receipt row])

def locks : Stmt → Db → List Key
  | .selectConfig org exporter, db =>
    (db.configs.filter fun c =>
      decide (c.organizationId = org ∧ c.exporter = exporter)).map fun c => .config c.id
  | .selectBinding org configId bindingKey, db =>
    (db.bindings.filter fun b => decide (b.organizationId = org ∧
      b.exporterConfigId = configId ∧ b.bindingKey = bindingKey)).map fun b => .binding b.id
  | .insertTupleLock key, _ => [.tuple key]
  | .selectTupleLock key, _ => [.tuple key]
  | .selectOverlaps org binding, db =>
    (db.bindings.filter (BindingRow.inTheWay org binding)).map fun b => .binding b.id
  | .insertBinding row, _ =>
    [.bindingKey row.organizationId row.exporterConfigId row.bindingKey,
      .event row.organizationId row.exporterConfigId row.exporterBootId row.allocation.eventId]
  | .updateBinding id _ _, _ => [.binding id]
  | .insertEvent row, _ =>
    [.event row.organizationId row.exporterConfigId row.exporterBootId row.eventId]
  | .updateConfig id _ _, _ => [.config id]
  | _, _ => []

/-- Statements with a consistent read. -/
def snapshots : Stmt → Bool
  | .selectEvent .. => true
  | .selectBoot .. => true
  | .selectSessions .. => true
  | .selectEvidence .. => true
  | .selectReleaseCover .. => true
  | _ => false

/-- The attribution tables as a store; `grace` in milliseconds. -/
def engine (grace : Int) : Txn.Engine Db Write Key Stmt Stmt.Res where
  apply := Db.apply
  exec := exec grace
  locks := locks
  snapshots := snapshots

end FireIsp.Cgnat
