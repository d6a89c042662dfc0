import FireIsp.Alerts.Schema
import FireIsp.Base.Client

/-!
# Statements of the alert engine

The tables `alert_rules`, `alert_events` and `outages` with what the rules are compared with, and the
statements that are sent to them.  An outage notes the rule that raised it, which the table does not.
-/

namespace FireIsp.Alerts

open Txn

inductive EventStatus
  | triggered
  | acknowledged
  | resolved

/-- A row of `alert_events`. -/
structure AlertEvent where
  id : Nat
  alertRuleId : Nat
  organizationId : Nat
  deviceId : Option Nat
  metric : Metric
  currentValue : Int
  thresholdValue : Int
  status : EventStatus
  suppressed : Bool
  maintenanceWindowId : Option Nat
  createdAt : Nat

inductive OutageStatus
  | ongoing
  | resolved
  | postMortem
  deriving DecidableEq

inductive OutageSeverity
  | minor
  | major
  | critical
  deriving DecidableEq

/-- A row of `outages`. -/
structure Outage where
  id : Nat
  organizationId : Option Nat
  deviceId : Option Nat
  title : String
  severity : OutageSeverity
  status : OutageStatus
  deleted : Bool
  /-- Rule that raised it, if a rule did.  No statement reads it. -/
  alertRuleId : Option Nat
  deriving DecidableEq

/-- An outage that goes on. -/
def Outage.Live (outage : Outage) : Prop := outage.status = .ongoing ∧ outage.deleted = false

instance (outage : Outage) : Decidable outage.Live := inferInstanceAs (Decidable (_ ∧ _))

/-- The database. -/
structure Db where
  rules : List Rule
  readings : Readings
  alertEvents : List AlertEvent
  outages : List Outage

def Db.enabledRules (db : Db) (organizationId : Nat) : List Rule :=
  db.rules.filter fun rule => rule.organizationId = organizationId ∧ rule.isEnabled

/-- A number in a column with four decimals: halves are rounded away from zero. -/
def tenThousandths (value : Rat) : Int :=
  if value < 0 then -⌊-value * 10000 + 1 / 2⌋ else ⌊value * 10000 + 1 / 2⌋

/-- A number fits into `DECIMAL(12, 4)`. -/
def Storable (value : Rat) : Prop := (tenThousandths value).natAbs < 10 ^ 12

instance (value : Rat) : Decidable (Storable value) := inferInstanceAs (Decidable (_ < _))

/-- The severity of an outage of a rule, if `outages` has it. -/
def Severity.ofOutage : Severity → Option OutageSeverity
  | .info => none
  | .warning => none
  | .major => some .major
  | .critical => some .critical

/-- Statements. -/
inductive Stmt
  /-- `SELECT * FROM alert_rules WHERE organization_id = ? AND is_enabled = TRUE`. -/
  | enabledRules (organizationId : Nat)
  | groups (rule : Rule)
  /-- The query of `activeMaintenanceWindowId`. -/
  | activeWindow (organizationId deviceId : Nat)
  | recordSuppressed (organizationId : Nat) (rule : Rule) (breach : Breach) (windowId : Nat)
  | record (rule : Rule) (breach : Breach)
  | recentEpisode (organizationId ruleId : Nat) (deviceId : Option Nat) (excludeEventId : Nat)
  | existingOutage (organizationId deviceId : Nat) (title : String)
  | insertOutage (organizationId : Nat) (rule : Rule) (deviceId : Nat)
  | resolveOutage (id : Nat)
  | deleteOutage (id : Nat)
  /-- Metrics are polled, devices and windows change, and time passes. -/
  | observe (readings : Readings)

/-- Replies. -/
@[reducible] def Stmt.Res : Stmt → Type
  | enabledRules _ => List Rule
  | groups _ => List Group
  | activeWindow _ _ => Option Nat
  | recordSuppressed _ _ _ _ => Option Nat
  | record _ _ => Option Nat
  | recentEpisode _ _ _ _ => Bool
  | existingOutage _ _ _ => Bool
  | insertOutage _ _ _ => Option Nat
  | resolveOutage _ => Unit
  | deleteOutage _ => Unit
  | observe _ => Unit

/-- Row versions. -/
inductive Write
  | event (event : AlertEvent)
  | outage (outage : Outage)
  | resolve (id : Nat)
  | delete (id : Nat)
  | observe (readings : Readings)

/-- Rewrite the outage of an id. -/
def Db.changeOutage (db : Db) (id : Nat) (change : Outage → Outage) : Db :=
  { db with outages := Table.modify Outage.id id change db.outages }

/-- A row version is stored. -/
def Write.apply (db : Db) : Write → Db
  | event row => { db with alertEvents := db.alertEvents ++ [row] }
  | outage row => { db with outages := db.outages ++ [row] }
  | resolve id => db.changeOutage id fun outage => { outage with status := .resolved }
  | delete id => db.changeOutage id fun outage => { outage with deleted := true }
  | observe readings => { db with readings }

def Breach.event (breach : Breach) (id organizationId : Nat) (rule : Rule)
    (windowId : Option Nat) (now : Nat) : AlertEvent where
  id := id
  alertRuleId := rule.id
  organizationId := organizationId
  deviceId := breach.deviceId
  metric := breach.metric
  currentValue := tenThousandths breach.currentValue
  thresholdValue := tenThousandths breach.threshold
  status := if windowId = none then .triggered else .resolved
  suppressed := windowId.isSome
  maintenanceWindowId := windowId
  createdAt := now

/-- An event is written, or the statement raises since its average does not fit its column. -/
def recorded (tick organizationId : Nat) (rule : Rule) (breach : Breach) (windowId : Option Nat)
    (db : Db) : Option Nat × List Write :=
  if Storable breach.currentValue then
    (some tick, [.event (breach.event tick organizationId rule windowId db.readings.now)])
  else (none, [])

/-- An outage is written, or the statement raises since it cannot have the rule's severity. -/
def outageInserted (tick organizationId : Nat) (rule : Rule) (deviceId : Nat) :
    Option Nat × List Write :=
  match rule.severity.ofOutage with
  | some severity => (some tick, [.outage ⟨tick, some organizationId, some deviceId, rule.title,
      severity, .ongoing, false, some rule.id⟩])
  | none => (none, [])

section Meaning

variable (arrange : List (Option Nat) → List (Option Nat)) (same : String → String → Bool)

/-- The outages that the query of `autoCreateOutage` is about. -/
def Outage.Matches (organizationId deviceId : Nat) (title : String) (outage : Outage) : Prop :=
  outage.Live ∧ outage.organizationId = some organizationId ∧ outage.deviceId = some deviceId ∧
    same outage.title title = true

instance (organizationId deviceId : Nat) (title : String) (outage : Outage) :
    Decidable (outage.Matches same organizationId deviceId title) :=
  inferInstanceAs (Decidable (_ ∧ _))

/-- An event that tells of an episode within the last hour. -/
def AlertEvent.OfEpisode (now organizationId ruleId : Nat) (deviceId : Option Nat)
    (excludeEventId : Nat) (event : AlertEvent) : Prop :=
  event.organizationId = organizationId ∧ event.alertRuleId = ruleId ∧
    event.suppressed = false ∧ now ≤ event.createdAt + 3600 ∧ event.id ≠ excludeEventId ∧
    event.deviceId = deviceId

instance (now organizationId ruleId : Nat) (deviceId : Option Nat) (excludeEventId : Nat)
    (event : AlertEvent) :
    Decidable (event.OfEpisode now organizationId ruleId deviceId excludeEventId) :=
  inferInstanceAs (Decidable (_ ∧ _))

/-- Reply and row versions of a statement. -/
def exec : (op : Stmt) → Nat → Db → Db → op.Res × List Write
  | .enabledRules organizationId, _, db, _ => (db.enabledRules organizationId, [])
  | .groups rule, _, db, _ => (db.readings.groups arrange rule, [])
  | .activeWindow organizationId deviceId, _, db, _ =>
    (db.readings.activeMaintenanceWindowId organizationId deviceId, [])
  | .recordSuppressed organizationId rule breach windowId, tick, db, _ =>
    recorded tick organizationId rule breach (some windowId) db
  | .record rule breach, tick, db, _ => recorded tick rule.organizationId rule breach none db
  | .recentEpisode organizationId ruleId deviceId excludeEventId, _, db, _ =>
    (db.alertEvents.any fun event =>
      event.OfEpisode db.readings.now organizationId ruleId deviceId excludeEventId, [])
  | .existingOutage organizationId deviceId title, _, db, _ =>
    (db.outages.any fun outage => outage.Matches same organizationId deviceId title, [])
  | .insertOutage organizationId rule deviceId, tick, _, _ =>
    outageInserted tick organizationId rule deviceId
  | .resolveOutage id, _, _, _ => ((), [.resolve id])
  | .deleteOutage id, _, _, _ => ((), [.delete id])
  | .observe readings, _, _, _ => ((), [.observe readings])

/-- Statements of the alert engine.  Each is committed at once. -/
def engine : Engine Db Write Empty Stmt Stmt.Res where
  apply := Write.apply
  exec := exec arrange same
  locks _ _ := []
  snapshots _ := false

end Meaning

end FireIsp.Alerts

/-!
## Evaluation of alert rules

`evaluateAlerts` with `checkRule`, the records it writes and `autoCreateOutage`.  A rule whose
evaluation raises is logged, and the next rule is evaluated.
-/

namespace FireIsp.Alerts

open Txn Throwing

/-- A statement has raised. -/
inductive Failure
  | raised

instance : Raises Failure := ⟨.raised⟩

/-- What is done outside of the tables. -/
inductive Query
  | alertTriggered (organizationId : Nat) (rule : Rule) (breach : Breach)
  | outageReported (organizationId outageId : Nat)
  /-- `autoCreateTicket`, which does not raise. -/
  | autoCreateTicket (organizationId : Nat) (rule : Rule) (breach : Breach)

/-- Nothing is heard back. -/
@[reducible] def Answer : Query → Type := fun _ => Unit

/-- A part of an evaluation. -/
abbrev Body (A : Type) : Type := Client Stmt Stmt.Res Query Answer Failure A

/-- A statement, which may raise. -/
abbrev statement (op : Stmt) : Body op.Res := Client.statement .pool op

def checkRule (rule : Rule) : Body (Option Breach) :=
  if rule.metric.Allowed then do
    let rows ← statement (.groups rule)
    pure (rows.findSome? (Group.breach rule))
  else pure none

/-- `activeMaintenanceWindowId`, where a device has breached. -/
def activeWindow (organizationId : Nat) : Option Nat → Body (Option Nat)
  | some deviceId => statement (.activeWindow organizationId deviceId)
  | none => pure none

def recordSuppressedAlert (organizationId : Nat) (rule : Rule) (breach : Breach) (windowId : Nat) :
    Body Unit :=
  Client.swallowed do
    let written ← statement (.recordSuppressed organizationId rule breach windowId)
    let _ ← orThrow written Failure.raised
    pure ()

def recordAlert (rule : Rule) (breach : Breach) : Body Nat := do
  let written ← statement (.record rule breach)
  orThrow written Failure.raised

def autoCreateOutage (organizationId : Nat) (rule : Rule) (deviceId : Nat) : Body Unit :=
  Client.swallowed do
    let existing ← statement (.existingOutage organizationId deviceId rule.title)
    if existing then pure ()
    else do
      let written ← statement (.insertOutage organizationId rule deviceId)
      let outageId ← orThrow written Failure.raised
      Client.asked (.outageReported organizationId outageId)

/-- What became of a rule. -/
inductive Verdict
  | quiet
  | suppressed
  | triggered (breach : Breach) (eventId : Nat)
  deriving DecidableEq

def recordBreach (organizationId : Nat) (rule : Rule) (breach : Breach) : Body Verdict := do
  let window ← activeWindow organizationId breach.deviceId
  match window with
  | some windowId => do
      recordSuppressedAlert organizationId rule breach windowId
      pure .suppressed
  | none => do
      let eventId ← recordAlert rule breach
      pure (.triggered breach eventId)

def checkAndRecord (organizationId : Nat) (rule : Rule) : Body Verdict := do
  let breached ← checkRule rule
  match breached with
  | none => pure .quiet
  | some breach => recordBreach organizationId rule breach

/-- A part that is there only in one case. -/
def onlyIf (condition : Bool) (part : Body Unit) : Body Unit := if condition then part else pure ()

def followUp (organizationId : Nat) (rule : Rule) (breach : Breach) (eventId : Nat) :
    Body Unit := do
  let recent ← statement (.recentEpisode organizationId rule.id breach.deviceId eventId)
  onlyIf (!recent) (Client.asked (.alertTriggered organizationId rule breach))
  match breach.deviceId with
  | none => pure ()
  | some deviceId => do
      onlyIf rule.autoCreateOutage (autoCreateOutage organizationId rule deviceId)
      onlyIf rule.autoCreateTicket (Client.asked (.autoCreateTicket organizationId rule breach))

/-- One rule of `evaluateAlerts`. -/
def evaluateRule (organizationId : Nat) (rule : Rule) : Body Verdict := do
  let checked ← attempted (checkAndRecord organizationId rule)
  match checked with
  | .error _ => pure .quiet
  | .ok (.triggered breach eventId) => do
      Client.swallowed (followUp organizationId rule breach eventId)
      pure (.triggered breach eventId)
  | .ok verdict => pure verdict

def evaluateRules (organizationId : Nat) : List Rule → Body (List (Rule × Verdict))
  | [] => pure []
  | rule :: rules => do
      let verdict ← evaluateRule organizationId rule
      let verdicts ← evaluateRules organizationId rules
      pure ((rule, verdict) :: verdicts)

/-- An alert of an evaluation. -/
def Verdict.alert : Rule × Verdict → Option (Nat × Breach)
  | (rule, triggered breach _) => some (rule.id, breach)
  | _ => none

/-- What an evaluation returns. -/
structure Evaluation where
  evaluated : Nat
  triggered : Nat
  suppressed : Nat
  alerts : List (Nat × Breach)

def evaluateAlerts (organizationId : Nat) : Body Evaluation := do
  let rules ← statement (.enabledRules organizationId)
  let verdicts ← evaluateRules organizationId rules
  let alerts := verdicts.filterMap Verdict.alert
  pure {
    evaluated := rules.length
    triggered := alerts.length
    suppressed := (verdicts.filter fun verdict => verdict.2 = .suppressed).length
    alerts }

/-- What runs beside each other. -/
inductive Call
  | evaluate (organizationId : Nat)
  | resolve (outageId : Nat)
  | delete (outageId : Nat)
  /-- What the rules are compared with changes. -/
  | observe (readings : Readings)

/-- What a call returns. -/
abbrev Returned : Type := Except Failure (Option Evaluation)

def Call.body : Call → Body (Option Evaluation)
  | .evaluate organizationId => do
      let evaluation ← evaluateAlerts organizationId
      pure (some evaluation)
  | .resolve outageId => do
      statement (.resolveOutage outageId)
      pure none
  | .delete outageId => do
      statement (.deleteOutage outageId)
      pure none
  | .observe readings => do
      statement (.observe readings)
      pure none

def Call.run (call : Call) :
    Prog Stmt Stmt.Res (Outside Stmt Query) (Outside.Answer Answer) Returned :=
  call.body.run

/-- The calls on the database. -/
abbrev System : Type :=
  Sys Db Write Empty Stmt Stmt.Res (Outside Stmt Query) (Outside.Answer Answer) Returned

/-- Scheduler choices. -/
abbrev Choice : Type :=
  Label (Outside.Answer Answer : Outside Stmt Query → Type)

/-- Calls before their first step. -/
def opening (tick : Nat) (db : Db) (calls : Nat → Call) : System :=
  ⟨db, tick, [], fun i => ⟨some (calls i).run, none⟩, []⟩

end FireIsp.Alerts
