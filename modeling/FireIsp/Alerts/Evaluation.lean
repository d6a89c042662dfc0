import FireIsp.Alerts.Service
import FireIsp.Base.Always
import Mathlib.Data.List.Dedup

/-!
# Which devices breach a rule

The grouped query of a rule has one row for each device it has measured, so the rows that breach the
rule are the devices whose average does, each of them once.
-/

namespace FireIsp.Alerts

variable {arrange : List (Option Nat) → List (Option Nat)} {readings : Readings} {rule : Rule}
  {deviceId : Option Nat}

def Readings.Breaching (readings : Readings) (rule : Rule) (deviceId : Option Nat) : Prop :=
  ∃ value ∈ readings.windowedAverage rule deviceId, rule.operator.Breached value rule.limit

/-- The rows of the grouped query that breach the rule. -/
def breaches (arrange : List (Option Nat) → List (Option Nat)) (readings : Readings) (rule : Rule) :
    List Breach :=
  (readings.groups arrange rule).filterMap (Group.breach rule)

theorem filter_applies (h : rule.AppliesTo deviceId) (rows : List (Option Nat × Option Rat)) :
    ((rows.filter fun row => rule.AppliesTo row.1).filter fun row => row.1 = deviceId) =
      rows.filter fun row => row.1 = deviceId := by
  rw [List.filter_filter]
  refine List.filter_congr fun row _ => ?_
  by_cases hrow : row.1 = deviceId
  · simp [hrow, h]
  · simp [hrow]

theorem mem_groups (harrange : ∀ keys, (arrange keys).Perm keys) {group : Group} :
    group ∈ readings.groups arrange rule ↔ rule.AppliesTo group.deviceId ∧
      group.deviceId ∈ (readings.measured rule).map Prod.fst ∧
      group.avgValue = readings.windowedAverage rule group.deviceId := by
  have hkey : ∀ deviceId, deviceId ∈
      arrange ((((readings.measured rule).filter fun row => rule.AppliesTo row.1).map
        Prod.fst).dedup) ↔
      rule.AppliesTo deviceId ∧ deviceId ∈ (readings.measured rule).map Prod.fst := by
    intro deviceId
    rw [(harrange _).mem_iff, List.mem_dedup, List.mem_map, List.mem_map]
    constructor
    · rintro ⟨row, hrow, rfl⟩
      obtain ⟨hrow, happlies⟩ := List.mem_filter.mp hrow
      exact ⟨of_decide_eq_true happlies, row, hrow, rfl⟩
    · rintro ⟨happlies, row, hrow, rfl⟩
      exact ⟨row, List.mem_filter.mpr ⟨hrow, decide_eq_true happlies⟩, rfl⟩
  unfold Readings.groups Readings.windowedAverage
  rw [List.mem_map]
  constructor
  · rintro ⟨deviceId, hdevice, rfl⟩
    obtain ⟨happlies, hmeasured⟩ := (hkey deviceId).mp hdevice
    exact ⟨happlies, hmeasured, by rw [filter_applies happlies]⟩
  · rintro ⟨happlies, hmeasured, havg⟩
    refine ⟨group.deviceId, (hkey _).mpr ⟨happlies, hmeasured⟩, ?_⟩
    rw [filter_applies happlies, ← havg]

theorem measured_of_average {value : Rat} (h : readings.windowedAverage rule deviceId = some value) :
    deviceId ∈ (readings.measured rule).map Prod.fst := by
  by_contra hnone
  have hempty : (readings.measured rule).filter (fun row => row.1 = deviceId) = [] := by
    refine List.filter_eq_nil_iff.mpr fun row hrow hsame => hnone ?_
    exact List.mem_map.mpr ⟨row, hrow, of_decide_eq_true hsame⟩
  rw [Readings.windowedAverage, hempty, List.filterMap_nil, average, if_pos rfl] at h
  exact nomatch h

theorem breach_eq_some {group : Group} {breach : Breach} :
    group.breach rule = some breach ↔ ∃ value, group.avgValue = some value ∧
      rule.operator.Breached value rule.limit ∧
      breach = ⟨group.deviceId, value, rule.limit, rule.operator, rule.metric⟩ := by
  unfold Group.breach
  cases havg : group.avgValue with
  | none => simp
  | some value =>
    rw [Option.bind_some]
    split_ifs with hbreached
    · simp [hbreached, eq_comm]
    · simp [hbreached]

theorem mem_breaches (harrange : ∀ keys, (arrange keys).Perm keys) :
    (∃ breach ∈ breaches arrange readings rule, breach.deviceId = deviceId) ↔
      rule.AppliesTo deviceId ∧ readings.Breaching rule deviceId := by
  unfold breaches
  constructor
  · rintro ⟨breach, hbreach, rfl⟩
    obtain ⟨group, hgroup, hsome⟩ := List.mem_filterMap.mp hbreach
    obtain ⟨value, havg, hbreached, rfl⟩ := breach_eq_some.mp hsome
    obtain ⟨happlies, -, hvalue⟩ := (mem_groups harrange).mp hgroup
    exact ⟨happlies, value, hvalue.symm.trans havg, hbreached⟩
  · rintro ⟨happlies, value, hvalue, hbreached⟩
    have hgroup : (⟨deviceId, some value⟩ : Group) ∈ readings.groups arrange rule :=
      (mem_groups harrange).mpr ⟨happlies, measured_of_average hvalue, hvalue.symm⟩
    refine ⟨_, List.mem_filterMap.mpr ⟨_, hgroup, breach_eq_some.mpr ⟨value, rfl, hbreached, rfl⟩⟩,
      rfl⟩

theorem nodup_breaches (harrange : ∀ keys, (arrange keys).Perm keys) :
    ((breaches arrange readings rule).map Breach.deviceId).Nodup := by
  have hgroups : ((readings.groups arrange rule).map Group.deviceId).Nodup := by
    unfold Readings.groups
    rw [List.map_map]
    exact ((harrange _).nodup_iff.mpr (List.nodup_dedup _)).map fun _ _ h => h
  have hsub : ∀ groups : List Group,
      ((groups.filterMap (Group.breach rule)).map Breach.deviceId).Sublist
        (groups.map Group.deviceId) := by
    intro groups
    induction groups with
    | nil => exact List.Sublist.refl _
    | cons group groups ih =>
      rw [List.map_cons, List.filterMap_cons]
      cases hbreach : group.breach rule with
      | none => exact ih.cons _
      | some breach =>
        obtain ⟨value, -, -, rfl⟩ := breach_eq_some.mp hbreach
        exact ih.cons_cons _
  exact hgroups.sublist (hsub _)

end FireIsp.Alerts

/-!
## What an evaluation records

An evaluation that nothing interrupts appends at most one event for each enabled rule, that of the
first row of the grouped query that breaches the rule.
-/

namespace FireIsp.Alerts

open Txn Client Throwing

variable {arrange : List (Option Nat) → List (Option Nat)} {same : String → String → Bool}
  {db db' db'' : Db} {rule : Rule} {breach : Breach} {organizationId : Nat}

/-- No statement raises by itself. -/
def Calm : (q : Outside Stmt Query) → Outside.Answer Answer q → Prop
  | .raises _, raised => raised = false
  | .fails _, _ => True
  | .about _, _ => True

def AlertEvent.key (event : AlertEvent) : Nat × Option Nat := (event.alertRuleId, event.deviceId)

/-- Events are appended, and the rules and what they are compared with stay. -/
structure Adds (keys : List (Nat × Option Nat)) (db db' : Db) : Prop where
  rules : db'.rules = db.rules
  readings : db'.readings = db.readings
  events : ∃ news, db'.alertEvents = db.alertEvents ++ news ∧ news.map AlertEvent.key = keys

theorem Adds.refl : Adds [] db db := ⟨rfl, rfl, [], (List.append_nil _).symm, rfl⟩

theorem Adds.trans {keys keys' : List (Nat × Option Nat)} (h : Adds keys db db')
    (h' : Adds keys' db' db'') : Adds (keys ++ keys') db db'' := by
  obtain ⟨news, hnews, rfl⟩ := h.events
  obtain ⟨news', hnews', rfl⟩ := h'.events
  refine ⟨h'.rules.trans h.rules, h'.readings.trans h.readings, news ++ news', ?_,
    List.map_append⟩
  rw [hnews', hnews, List.append_assoc]

/-- The event a breach leaves. -/
def Breach.keys (rule : Rule) (breach : Breach) : List (Nat × Option Nat) :=
  if Storable breach.currentValue then [(rule.id, breach.deviceId)] else []

/-- The event a rule leaves. -/
def Rule.keys (arrange : List (Option Nat) → List (Option Nat)) (readings : Readings)
    (rule : Rule) : List (Nat × Option Nat) :=
  if rule.metric.Allowed then
    ((breaches arrange readings rule).head?.map (Breach.keys rule)).getD []
  else []

theorem meets_read {op : Stmt} {post : Except Failure op.Res → Db → Prop}
    (hread : ∀ tick, (exec arrange same op tick db db).2 = [])
    (h : ∀ tick, post (.ok (exec arrange same op tick db db).1) db) :
    Meets (engine arrange same) Calm .pool (statement op) db post := by
  refine meets_statement_of (fun hraised => nomatch hraised) fun tick => ?_
  change post _ ((engine arrange same).visible db (exec arrange same op tick db db).2)
  rw [hread tick]
  exact h tick

theorem meets_checkRule {post : Except Failure (Option Breach) → Db → Prop}
    (hallowed : rule.metric.Allowed → post (.ok (breaches arrange db.readings rule).head?) db)
    (hrefused : ¬rule.metric.Allowed → post (.ok none) db) :
    Meets (engine arrange same) Calm .pool (checkRule rule) db post := by
  unfold checkRule
  split_ifs with h
  · refine meets_bind (meets_read (fun _ => rfl) fun tick => meets_pure ?_)
    change post (.ok ((db.readings.groups arrange rule).findSome? (Group.breach rule))) db
    rw [← List.head?_filterMap]
    exact hallowed h
  · exact meets_pure (hrefused h)

theorem meets_activeWindow {deviceId : Option Nat} {post : Except Failure (Option Nat) → Db → Prop}
    (h : ∀ window, post (.ok window) db) :
    Meets (engine arrange same) Calm .pool (activeWindow organizationId deviceId) db post := by
  cases deviceId with
  | none => exact meets_pure (h none)
  | some deviceId => exact meets_read (fun _ => rfl) fun _ => h _

theorem adds_recorded (tick organizationId : Nat) (windowId : Option Nat) :
    Adds (breach.keys rule) db ((engine arrange same).visible db
      (recorded tick organizationId rule breach windowId db).2) ∧
    ((recorded tick organizationId rule breach windowId db).1 = none → breach.keys rule = []) := by
  unfold recorded Breach.keys
  split_ifs with h
  · exact ⟨⟨rfl, rfl, _, rfl, rfl⟩, nofun⟩
  · exact ⟨Adds.refl, fun _ => rfl⟩

theorem meets_recordBreach :
    Meets (engine arrange same) Calm .pool (recordBreach organizationId rule breach) db
      fun _ db' => Adds (breach.keys rule) db db' := by
  refine meets_bind (meets_activeWindow fun window => ?_)
  cases window with
  | some windowId =>
    refine meets_bind (meets_swallowed (meets_bind (meets_statement_of
      (fun hraised => nomatch hraised) fun tick => ?_)))
    have hadds : Adds (breach.keys rule) db ((engine arrange same).visible db
        (recorded tick organizationId rule breach (some windowId) db).2) :=
      (adds_recorded tick organizationId (some windowId)).1
    exact meets_bind (meets_orThrow (fun _ => meets_pure hadds)
      fun _ _ => meets_pure (meets_pure hadds))
  | none =>
    refine meets_bind (meets_bind (meets_statement_of (fun hraised => nomatch hraised)
      fun tick => ?_))
    have hadds : Adds (breach.keys rule) db ((engine arrange same).visible db
        (recorded tick rule.organizationId rule breach none db).2) :=
      (adds_recorded tick rule.organizationId none).1
    exact meets_orThrow (fun _ => hadds) fun _ _ => meets_pure hadds

theorem meets_checkAndRecord :
    Meets (engine arrange same) Calm .pool (checkAndRecord organizationId rule) db
      fun _ db' => Adds (rule.keys arrange db.readings) db db' := by
  refine meets_bind (meets_checkRule (fun hallowed => ?_) fun hrefused => ?_)
  · rw [Rule.keys, if_pos hallowed]
    cases (breaches arrange db.readings rule).head? with
    | none => exact meets_pure Adds.refl
    | some breach => exact meets_recordBreach
  · rw [Rule.keys, if_neg hrefused]
    exact meets_pure Adds.refl

theorem meets_onlyIf {condition : Bool} {part : Body Unit} {post : Except Failure Unit → Db → Prop}
    (hpart : Meets (engine arrange same) Calm .pool part db post) (hskip : post (.ok ()) db) :
    Meets (engine arrange same) Calm .pool (onlyIf condition part) db post := by
  unfold onlyIf
  split_ifs
  · exact hpart
  · exact meets_pure hskip

theorem meets_autoCreateOutage {deviceId : Nat} :
    Meets (engine arrange same) Calm .pool (autoCreateOutage organizationId rule deviceId) db
      fun returned db' => returned = .ok () ∧ Adds [] db db' := by
  refine meets_swallowed (meets_bind (meets_read (fun _ => rfl) fun tick => ?_))
  dsimp only
  split_ifs
  · exact meets_pure ⟨rfl, Adds.refl⟩
  · refine meets_bind (meets_statement_of (fun hraised => nomatch hraised) fun tick => ?_)
    have hadds : Adds [] db ((engine arrange same).visible db
        (outageInserted tick organizationId rule deviceId).2) := by
      unfold outageInserted
      cases rule.severity.ofOutage with
      | none => exact Adds.refl
      | some severity => exact ⟨rfl, rfl, [], (List.append_nil _).symm, rfl⟩
    exact meets_bind (meets_orThrow (fun _ => ⟨rfl, hadds⟩)
      fun _ _ => meets_asked fun _ _ => ⟨rfl, hadds⟩)

theorem meets_followUp {eventId : Nat} :
    Meets (engine arrange same) Calm .pool (followUp organizationId rule breach eventId) db
      fun _ db' => Adds [] db db' := by
  refine meets_bind (meets_read (fun _ => rfl) fun tick => ?_)
  refine meets_bind (meets_onlyIf (meets_asked fun _ _ => ?_) ?_) <;>
  · cases breach.deviceId with
    | none => exact meets_pure Adds.refl
    | some deviceId =>
      refine meets_bind (meets_onlyIf (meets_autoCreateOutage.mono ?_) ?_)
      · rintro _ db' ⟨rfl, hadds⟩
        exact meets_onlyIf (meets_asked fun _ _ => hadds) hadds
      · exact meets_onlyIf (meets_asked fun _ _ => Adds.refl) Adds.refl

theorem meets_evaluateRule :
    Meets (engine arrange same) Calm .pool (evaluateRule organizationId rule) db
      fun returned db' => (∃ verdict, returned = .ok verdict) ∧
        Adds (rule.keys arrange db.readings) db db' := by
  refine meets_bind (meets_attempted (meets_checkAndRecord.mono fun checked db' hadds => ?_))
  cases checked with
  | error error => exact meets_pure ⟨⟨_, rfl⟩, hadds⟩
  | ok verdict =>
    cases verdict with
    | quiet => exact meets_pure ⟨⟨_, rfl⟩, hadds⟩
    | suppressed => exact meets_pure ⟨⟨_, rfl⟩, hadds⟩
    | triggered breach eventId =>
      refine meets_bind (meets_swallowed (meets_followUp.mono fun _ db'' hmore => ?_))
      refine meets_pure ⟨⟨_, rfl⟩, ?_⟩
      have hall := hadds.trans hmore
      rwa [List.append_nil] at hall

theorem meets_evaluateRules (rules : List Rule) :
    Meets (engine arrange same) Calm .pool (evaluateRules organizationId rules) db
      fun returned db' => (∃ verdicts, returned = .ok verdicts) ∧
        Adds (rules.flatMap fun rule => rule.keys arrange db.readings) db db' := by
  induction rules generalizing db with
  | nil => exact meets_pure ⟨⟨_, rfl⟩, Adds.refl⟩
  | cons rule rules ih =>
    refine meets_bind (meets_evaluateRule.mono ?_)
    rintro _ db' ⟨⟨verdict, rfl⟩, hadds⟩
    refine meets_bind (ih.mono ?_)
    rintro _ db'' ⟨⟨verdicts, rfl⟩, hmore⟩
    rw [hadds.readings] at hmore
    exact meets_pure ⟨⟨_, rfl⟩, hadds.trans hmore⟩

theorem meets_evaluateAlerts :
    Meets (engine arrange same) Calm .pool (evaluateAlerts organizationId) db
      fun _ db' => Adds ((db.enabledRules organizationId).flatMap fun rule =>
        rule.keys arrange db.readings) db db' := by
  refine meets_bind (meets_read (fun _ => rfl) fun tick => ?_)
  refine meets_bind ((meets_evaluateRules (db.enabledRules organizationId)).mono ?_)
  rintro _ db' ⟨⟨verdicts, rfl⟩, hadds⟩
  exact meets_pure hadds

end FireIsp.Alerts
