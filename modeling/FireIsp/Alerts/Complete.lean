import FireIsp.Alerts.Evaluation
import FireIsp.Alerts.Outages

/-!
# When an evaluation misses no breach

A rule reports through a single result.  An evaluation records the breaches of the devices of its
organization, and of no other one, exactly when no rule is breached by a device of the organization
behind the first row of its query, and that row is of no other organization.
-/

namespace FireIsp.Alerts

open Txn Client

variable {arrange : List (Option Nat) → List (Option Nat)} {same : String → String → Bool}
  {tick : Nat} {db db' : Db} {rule : Rule} {organizationId : Nat}

/-- Events of a rule and a device that are in one state and were not in an earlier one. -/
def eventsOf (db db' : Db) (rule : Rule) (deviceId : Nat) : Nat :=
  (db'.alertEvents.drop db.alertEvents.length).countP fun event =>
    event.key = (rule.id, some deviceId)

def Complete (organizationId : Nat) (db db' : Db) : Prop :=
  ∀ rule ∈ db.enabledRules organizationId, rule.metric.Allowed →
    (∀ deviceId, db.readings.Owns organizationId (some deviceId) →
      rule.AppliesTo (some deviceId) → db.readings.Breaching rule (some deviceId) →
      eventsOf db db' rule deviceId = 1) ∧
    ∀ deviceId, db.readings.Foreign organizationId (some deviceId) →
      eventsOf db db' rule deviceId = 0

/-- Only the first row that breaches a rule may be of the organization, and its average fits. -/
def Lone (arrange : List (Option Nat) → List (Option Nat)) (readings : Readings)
    (organizationId : Nat) (rule : Rule) : Prop :=
  ∀ first rest, breaches arrange readings rule = first :: rest →
    (∀ other ∈ rest, ¬readings.Owns organizationId other.deviceId) ∧
    (readings.Owns organizationId first.deviceId → Storable first.currentValue) ∧
    (Storable first.currentValue → ¬readings.Foreign organizationId first.deviceId)

theorem fst_of_mem_keys {readings : Readings} {key : Nat × Option Nat}
    (h : key ∈ rule.keys arrange readings) : key.1 = rule.id := by
  unfold Rule.keys at h
  split_ifs at h
  · cases hfirst : (breaches arrange readings rule).head? with
    | none =>
      rw [hfirst] at h
      exact absurd h List.not_mem_nil
    | some breach =>
      rw [hfirst] at h
      change key ∈ breach.keys rule at h
      unfold Breach.keys at h
      split_ifs at h
      · exact congrArg Prod.fst (List.mem_singleton.mp h)
      · exact absurd h List.not_mem_nil
  · exact absurd h List.not_mem_nil

theorem count_flatMap_keys {readings : Readings} {rules : List Rule}
    (hkeyed : Table.Keyed Rule.id rules) (hrule : rule ∈ rules) (deviceId : Option Nat) :
    (rules.flatMap fun rule => rule.keys arrange readings).count (rule.id, deviceId) =
      (rule.keys arrange readings).count (rule.id, deviceId) := by
  -- Rules of other ids leave no such event.
  have hother : ∀ rules : List Rule, rule.id ∉ rules.map Rule.id →
      (rules.flatMap fun rule => rule.keys arrange readings).count (rule.id, deviceId) = 0 := by
    intro rules hnot
    refine List.count_eq_zero.mpr fun hmem => ?_
    obtain ⟨other, hmem, hkey⟩ := List.mem_flatMap.mp hmem
    have hid : rule.id = other.id := fst_of_mem_keys hkey
    exact hnot (List.mem_map.mpr ⟨other, hmem, hid.symm⟩)
  induction rules with
  | nil => exact absurd hrule List.not_mem_nil
  | cons head rules ih =>
    obtain ⟨hhead, hrest⟩ := List.nodup_cons.mp hkeyed
    rw [List.flatMap_cons, List.count_append]
    rcases List.mem_cons.mp hrule with rfl | hmem
    · rw [hother rules hhead, Nat.add_zero]
    · have hne : rule.id ≠ head.id := fun hid =>
        hhead (hid ▸ List.mem_map_of_mem hmem)
      have hnone : (head.keys arrange readings).count (rule.id, deviceId) = 0 :=
        List.count_eq_zero.mpr fun hkey => hne (fst_of_mem_keys hkey)
      rw [hnone, Nat.zero_add, ih hrest hmem]

theorem eventsOf_eq (hkeyed : Table.Keyed Rule.id db.rules)
    (hadds : Adds ((db.enabledRules organizationId).flatMap fun rule =>
      rule.keys arrange db.readings) db db')
    (hrule : rule ∈ db.enabledRules organizationId) (deviceId : Nat) :
    eventsOf db db' rule deviceId =
      (rule.keys arrange db.readings).count (rule.id, some deviceId) := by
  obtain ⟨news, hnews, hkeys⟩ := hadds.events
  have henabled : Table.Keyed Rule.id (db.enabledRules organizationId) :=
    hkeyed.sublist (List.filter_sublist.map _)
  rw [eventsOf, hnews, List.drop_left, ← count_flatMap_keys henabled hrule, ← hkeys, List.count,
    List.countP_map]
  refine List.countP_congr fun event _ => ?_
  simp [AlertEvent.key]

theorem count_keys (hallowed : rule.metric.Allowed) {first : Breach} {rest : List Breach}
    (hbreaches : breaches arrange db.readings rule = first :: rest) (deviceId : Nat) :
    (rule.keys arrange db.readings).count (rule.id, some deviceId) =
      if Storable first.currentValue ∧ first.deviceId = some deviceId then 1 else 0 := by
  rw [Rule.keys, if_pos hallowed, hbreaches]
  change (first.keys rule).count (rule.id, some deviceId) = _
  unfold Breach.keys
  by_cases hfits : Storable first.currentValue
  · rw [if_pos hfits, List.count_singleton]
    by_cases hdevice : first.deviceId = some deviceId
    · simp [hfits, hdevice]
    · simp [hdevice]
  · rw [if_neg hfits, if_neg fun h => hfits h.1]
    rfl

theorem count_keys_nil (hbreaches : breaches arrange db.readings rule = []) (deviceId : Nat) :
    (rule.keys arrange db.readings).count (rule.id, some deviceId) = 0 := by
  unfold Rule.keys
  rw [hbreaches]
  split_ifs <;> rfl

/-- An evaluation is complete exactly when every rule is `Lone`. -/
theorem complete_iff (harrange : ∀ keys, (arrange keys).Perm keys)
    (hkeyed : Table.Keyed Rule.id db.rules)
    (hadds : Adds ((db.enabledRules organizationId).flatMap fun rule =>
      rule.keys arrange db.readings) db db') :
    Complete organizationId db db' ↔ ∀ rule ∈ db.enabledRules organizationId,
      rule.metric.Allowed → Lone arrange db.readings organizationId rule := by
  constructor
  · intro hcomplete rule hrule hallowed first rest hbreaches
    obtain ⟨howned, hforeign⟩ := hcomplete rule hrule hallowed
    have hcount := fun deviceId => (eventsOf_eq hkeyed hadds hrule deviceId).trans
      (count_keys hallowed hbreaches deviceId)
    -- A device of the organization that breaches the rule is the first row, and it is stored.
    have hfirst : ∀ breach ∈ first :: rest,
        db.readings.Owns organizationId breach.deviceId →
        Storable first.currentValue ∧ first.deviceId = breach.deviceId := by
      intro breach hmem howns
      obtain ⟨device, hdevice, hid, horganization⟩ := howns
      have hbreach : ∃ other ∈ breaches arrange db.readings rule,
          other.deviceId = breach.deviceId := ⟨breach, hbreaches ▸ hmem, rfl⟩
      obtain ⟨happlies, hbreaching⟩ := (mem_breaches harrange).mp hbreach
      rw [← hid] at happlies hbreaching
      have hone := howned device.id ⟨device, hdevice, rfl, horganization⟩ happlies hbreaching
      rw [hcount] at hone
      split_ifs at hone with h
      exact ⟨h.1, h.2.trans hid⟩
    refine ⟨fun other hother howns => ?_, fun howns => ?_, fun hfits hother => ?_⟩
    · have hnodup : ((breaches arrange db.readings rule).map Breach.deviceId).Nodup :=
        nodup_breaches harrange
      rw [hbreaches] at hnodup
      have hsame := (hfirst other (List.mem_cons_of_mem _ hother) howns).2
      exact (List.nodup_cons.mp hnodup).1 (hsame ▸ List.mem_map_of_mem hother)
    · exact (hfirst first List.mem_cons_self howns).1
    · obtain ⟨device, hdevice, hid, hrest⟩ := hother
      have hnone := hforeign device.id ⟨device, hdevice, rfl, hrest⟩
      rw [hcount, if_pos ⟨hfits, hid.symm⟩] at hnone
      exact nomatch hnone
  · intro hlone rule hrule hallowed
    have hevents := eventsOf_eq hkeyed hadds hrule
    refine ⟨fun deviceId howns happlies hbreaching => ?_, fun deviceId hforeign => ?_⟩
    · obtain ⟨breach, hmem, hdevice⟩ := (mem_breaches harrange).mpr ⟨happlies, hbreaching⟩
      cases hbreaches : breaches arrange db.readings rule with
      | nil =>
        rw [hbreaches] at hmem
        exact absurd hmem List.not_mem_nil
      | cons first rest =>
        obtain ⟨hbehind, hfits, -⟩ := hlone rule hrule hallowed first rest hbreaches
        rw [hbreaches] at hmem
        rw [← hdevice] at howns
        rcases List.mem_cons.mp hmem with rfl | hrest
        · rw [hevents, count_keys hallowed hbreaches, if_pos ⟨hfits howns, hdevice⟩]
        · exact absurd howns (hbehind breach hrest)
    · rw [hevents]
      cases hbreaches : breaches arrange db.readings rule with
      | nil => exact count_keys_nil hbreaches deviceId
      | cons first rest =>
        obtain ⟨-, -, hother⟩ := hlone rule hrule hallowed first rest hbreaches
        rw [count_keys hallowed hbreaches]
        refine if_neg fun h => hother h.1 ?_
        rw [h.2]
        exact hforeign

/-- A rule of the first organization about the CPU of all devices. -/
def sampleRule : Rule where
  id := 1
  organizationId := 1
  name := "CPU"
  metric := .cpuUsage
  operator := .above
  threshold := 8050
  deviceId := none
  durationMinutes := 5
  severity := .critical
  autoCreateOutage := true
  autoCreateTicket := false
  isEnabled := true

def polled (deviceId : Nat) (cpu : Rat) : Sample :=
  ⟨deviceId, 600, fun metric => if metric = .cpuUsage then some cpu else none⟩

/-- Two devices of the first organization and one of the second, and what was polled. -/
def sampleDb (samples : List Sample) : Db where
  rules := [sampleRule]
  readings :=
    { now := 600
      snmpMetrics := samples
      snapshots := []
      devices := [⟨1, some 1, none⟩, ⟨2, some 1, none⟩, ⟨3, some 2, none⟩]
      windows := [] }
  alertEvents := []
  outages := []

/-- Only the first device is above the threshold. -/
def oneHot : Db := sampleDb [polled 1 95, polled 2 20, polled 3 30]

/-- Two devices of the first organization and one of the second are above it. -/
def allHot : Db := sampleDb [polled 3 99, polled 1 95, polled 2 90]

/-- The order in which devices were first seen. -/
def asSeen (keys : List (Option Nat)) : List (Option Nat) := keys

def equalTitles (a b : String) : Bool := a == b

/-- Nothing raises. -/
def calmWorld : (q : Outside Stmt Query) → Outside.Answer Answer q
  | .raises _ => false
  | .fails _ => false
  | .about _ => ()

theorem calmWorld_calm (q : Outside Stmt Query) : Calm q (calmWorld q) := by
  cases q <;> trivial

theorem sampleDb_orderly (samples : List Sample) : Orderly 1 (sampleDb samples) :=
  ⟨List.nodup_singleton _, List.nodup_nil, nofun, nofun, nofun⟩

theorem breaches_oneHot :
    breaches asSeen oneHot.readings sampleRule =
      [⟨some 1, 95, sampleRule.limit, .above, .cpuUsage⟩] := by
  decide +kernel

/-- Two evaluations of the first organization. -/
def twoEvaluations : Nat → Call := fun _ => .evaluate 1

/-- One after the other. -/
def inTurn : List Choice :=
  (List.replicate 20 (.step 0 calmWorld)) ++ List.replicate 20 (.step 1 calmWorld)

/-- Both evaluations go on in turn. -/
def besideEachOther : List Choice :=
  (List.replicate 20 [.step 0 calmWorld, .step 1 calmWorld]).flatten

end FireIsp.Alerts
