import Mathlib.Algebra.Order.Ring.Rat
import Mathlib.Data.Rat.Floor
import FireIsp.Base.Calendar
import FireIsp.Base.Table

/-!
# Alert rules and what they are compared with

Rules, polled metrics, daily snapshots, devices and maintenance windows.  A rule looks at the
average of a metric over a window of time, one average for each device.
-/

namespace FireIsp.Alerts

/-- Metrics a rule may name. -/
inductive Metric
  | cpuUsage | memoryUsage | signalStrength | latencyMs | packetLoss | uptime | ifInOctets
  | ifOutOctets | voltageMv | temperatureC | fanSpeedRpm | ifInDiscards | ifOutDiscards
  | sfpTxPowerDbm | sfpRxPowerDbm | sfpTemperatureC | upsBatteryPct | upsRuntimeMin | poePowerMw
  | humidityPct
  | other (name : String)
  deriving DecidableEq

namespace Metric

def name : Metric → String
  | cpuUsage => "cpu_usage"
  | memoryUsage => "memory_usage"
  | signalStrength => "signal_strength"
  | latencyMs => "latency_ms"
  | packetLoss => "packet_loss"
  | uptime => "uptime"
  | ifInOctets => "if_in_octets"
  | ifOutOctets => "if_out_octets"
  | voltageMv => "voltage_mv"
  | temperatureC => "temperature_c"
  | fanSpeedRpm => "fan_speed_rpm"
  | ifInDiscards => "if_in_discards"
  | ifOutDiscards => "if_out_discards"
  | sfpTxPowerDbm => "sfp_tx_power_dbm"
  | sfpRxPowerDbm => "sfp_rx_power_dbm"
  | sfpTemperatureC => "sfp_temperature_c"
  | upsBatteryPct => "ups_battery_pct"
  | upsRuntimeMin => "ups_runtime_min"
  | poePowerMw => "poe_power_mw"
  | humidityPct => "humidity_pct"
  | other name => name

/-- `ALLOWED_METRICS` -/
def Allowed : Metric → Prop
  | other _ => False
  | _ => True

instance : DecidablePred Allowed := fun metric => by
  cases metric <;> unfold Allowed <;> infer_instance

end Metric

/-- Comparisons of a rule. -/
inductive Operator
  | above | atLeast | below | atMost | near
  | other (text : String)
  deriving DecidableEq

namespace Operator

/-- How it is written. -/
def text : Operator → String
  | above => ">"
  | atLeast => ">="
  | below => "<"
  | atMost => "<="
  | near => "=="
  | other text => text

def Breached : Operator → Rat → Rat → Prop
  | above, value, threshold => threshold < value
  | atLeast, value, threshold => threshold ≤ value
  | below, value, threshold => value < threshold
  | atMost, value, threshold => value ≤ threshold
  | near, value, threshold => |value - threshold| < 1 / 1000
  | other _, _, _ => False

instance (operator : Operator) (value threshold : Rat) :
    Decidable (operator.Breached value threshold) := by
  cases operator <;> unfold Breached <;> infer_instance

end Operator

/-- Severities of a rule. -/
inductive Severity
  | info
  | warning
  | major
  | critical
  deriving DecidableEq

/-- A row of `alert_rules`. -/
structure Rule where
  id : Nat
  organizationId : Nat
  name : String
  metric : Metric
  operator : Operator
  threshold : Int
  /-- The one device it is about; all devices if there is none. -/
  deviceId : Option Nat
  durationMinutes : Nat
  severity : Severity
  autoCreateOutage : Bool
  autoCreateTicket : Bool
  isEnabled : Bool
  deriving DecidableEq

/-- `parseFloat(threshold)` -/
def Rule.limit (rule : Rule) : Rat := rule.threshold / 100

def Rule.AppliesTo (rule : Rule) (deviceId : Option Nat) : Prop :=
  rule.deviceId = none ∨ rule.deviceId = deviceId

instance (rule : Rule) (deviceId : Option Nat) : Decidable (rule.AppliesTo deviceId) :=
  inferInstanceAs (Decidable (_ ∨ _))

/-- A row of `snmp_metrics`. -/
structure Sample where
  deviceId : Nat
  polledAt : Nat
  value : Metric → Option Rat

/-- A row of `network_health_snapshots`. -/
structure Snapshot where
  deviceId : Option Nat
  snapshotDate : Nat
  packetLossPct : Option Rat
  uptimePct : Option Rat

/-- A row of `devices`. -/
structure Device where
  id : Nat
  organizationId : Option Nat
  siteId : Option Nat
  deriving DecidableEq

inductive WindowStatus
  | scheduled
  | active
  | completed
  | cancelled
  deriving DecidableEq

/-- A row of `maintenance_windows` that is not deleted. -/
structure Window where
  id : Nat
  organizationId : Option Nat
  deviceId : Option Nat
  siteId : Option Nat
  startsAt : Nat
  endsAt : Nat
  status : WindowStatus

/-- What rules are compared with. -/
structure Readings where
  now : Nat
  snmpMetrics : List Sample
  snapshots : List Snapshot
  devices : List Device
  windows : List Window

/-- One row of the grouped query of a rule. -/
structure Group where
  deviceId : Option Nat
  /-- `avg_value`; `NULL` if the group has no value. -/
  avgValue : Option Rat

/-- `AVG`, of the values that are not `NULL`. -/
def average (values : List Rat) : Option Rat :=
  if values = [] then none else some (values.sum / values.length)

namespace Readings

/-- `CURDATE()` -/
def today (readings : Readings) : Nat := readings.now / 86400

def recent (readings : Readings) (minutes : Nat) : List Sample :=
  readings.snmpMetrics.filter fun sample => readings.now ≤ sample.polledAt + minutes * 60

def daily (readings : Readings) : List Snapshot :=
  readings.snapshots.filter fun snapshot => readings.today ≤ snapshot.snapshotDate + 1

def measured (readings : Readings) (rule : Rule) : List (Option Nat × Option Rat) :=
  match rule.metric with
  | .packetLoss => readings.daily.map fun snapshot => (snapshot.deviceId, snapshot.packetLossPct)
  | .uptime => readings.daily.map fun snapshot => (snapshot.deviceId, snapshot.uptimePct)
  | metric =>
    let minutes := if rule.durationMinutes = 0 then 5 else rule.durationMinutes
    (readings.recent minutes).map fun sample => (some sample.deviceId, sample.value metric)

def windowedAverage (readings : Readings) (rule : Rule) (deviceId : Option Nat) : Option Rat :=
  average (((readings.measured rule).filter fun row => row.1 = deviceId).filterMap Prod.snd)

/-- The rows of the grouped query of a rule, in the order in which the server gives them. -/
def groups (arrange : List (Option Nat) → List (Option Nat)) (readings : Readings) (rule : Rule) :
    List Group :=
  let rows := (readings.measured rule).filter fun row => rule.AppliesTo row.1
  (arrange (rows.map Prod.fst).dedup).map fun deviceId =>
    ⟨deviceId, average ((rows.filter fun row => row.1 = deviceId).filterMap Prod.snd)⟩

def Owns (readings : Readings) (organizationId : Nat) (deviceId : Option Nat) : Prop :=
  ∃ device ∈ readings.devices, some device.id = deviceId ∧
    device.organizationId = some organizationId

def Foreign (readings : Readings) (organizationId : Nat) (deviceId : Option Nat) : Prop :=
  ∃ device ∈ readings.devices, some device.id = deviceId ∧
    ∃ other, device.organizationId = some other ∧ other ≠ organizationId

def siteOf (readings : Readings) (deviceId : Nat) : Option Nat :=
  (Table.find Device.id deviceId readings.devices).bind Device.siteId

def Covers (readings : Readings) (organizationId deviceId : Nat) (window : Window) : Prop :=
  window.organizationId = some organizationId ∧
  (window.deviceId = some deviceId ∨
    window.deviceId = none ∧ window.siteId ≠ none ∧
      window.siteId = readings.siteOf deviceId ∨
    window.deviceId = none ∧ window.siteId = none) ∧
  (window.status = .active ∨ window.status = .scheduled) ∧
  window.startsAt ≤ readings.now ∧ readings.now ≤ window.endsAt

instance (readings : Readings) (organizationId deviceId : Nat) (window : Window) :
    Decidable (readings.Covers organizationId deviceId window) :=
  inferInstanceAs (Decidable (_ ∧ _))

def activeMaintenanceWindowId (readings : Readings) (organizationId deviceId : Nat) : Option Nat :=
  (readings.windows.find? fun window => readings.Covers organizationId deviceId window).map
    Window.id

end Readings

structure Breach where
  deviceId : Option Nat
  currentValue : Rat
  threshold : Rat
  operator : Operator
  metric : Metric
  deriving DecidableEq

/-- A row of the grouped query, if it breaches the rule. -/
def Group.breach (rule : Rule) (group : Group) : Option Breach :=
  group.avgValue.bind fun value =>
    if rule.operator.Breached value rule.limit then
      some ⟨group.deviceId, value, rule.limit, rule.operator, rule.metric⟩
    else none

/-- A number with two decimals, as the host language writes it. -/
def hundredthsText (hundredths : Int) : String :=
  let fraction := hundredths.natAbs % 100
  (if hundredths < 0 then "-" else "") ++ toString (hundredths.natAbs / 100) ++
    if fraction = 0 then ""
    else "." ++ if fraction % 10 = 0 then toString (fraction / 10) else Calendar.padded 2 fraction

def Rule.title (rule : Rule) : String :=
  "Alert: " ++ rule.name ++ " — " ++ rule.metric.name ++ " " ++ rule.operator.text ++ " " ++
    hundredthsText rule.threshold

end FireIsp.Alerts
