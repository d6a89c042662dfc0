import FireIsp.Radius.Schema

/-!
# Reading an accounting packet

The first half of `ingestAccounting`: the checks on the attributes, the NAS and subscriber they
resolve to, the octet totals, the event time and the event type. A packet that passes them is an
`Observation`.
-/

namespace FireIsp.Radius

/-- What the code takes from its runtime. -/
structure Env where
  isIP : String → Nat
  /-- Host of the URL with an IPv6 address, without brackets and in lower case. -/
  urlHost : String → Option String
  /-- Text that stands for all texts the collation of the tables compares equal to it. -/
  collate : String → String
  /-- Order in which a query returns rows its `ORDER BY` leaves tied, by id. -/
  tieOrder : Nat → Nat
  /-- `RADIUS_ACCOUNTING_MAX_CLOCK_SKEW_SECONDS`, 0 when unset. -/
  maxClockSkewSeconds : Int
  /-- `RADIUS_SESSION_LIVENESS_MINUTES`, 0 when unset. -/
  sessionLivenessMinutes : Int

/-- `ValidationError`: a message, with the fields it concerns and what is wrong with each. -/
structure Invalid where
  message : String
  details : List (String × String)

/-- Equality of texts in a statement. -/
def Env.same (env : Env) (a b : String) : Prop := env.collate a = env.collate b

instance (env : Env) (a b : String) : Decidable (env.same a b) :=
  inferInstanceAs (Decidable (_ = _))

def maxSafeInteger : Nat := 9007199254740991

/-- Last instant of a MySQL `TIMESTAMP`, 2038-01-19T03:14:07Z. -/
def maximumTimestamp : Int := 2147483647000

/-- `futureSkew`, in milliseconds. -/
def Env.futureSkew (env : Env) : Int :=
  min (max (if env.maxClockSkewSeconds = 0 then 300 else env.maxClockSkewSeconds) 0) 3600 * 1000

/-- `livenessMinutes`, in milliseconds. -/
def Env.liveness (env : Env) : Nat :=
  (min (max (if env.sessionLivenessMinutes = 0 then 60 else env.sessionLivenessMinutes) 1)
    1440).toNat * 60000

def Env.canonicalIpv6 (env : Env) (value : String) : Option String :=
  if env.isIP value = 6 then env.urlHost value else none

/-- `canonicalIpv6Prefix`: the address before the last slash, and one to three digits after it. -/
def Env.canonicalIpv6Prefix (env : Env) (value : String) : Option String :=
  let text := (Text.trimmed value).reverse
  let digits := (text.takeWhile (· ≠ '/')).reverse
  match text.dropWhile (· ≠ '/') with
  | [] => none
  | _ :: address =>
    if Text.isDigits digits && decide (digits.length ≤ 3 ∧ Text.digitsValue digits ≤ 128) then
      (env.canonicalIpv6 (String.ofList address.reverse)).map fun host =>
        host ++ "/" ++ toString (Text.digitsValue digits)
    else none

def combineOctetsGigawords (octets gigawords : Option Nat) : Except Invalid Nat :=
  let o := octets.getD 0
  let g := gigawords.getD 0
  if maxSafeInteger < o ∨ maxSafeInteger < g then
    .error ⟨"RADIUS counters must be non-negative safe integers", []⟩
  else if maxSafeInteger < o + g * 4294967296 then
    .error ⟨"Combined RADIUS octet counter exceeds the supported safe-integer range", []⟩
  else .ok (o + g * 4294967296)

/-- `bytesIn` and `bytesOut`: no counter when neither attribute is sent. -/
def octetTotal (octets gigawords : Option Nat) : Except Invalid (Option Nat) :=
  if octets.isNone && gigawords.isNone then .ok none
  else (combineOctetsGigawords octets gigawords).map some

/-- Milliseconds of a timestamp in a supported form. -/
def EventTimestamp.date : EventTimestamp → Option Int
  | .number value => some (if value < 100000000000 then value * 1000 else value)
  | .iso ms => some ms
  | .malformed => none

/-- `normalizeEventTimestamp`, for a timestamp that was sent. -/
def normalizeEventTimestamp (env : Env) (now : Int) (timestamp : EventTimestamp) :
    Except Invalid Int :=
  match timestamp.date with
  | none => .error ⟨"Invalid accounting event timestamp",
      [("Event-Timestamp", "use Unix seconds or timezone-qualified ISO 8601")]⟩
  | some date =>
    if date < 0 ∨ maximumTimestamp < date ∨ now + env.futureSkew < date then
      .error ⟨"Invalid accounting event timestamp", [("Event-Timestamp",
        "Event-Timestamp is outside the supported 1970-01-01 through 2038-01-19 range")]⟩
    else .ok date

def terminateCauses : List (String × String) :=
  [("1", "User-Request"), ("2", "Lost-Carrier"), ("3", "Lost-Service"), ("4", "Idle-Timeout"),
    ("5", "Session-Timeout"), ("6", "Admin-Reset"), ("7", "Admin-Reboot"), ("8", "Port-Error"),
    ("9", "NAS-Error"), ("10", "NAS-Request"), ("11", "NAS-Reboot"), ("12", "Port-Unneeded"),
    ("13", "Port-Preempted"), ("14", "Port-Suspended"), ("15", "Service-Unavailable"),
    ("16", "Callback"), ("17", "User-Error"), ("18", "Host-Request")]

def normalizeTerminateCause : Option String → Except Invalid (Option String)
  | none => .ok none
  | some value =>
    let normalized := Text.trim value
    if value = "" then .ok none
    else if Text.isCanonicalInteger (Text.trimmed value) then
      .ok (some ((terminateCauses.lookup normalized).getD ("Code-" ++ normalized)))
    else if Text.isBlank value ∨ 64 < Text.units normalized then
      .error ⟨"Invalid Acct-Terminate-Cause", []⟩
    else .ok (some normalized)

/-- A packet that passed every check. -/
structure Observation where
  organizationId : Nat
  nasId : Nat
  userName : String
  acctSessionId : String
  eventType : EventType
  observedEventAt : Nat
  /-- Whether the packet states that time itself. -/
  hasExplicitEventTimestamp : Bool
  /-- Contract of the subscriber, 0 when unknown. -/
  contractId : Nat
  /-- Client of the subscriber, 0 when unknown. -/
  clientId : Nat
  callingStationId : Option String
  framedIp : Option String
  framedIpv6Prefix : Option String
  counters : Counters
  terminateCause : Option String
  deriving DecidableEq

/-- `throw new ValidationError(message)` unless `ok`. -/
def require (ok : Bool) (message : String) (details : List (String × String)) :
    Except Invalid Unit :=
  if ok then .ok () else .error ⟨message, details⟩

/-- A required string: not blank and within its length. -/
def requireString (field value : String) (maximum : Nat) : Except Invalid Unit :=
  require (!Text.isBlank value && decide (Text.units value ≤ maximum)) ("Invalid " ++ field) []

def requireLength (field : String) (value : Option String) (maximum : Nat) : Except Invalid Unit :=
  require (value.all fun value => decide (Text.units value ≤ maximum)) ("Invalid " ++ field) []

def requireCounter (field : String) (value : Option Nat) (maximum : Nat) : Except Invalid Unit :=
  require (value.all fun value => decide (value ≤ maximum)) ("Invalid " ++ field) []

/-- `framedIpv6Prefix` in canonical form. -/
def framedPrefix (env : Env) : Option String → Except Invalid (Option String)
  | none => .ok none
  | some raw =>
    match env.canonicalIpv6Prefix raw with
    | some canonical => .ok (some canonical)
    | none => .error ⟨"Invalid Framed-IPv6-Prefix", [("Framed-IPv6-Prefix",
        "expected a valid IPv6 CIDR prefix from /0 through /128")]⟩

/-- NAS and subscriber of a packet. -/
structure Resolved where
  nasId : Nat
  nasIp : String
  /-- The `radius` row, if the username is known. -/
  account : Option Account

/-- Rows of the query that resolves the NAS and looks up the subscriber. -/
def radiusRows (env : Env) (directory : Directory) (attrs : Attrs) : List Resolved :=
  let devices := directory.nas.filter fun nas =>
    decide (nas.organizationId = attrs.organizationId) && nas.active &&
      match attrs.nasId with
      | some id => decide (nas.id = id)
      | none => decide (env.same nas.ipAddress attrs.nasIpAddress)
  devices.flatMap fun nas =>
    match directory.accounts.filter fun account => decide (env.same account.username attrs.userName)
        && decide (account.organizationId = nas.organizationId) && account.live with
    | [] => [⟨nas.id, nas.ipAddress, none⟩]
    | accounts => accounts.map fun account => ⟨nas.id, nas.ipAddress, some account⟩

def normalizeIp (env : Env) (value : String) : Except Invalid String :=
  if env.isIP value = 6 then
    match env.canonicalIpv6 value with
    | some canonical => .ok canonical
    | none => .error ⟨"Expected an IPv6 address", []⟩
  else .ok value

/-- Resolution of the NAS: one live row, and its address when the caller named the NAS. -/
def resolveNas (env : Env) (directory : Directory) (attrs : Attrs) : Except Invalid Resolved := do
  match radiusRows env directory attrs with
  | [resolved] =>
    if attrs.nasId.isSome then
      let stored ← normalizeIp env resolved.nasIp
      let sent ← normalizeIp env attrs.nasIpAddress
      require (stored == sent) "NAS-IP-Address does not match the tenant-owned NAS" []
    pure resolved
  | _ => throw ⟨"Unable to resolve one live NAS for accounting ingest", []⟩

def statusTypeMap : String → Option EventType
  | "Start" => some .start
  | "Stop" => some .stop
  | "Interim-Update" => some .interimUpdate
  | _ => none

/-- `observedEventAt`: the time the packet states, or the time of receipt less its delay. -/
def observedEventAt (env : Env) (now : Int) (attrs : Attrs) : Except Invalid Int :=
  match attrs.eventTimestamp with
  | some timestamp => normalizeEventTimestamp env now timestamp
  | none => .ok (now - attrs.acctDelayTime.getD 0 * 1000)

/-- Checks on the attributes, before the NAS is resolved; the canonical prefix. -/
def checkAttrs (env : Env) (attrs : Attrs) : Except Invalid (Option String) := do
  require (decide (0 < attrs.organizationId ∧ attrs.organizationId ≤ maxSafeInteger))
    "Accounting ingest requires a tenant-owned NAS" []
  requireString "userName" attrs.userName 64
  requireString "acctSessionId" attrs.acctSessionId 64
  requireString "nasIpAddress" attrs.nasIpAddress 45
  require (env.isIP attrs.nasIpAddress != 0) "Invalid NAS-IP-Address" []
  let ipv6Prefix ← framedPrefix env attrs.framedIpv6Prefix
  requireLength "nasPortId" attrs.nasPortId 100
  requireLength "calledStationId" attrs.calledStationId 100
  requireLength "callingStationId" attrs.callingStationId 100
  requireLength "framedIpv6Prefix" ipv6Prefix 64
  require (attrs.framedIpAddress.all fun ip => env.isIP ip == 4) "Invalid Framed-IP-Address" []
  requireCounter "acctInputOctets" attrs.acctInputOctets maxSafeInteger
  requireCounter "acctOutputOctets" attrs.acctOutputOctets maxSafeInteger
  requireCounter "acctInputGigawords" attrs.acctInputGigawords maxSafeInteger
  requireCounter "acctOutputGigawords" attrs.acctOutputGigawords maxSafeInteger
  requireCounter "acctInputPackets" attrs.acctInputPackets maxSafeInteger
  requireCounter "acctOutputPackets" attrs.acctOutputPackets maxSafeInteger
  requireCounter "acctSessionTime" attrs.acctSessionTime 0xffffffff
  requireCounter "acctDelayTime" attrs.acctDelayTime 0xffffffff
  requireCounter "acctInputOctetsV6" attrs.acctInputOctetsV6 maxSafeInteger
  requireCounter "acctOutputOctetsV6" attrs.acctOutputOctetsV6 maxSafeInteger
  pure ipv6Prefix

/-- The packet as `ingestAccounting` reads it at time `now`. -/
def observe (env : Env) (directory : Directory) (now : Int) (attrs : Attrs) :
    Except Invalid Observation := do
  let ipv6Prefix ← checkAttrs env attrs
  let resolved ← resolveNas env directory attrs
  let bytesIn ← octetTotal attrs.acctInputOctets attrs.acctInputGigawords
  let bytesOut ← octetTotal attrs.acctOutputOctets attrs.acctOutputGigawords
  let eventAt ← observedEventAt env now attrs
  require (decide (0 ≤ eventAt ∧ 0 ≤ eventAt - attrs.acctSessionTime.getD 0 * 1000))
    "Acct-Session-Time exceeds the supported event chronology" []
  let terminateCause ← normalizeTerminateCause attrs.acctTerminateCause
  match statusTypeMap attrs.acctStatusType with
  | none => throw ⟨"Invalid Acct-Status-Type",
      [("Acct-Status-Type", "Acct-Status-Type must be Start, Interim-Update, or Stop")]⟩
  | some eventType =>
    pure {
      organizationId := attrs.organizationId
      nasId := resolved.nasId
      userName := attrs.userName
      acctSessionId := attrs.acctSessionId
      eventType := eventType
      observedEventAt := eventAt.toNat
      hasExplicitEventTimestamp := attrs.eventTimestamp.isSome
      contractId := (resolved.account.map Account.contractId).getD 0
      clientId := (resolved.account.map Account.clientId).getD 0
      callingStationId := attrs.callingStationId
      framedIp := attrs.framedIpAddress
      framedIpv6Prefix := ipv6Prefix
      counters := ⟨bytesIn, bytesOut, attrs.acctInputPackets, attrs.acctOutputPackets,
        attrs.acctSessionTime⟩
      terminateCause := terminateCause }

end FireIsp.Radius
