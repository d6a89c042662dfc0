import FireIsp.Radius.Codec

/-!
# Attributes by name

`encodeNamedAttributes` writes the attributes of a disconnect or change-of-authorization request.  The
guards of the encoders differ: a session id and a vendor value that would not fit are refused, a user
name is not looked at.
-/

namespace FireIsp.Radius

section Named

open Bytes

/-- What is thrown. -/
inductive Failure
  /-- An `Error` or a `RangeError` with its message. -/
  | error (message : String)
  /-- A `TypeError` of the host: something is not callable, or no buffer. -/
  | typeError

def encodeUserName (username : List Char) : List UInt8 := tlv 1 (Utf8.encode username)

/-- `buf[i] = n`: `NaN` and infinite numbers are stored as zero. -/
def toUint8 (n : Option Int) : UInt8 := n.elim 0 fun value => UInt8.ofNat (value % 256).toNat

def encodeFramedIPAddress (ipStr : List Char) : List UInt8 :=
  let parts := (ipStr.splitOn '.').map (Numeral.parseInt 10)
  8 :: 6 :: [0, 1, 2, 3].map fun i => toUint8 (parts[i]?.bind id)

/-- Value of a vendor attribute: vendor, type, length and value. -/
def vendorBytes (vendorId vendorType : Nat) (vendorValue : List UInt8) : List UInt8 :=
  uint32 vendorId ++ tlv vendorType vendorValue

def encodeVSA (vendorId vendorType : Nat) (vendorValue : List UInt8) :
    Except Failure (List UInt8) :=
  if 247 < vendorValue.length then
    .error (.error ("VSA value too long: " ++ toString vendorValue.length ++ " bytes (max 247)"))
  else .ok (tlv 26 (vendorBytes vendorId vendorType vendorValue))

def encodeMikrotikRateLimit (rateLimit : List Char) : Except Failure (List UInt8) :=
  encodeVSA 14988 8 (Utf8.encode rateLimit)

def encodeMikrotikAddressList (listName : List Char) : Except Failure (List UInt8) :=
  encodeVSA 14988 19 (Utf8.encode listName)

def encodeCiscoAvPair (avPairStr : List Char) : Except Failure (List UInt8) :=
  encodeVSA 9 1 (Utf8.encode avPairStr)

def encodeAcctSessionId (sessionId : List Char) : Except Failure (List UInt8) :=
  let valueBytes := Utf8.encode sessionId
  if 253 < valueBytes.length then
    .error (.error ("Acct-Session-Id too long: " ++ toString valueBytes.length ++
      " bytes (max 253)"))
  else .ok (tlv 44 valueBytes)

/-- `n >>> 0`: `NaN` and infinite numbers become zero, others are cut to 32 bits. -/
def toUint32 (n : Option Rat) : Nat := n.elim 0 fun q => (q.num.tdiv q.den % 2 ^ 32).toNat

-- `Number(text)`, none for `NaN` and infinite numbers.
variable (number : List Char → Option Rat)

def encodeWisprBandwidth (vendorType : Nat) (bps : List Char) : Except Failure (List UInt8) :=
  encodeVSA 14122 vendorType (uint32 (toUint32 (number bps)))

/-- Keys of `NAMED_ENCODERS`. -/
inductive Named
  | userName
  | framedIpAddress
  | acctSessionId
  | mikrotikRateLimit
  | mikrotikAddressList
  | ciscoAvPair
  | wisprBandwidthMaxDown
  | wisprBandwidthMaxUp
  deriving DecidableEq

/-- Key of an encoder. -/
def Named.key : Named → String
  | userName => "User-Name"
  | framedIpAddress => "Framed-IP-Address"
  | acctSessionId => "Acct-Session-Id"
  | mikrotikRateLimit => "Mikrotik-Rate-Limit"
  | mikrotikAddressList => "Mikrotik-Address-List"
  | ciscoAvPair => "Cisco-AVPair"
  | wisprBandwidthMaxDown => "WISPr-Bandwidth-Max-Down"
  | wisprBandwidthMaxUp => "WISPr-Bandwidth-Max-Up"

/-- The encoder of a key. -/
def Named.encoder : Named → List Char → Except Failure (List UInt8)
  | userName, value => .ok (encodeUserName value)
  | framedIpAddress, value => .ok (encodeFramedIPAddress value)
  | acctSessionId, value => encodeAcctSessionId value
  | mikrotikRateLimit, value => encodeMikrotikRateLimit value
  | mikrotikAddressList, value => encodeMikrotikAddressList value
  | ciscoAvPair, value => encodeCiscoAvPair value
  | wisprBandwidthMaxDown, value => encodeWisprBandwidth number 7 value
  | wisprBandwidthMaxUp, value => encodeWisprBandwidth number 8 value

/-- The encoder that is found under a name. -/
def Named.find (name : String) : Option Named :=
  [userName, framedIpAddress, acctSessionId, mikrotikRateLimit, mikrotikAddressList, ciscoAvPair,
    wisprBandwidthMaxDown, wisprBandwidthMaxUp].find? fun named => named.key = name

/-- Properties that an object literal inherits and that throw when they are called like this. -/
def inheritedThrowing : List String :=
  ["__defineGetter__", "__defineSetter__", "__lookupGetter__", "__lookupSetter__", "__proto__",
    "hasOwnProperty", "propertyIsEnumerable", "toLocaleString", "valueOf"]

/-- Properties that an object literal inherits and that return something which is no buffer. -/
def inheritedReturning : List String := ["constructor", "isPrototypeOf", "toString"]

structure AttrDef where
  name : String
  value : List Char

/-- The loop over the definitions; none is an element that is no buffer. -/
def encodeEach : List AttrDef → Except Failure (List (Option (List UInt8)))
  | [] => .ok []
  | attr :: rest =>
    match Named.find attr.name with
    | some named => do
        let buffer ← named.encoder number attr.value
        let buffers ← encodeEach rest
        return some buffer :: buffers
    | none =>
      if attr.name ∈ inheritedThrowing then .error .typeError
      else if attr.name ∈ inheritedReturning then do
        let buffers ← encodeEach rest
        return none :: buffers
      -- an unknown name is skipped with a warning
      else encodeEach rest

def encodeNamedAttributes (attrDefs : List AttrDef) : Except Failure (List UInt8) := do
  let buffers ← encodeEach number attrDefs
  match buffers.mapM id with
  | some list => return list.flatten
  | none => .error .typeError

def packNamed (code identifier : UInt8) (authenticator : List UInt8) (attrDefs : List AttrDef) :
    Except Failure (List UInt8) := do
  let attributes ← encodeNamedAttributes number attrDefs
  (buildRadiusPacket code.toNat identifier.toNat authenticator attributes).mapError .error

/-- The definitions an encoder is found for. -/
def recognised (attrDefs : List AttrDef) : List (Named × List Char) :=
  attrDefs.filterMap fun attr => (Named.find attr.name).map fun named => (named, attr.value)

/-- The bytes of an address in decimal notation. -/
def address (text : List Char) : Option (List UInt8) :=
  let parts := text.splitOn '.'
  if parts.length = 4 ∧ ∀ part ∈ parts, part ≠ [] ∧ part.all (Numeral.isDigit 10) ∧
      Numeral.digitsValue 10 part < 256 then
    some (parts.map fun part => UInt8.ofNat (Numeral.digitsValue 10 part))
  else none

/-- A bandwidth that four bytes can hold. -/
def bandwidth (text : List Char) : Option Nat :=
  (number text).bind fun q =>
    if q.den = 1 ∧ 0 ≤ q.num ∧ q.num < 2 ^ 32 then some q.num.toNat else none

/-- The attribute that is meant, if the value denotes one. -/
def Named.given : Named → List Char → Option Attribute
  | userName, value => some ⟨1, Utf8.encode value⟩
  | framedIpAddress, value => (address value).map fun bytes => ⟨8, bytes⟩
  | acctSessionId, value => some ⟨44, Utf8.encode value⟩
  | mikrotikRateLimit, value => some ⟨26, vendorBytes 14988 8 (Utf8.encode value)⟩
  | mikrotikAddressList, value => some ⟨26, vendorBytes 14988 19 (Utf8.encode value)⟩
  | ciscoAvPair, value => some ⟨26, vendorBytes 9 1 (Utf8.encode value)⟩
  | wisprBandwidthMaxDown, value =>
    (bandwidth number value).map fun bps => ⟨26, vendorBytes 14122 7 (uint32 bps)⟩
  | wisprBandwidthMaxUp, value =>
    (bandwidth number value).map fun bps => ⟨26, vendorBytes 14122 8 (uint32 bps)⟩

/-- The call throws, or the packet decodes to the attributes that are meant and their lengths fit. -/
def Intact (code identifier : UInt8) (authenticator : List UInt8) (attrDefs : List AttrDef) : Prop :=
  match packNamed number code identifier authenticator attrDefs with
  | .error _ => True
  | .ok packet => ∃ values,
      (recognised attrDefs).mapM (fun attr => attr.1.given number attr.2) = some values ∧
      (decodePacket packet).map Packet.attributes = .ok values ∧
      ∀ a ∈ values, 2 + a.value.length < 256

/-- The longest value an encoder takes, in bytes, where it looks at the length. -/
def Named.limit : Named → Option Nat
  | acctSessionId => some 253
  | mikrotikRateLimit | mikrotikAddressList | ciscoAvPair => some 247
  | _ => none

def Named.TooLong (named : Named) (value : List Char) : Prop :=
  ∃ limit, named.limit = some limit ∧ limit < (Utf8.encode value).length

/-- Bytes of an attribute of a value. -/
def Named.size : Named → List Char → Nat
  | userName, value | acctSessionId, value => 2 + (Utf8.encode value).length
  | framedIpAddress, _ => 6
  | mikrotikRateLimit, value | mikrotikAddressList, value | ciscoAvPair, value =>
    8 + (Utf8.encode value).length
  | wisprBandwidthMaxDown, _ | wisprBandwidthMaxUp, _ => 12

/-- A guard refuses a name every object has, a value too long, or all of them together. -/
def Refused (attrDefs : List AttrDef) : Prop :=
  (∃ attr ∈ attrDefs, attr.name ∈ inheritedThrowing ++ inheritedReturning) ∨
    (∃ attr ∈ recognised attrDefs, attr.1.TooLong attr.2) ∨
    65515 < ((recognised attrDefs).map fun attr => attr.1.size attr.2).sum

/-- A value without a guard is one that its attribute can hold. -/
def Named.Fits : Named → List Char → Prop
  | userName, value => (Utf8.encode value).length ≤ 253
  | framedIpAddress, value => (address value).isSome
  | wisprBandwidthMaxDown, value | wisprBandwidthMaxUp, value => (bandwidth number value).isSome
  | _, _ => True

/-- The bytes of an attribute, whatever their number. -/
def Named.bytes : Named → List Char → List UInt8
  | userName, value => tlv 1 (Utf8.encode value)
  | framedIpAddress, value => encodeFramedIPAddress value
  | acctSessionId, value => tlv 44 (Utf8.encode value)
  | mikrotikRateLimit, value => tlv 26 (vendorBytes 14988 8 (Utf8.encode value))
  | mikrotikAddressList, value => tlv 26 (vendorBytes 14988 19 (Utf8.encode value))
  | ciscoAvPair, value => tlv 26 (vendorBytes 9 1 (Utf8.encode value))
  | wisprBandwidthMaxDown, value =>
    tlv 26 (vendorBytes 14122 7 (uint32 (toUint32 (number value))))
  | wisprBandwidthMaxUp, value =>
    tlv 26 (vendorBytes 14122 8 (uint32 (toUint32 (number value))))

variable {number}

variable {named : Named} {value : List Char}

theorem Named.encoder_of_tooLong (h : named.TooLong value) :
    ∃ e, named.encoder number value = .error e := by
  obtain ⟨limit, hlimit, hlong⟩ := h
  cases named <;> cases hlimit <;> exact ⟨_, if_pos hlong⟩

theorem Named.encoder_of_not (h : ¬named.TooLong value) :
    named.encoder number value = .ok (named.bytes number value) := by
  have hlimit : ∀ limit, named.limit = some limit → ¬limit < (Utf8.encode value).length :=
    fun limit hlimit hlong => h ⟨limit, hlimit, hlong⟩
  cases named with
  | userName => rfl
  | framedIpAddress => rfl
  | acctSessionId => exact if_neg (hlimit 253 rfl)
  | mikrotikRateLimit => exact if_neg (hlimit 247 rfl)
  | mikrotikAddressList => exact if_neg (hlimit 247 rfl)
  | ciscoAvPair => exact if_neg (hlimit 247 rfl)
  | wisprBandwidthMaxDown => rfl
  | wisprBandwidthMaxUp => rfl

theorem length_vendorBytes (vendorId vendorType : Nat) (value : List UInt8) :
    (vendorBytes vendorId vendorType value).length = 6 + value.length := by
  simp only [vendorBytes, uint32, uint16, tlv, List.length_append, List.length_cons,
    List.length_nil]
  omega

theorem length_tlv (type : Nat) (value : List UInt8) : (tlv type value).length = 2 + value.length := by
  simp only [tlv, List.length_cons]
  omega

theorem Named.length_bytes (named : Named) (value : List Char) :
    (named.bytes number value).length = named.size value := by
  cases named <;> simp only [Named.bytes, Named.size, length_tlv, length_vendorBytes] <;> first
    | rfl
    | omega

theorem find_inherited :
    ∀ name ∈ inheritedThrowing ++ inheritedReturning, Named.find name = none := by
  decide +kernel

variable {attrDefs : List AttrDef}

theorem encodeEach_plain
    (hnames : ∀ attr ∈ attrDefs, attr.name ∉ inheritedThrowing ++ inheritedReturning)
    (hshort : ∀ attr ∈ recognised attrDefs, ¬attr.1.TooLong attr.2) :
    encodeEach number attrDefs =
      .ok ((recognised attrDefs).map fun attr => some (attr.1.bytes number attr.2)) := by
  induction attrDefs with
  | nil => rfl
  | cons attr rest ih =>
    have hrest := fun h => ih (fun a ha => hnames a (List.mem_cons_of_mem attr ha)) h
    cases hfind : Named.find attr.name with
    | none =>
      have hrecognised : recognised (attr :: rest) = recognised rest := by
        rw [recognised, List.filterMap_cons, hfind]
        rfl
      have hname := hnames attr List.mem_cons_self
      rw [List.mem_append, not_or] at hname
      rw [hrecognised] at hshort ⊢
      simp only [encodeEach, hfind]
      rw [if_neg hname.1, if_neg hname.2, hrest hshort]
    | some named =>
      have hrecognised : recognised (attr :: rest) = (named, attr.value) :: recognised rest := by
        rw [recognised, List.filterMap_cons, hfind]
        rfl
      rw [hrecognised] at hshort ⊢
      have hhead : named.encoder number attr.value = .ok (named.bytes number attr.value) :=
        Named.encoder_of_not (hshort (named, attr.value) List.mem_cons_self)
      simp only [encodeEach, hfind]
      rw [hhead, hrest fun a ha => hshort a (List.mem_cons_of_mem _ ha)]
      rfl

theorem encodeEach_ok {buffers : List (Option (List UInt8))}
    (h : encodeEach number attrDefs = .ok buffers) :
    (∀ attr ∈ recognised attrDefs, ¬attr.1.TooLong attr.2) ∧
      ∀ attr ∈ attrDefs, attr.name ∈ inheritedThrowing ++ inheritedReturning → none ∈ buffers := by
  induction attrDefs generalizing buffers with
  | nil => exact ⟨fun _ ha => absurd ha List.not_mem_nil, fun _ ha => absurd ha List.not_mem_nil⟩
  | cons attr rest ih =>
    cases hfind : Named.find attr.name with
    | some named =>
      have hrecognised : recognised (attr :: rest) = (named, attr.value) :: recognised rest := by
        rw [recognised, List.filterMap_cons, hfind]
        rfl
      simp only [encodeEach, hfind] at h
      have hshort : ¬named.TooLong attr.value := by
        intro hlong
        obtain ⟨e, he⟩ := @Named.encoder_of_tooLong number _ _ hlong
        rw [he] at h
        cases h
      rw [Named.encoder_of_not hshort] at h
      cases hloop : encodeEach number rest with
      | error e =>
        rw [hloop] at h
        cases h
      | ok others =>
        rw [hloop] at h
        cases h
        obtain ⟨hvalues, hnames⟩ := ih hloop
        rw [hrecognised]
        refine ⟨List.forall_mem_cons.mpr ⟨hshort, hvalues⟩, List.forall_mem_cons.mpr ⟨?_, ?_⟩⟩
        · intro hname
          rw [find_inherited _ hname] at hfind
          cases hfind
        · exact fun a ha hname => List.mem_cons_of_mem _ (hnames a ha hname)
    | none =>
      have hrecognised : recognised (attr :: rest) = recognised rest := by
        rw [recognised, List.filterMap_cons, hfind]
        rfl
      rw [hrecognised]
      simp only [encodeEach, hfind] at h
      split_ifs at h with hthrowing hreturning
      · cases hloop : encodeEach number rest with
        | error e =>
          rw [hloop] at h
          cases h
        | ok others =>
          rw [hloop] at h
          cases h
          obtain ⟨hvalues, hnames⟩ := ih hloop
          exact ⟨hvalues, fun _ _ _ => List.mem_cons_self⟩
      · obtain ⟨hvalues, hnames⟩ := ih h
        refine ⟨hvalues, List.forall_mem_cons.mpr ⟨fun hname => ?_, hnames⟩⟩
        rcases List.mem_append.mp hname with hname | hname
        · exact absurd hname hthrowing
        · exact absurd hname hreturning

theorem mapM_some {α : Type} (f : α → List UInt8) (attrs : List α) :
    (attrs.map fun attr => some (f attr)).mapM id = some (attrs.map f) := by
  induction attrs with
  | nil => rfl
  | cons attr attrs ih =>
    rw [List.map_cons, List.mapM_cons, ih]
    rfl

theorem mapM_of_none {buffers : List (Option (List UInt8))} (h : none ∈ buffers) :
    buffers.mapM id = none := by
  induction buffers with
  | nil => exact absurd h List.not_mem_nil
  | cons buffer buffers ih =>
    rw [List.mapM_cons]
    cases buffer with
    | none => rfl
    | some buffer =>
      rw [ih ((List.mem_cons.mp h).resolve_left (Option.some_ne_none buffer).symm)]
      rfl

theorem packNamed_plain (code identifier : UInt8) (authenticator : List UInt8)
    (hnames : ∀ attr ∈ attrDefs, attr.name ∉ inheritedThrowing ++ inheritedReturning)
    (hshort : ∀ attr ∈ recognised attrDefs, ¬attr.1.TooLong attr.2) :
    packNamed number code identifier authenticator attrDefs =
      (buildRadiusPacket code.toNat identifier.toNat authenticator
        ((recognised attrDefs).flatMap fun attr => attr.1.bytes number attr.2)).mapError .error := by
  have hsome := mapM_some (fun attr : Named × List Char => attr.1.bytes number attr.2)
    (recognised attrDefs)
  simp only [packNamed, encodeNamedAttributes, encodeEach_plain hnames hshort, bind, Except.bind,
    hsome, pure, Except.pure, List.flatMap_def]

variable (number) in
theorem length_body (attrDefs : List AttrDef) :
    ((recognised attrDefs).flatMap fun attr => attr.1.bytes number attr.2).length =
      ((recognised attrDefs).map fun attr => attr.1.size attr.2).sum := by
  rw [List.length_flatMap]
  exact congrArg List.sum (List.map_congr_left fun attr _ => attr.1.length_bytes attr.2)

theorem packNamed_of_refused (code identifier : UInt8) (authenticator : List UInt8)
    (h : Refused attrDefs) :
    ∃ e, packNamed number code identifier authenticator attrDefs = .error e := by
  cases hloop : encodeEach number attrDefs with
  | error e => exact ⟨e, by simp only [packNamed, encodeNamedAttributes, hloop]; rfl⟩
  | ok buffers =>
    obtain ⟨hvalues, hnames⟩ := encodeEach_ok hloop
    by_cases hname : ∃ attr ∈ attrDefs, attr.name ∈ inheritedThrowing ++ inheritedReturning
    · obtain ⟨attr, hattr, hname⟩ := hname
      have hnone := mapM_of_none (hnames attr hattr hname)
      refine ⟨.typeError, ?_⟩
      simp only [packNamed, encodeNamedAttributes, hloop, bind, Except.bind, hnone]
    · have hsize : 65515 < ((recognised attrDefs).map fun attr => attr.1.size attr.2).sum := by
        rcases h with h | ⟨attr, hattr, hlong⟩ | h
        · exact absurd h hname
        · exact absurd hlong (hvalues attr hattr)
        · exact h
      rw [← length_body number] at hsize
      rw [packNamed_plain code identifier authenticator
        (fun attr hattr hin => hname ⟨attr, hattr, hin⟩) hvalues, buildRadiusPacket,
        if_pos (by omega)]
      exact ⟨_, rfl⟩

theorem toUint8_parseInt {part : List Char} (hne : part ≠ [])
    (hdigits : part.all (Numeral.isDigit 10)) (hlt : Numeral.digitsValue 10 part < 256) :
    toUint8 (Numeral.parseInt 10 part) = UInt8.ofNat (Numeral.digitsValue 10 part) := by
  rw [Numeral.parseInt_digits hne (List.all_eq_true.mp hdigits) (by omega)]
  simp only [toUint8, Option.elim_some]
  congr 1
  omega

theorem encodeFramedIPAddress_address {text : List Char} {bytes : List UInt8}
    (h : address text = some bytes) :
    encodeFramedIPAddress text = tlv 8 bytes ∧ bytes.length = 4 := by
  simp only [address] at h
  split_ifs at h with hparts
  obtain ⟨hfour, hparts⟩ := hparts
  simp only [encodeFramedIPAddress]
  generalize text.splitOn '.' = parts at h hfour hparts
  match parts, hfour with
  | [a, b, c, d], _ =>
    have hread : ∀ part ∈ [a, b, c, d], toUint8 (Numeral.parseInt 10 part) =
        UInt8.ofNat (Numeral.digitsValue 10 part) := fun part hpart =>
      toUint8_parseInt (hparts part hpart).1 (hparts part hpart).2.1 (hparts part hpart).2.2
    simp only [List.mem_cons, List.not_mem_nil, or_false, forall_eq_or_imp, forall_eq] at hread
    obtain ⟨ha, hb, hc, hd⟩ := hread
    cases h
    refine ⟨?_, rfl⟩
    simp only [List.map_cons, List.map_nil, List.getElem?_cons_zero, List.getElem?_cons_succ,
      Option.bind_some, id, ha, hb, hc, hd]
    rfl

theorem toUint32_bandwidth {text : List Char} {bps : Nat} (h : bandwidth number text = some bps) :
    toUint32 (number text) = bps := by
  obtain ⟨q, hq, hbounds⟩ := Option.bind_eq_some_iff.mp h
  split_ifs at hbounds with hfits
  obtain ⟨hden, hpos, hlt⟩ := hfits
  cases hbounds
  simp only [hq, toUint32, Option.elim_some, hden]
  rw [Int.natCast_one, Int.tdiv_one, Int.emod_eq_of_lt hpos hlt]

theorem Named.given_of_fits (hshort : ¬named.TooLong value) (hfits : named.Fits number value) :
    ∃ a, named.given number value = some a ∧ named.bytes number value = a.bytes ∧
      a.value.length ≤ 253 := by
  have hlimit : ∀ limit, named.limit = some limit → (Utf8.encode value).length ≤ limit :=
    fun limit hlimit => Nat.not_lt.mp fun hlong => hshort ⟨limit, hlimit, hlong⟩
  have hvendor : ∀ {bytes : List UInt8} (vendorId vendorType : Nat), bytes.length ≤ 247 →
      (vendorBytes vendorId vendorType bytes).length ≤ 253 := by
    intro bytes vendorId vendorType hbytes
    rw [length_vendorBytes]
    omega
  cases named with
  | userName => exact ⟨_, rfl, rfl, hfits⟩
  | framedIpAddress =>
    obtain ⟨bytes, hbytes⟩ := Option.isSome_iff_exists.mp hfits
    obtain ⟨hencoded, hlength⟩ := encodeFramedIPAddress_address hbytes
    exact ⟨⟨8, bytes⟩, by rw [Named.given, hbytes]; rfl, hencoded, by rw [hlength]; decide⟩
  | acctSessionId => exact ⟨_, rfl, rfl, hlimit 253 rfl⟩
  | mikrotikRateLimit => exact ⟨_, rfl, rfl, hvendor 14988 8 (hlimit 247 rfl)⟩
  | mikrotikAddressList => exact ⟨_, rfl, rfl, hvendor 14988 19 (hlimit 247 rfl)⟩
  | ciscoAvPair => exact ⟨_, rfl, rfl, hvendor 9 1 (hlimit 247 rfl)⟩
  | wisprBandwidthMaxDown =>
    obtain ⟨bps, hbps⟩ := Option.isSome_iff_exists.mp hfits
    refine ⟨⟨26, vendorBytes 14122 7 (uint32 bps)⟩, by rw [Named.given, hbps]; rfl, ?_,
      hvendor 14122 7 ((length_uint32 bps).trans_le (by decide))⟩
    rw [Named.bytes, toUint32_bandwidth hbps]
    rfl
  | wisprBandwidthMaxUp =>
    obtain ⟨bps, hbps⟩ := Option.isSome_iff_exists.mp hfits
    refine ⟨⟨26, vendorBytes 14122 8 (uint32 bps)⟩, by rw [Named.given, hbps]; rfl, ?_,
      hvendor 14122 8 ((length_uint32 bps).trans_le (by decide))⟩
    rw [Named.bytes, toUint32_bandwidth hbps]
    rfl

theorem Named.fits_of_given {a : Attribute} (h : named.given number value = some a)
    (hlength : 2 + a.value.length < 256) :
    named.Fits number value := by
  cases named with
  | userName =>
    cases h
    have hlength : 2 + (Utf8.encode value).length < 256 := hlength
    exact Nat.le_of_lt_succ (by omega)
  | framedIpAddress =>
    obtain ⟨bytes, hbytes, -⟩ := Option.map_eq_some_iff.mp h
    exact Option.isSome_of_eq_some hbytes
  | wisprBandwidthMaxDown =>
    obtain ⟨bps, hbps, -⟩ := Option.map_eq_some_iff.mp h
    exact Option.isSome_of_eq_some hbps
  | wisprBandwidthMaxUp =>
    obtain ⟨bps, hbps, -⟩ := Option.map_eq_some_iff.mp h
    exact Option.isSome_of_eq_some hbps
  | _ => trivial

theorem mapM_given {attrs : List (Named × List Char)}
    (h : ∀ attr ∈ attrs, ¬attr.1.TooLong attr.2 ∧ attr.1.Fits number attr.2) :
    ∃ values, attrs.mapM (fun attr => attr.1.given number attr.2) = some values ∧
      attrs.flatMap (fun attr => attr.1.bytes number attr.2) = values.flatMap Attribute.bytes ∧
      ∀ a ∈ values, a.value.length ≤ 253 := by
  induction attrs with
  | nil => exact ⟨[], rfl, rfl, fun _ ha => absurd ha List.not_mem_nil⟩
  | cons attr attrs ih =>
    obtain ⟨hhead, hrest⟩ := List.forall_mem_cons.mp h
    obtain ⟨values, hvalues, hbytes, hlengths⟩ := ih hrest
    obtain ⟨a, hgiven, hencoded, hlength⟩ := Named.given_of_fits hhead.1 hhead.2
    refine ⟨a :: values, ?_, ?_, List.forall_mem_cons.mpr ⟨hlength, hlengths⟩⟩
    · rw [List.mapM_cons, hgiven, hvalues]
      rfl
    · rw [List.flatMap_cons, List.flatMap_cons, hencoded, hbytes]

theorem fits_of_mapM {attrs : List (Named × List Char)} {values : List Attribute}
    (h : attrs.mapM (fun attr => attr.1.given number attr.2) = some values)
    (hlengths : ∀ a ∈ values, 2 + a.value.length < 256) :
    ∀ attr ∈ attrs, attr.1.Fits number attr.2 := by
  induction attrs generalizing values with
  | nil => exact fun _ ha => absurd ha List.not_mem_nil
  | cons attr attrs ih =>
    rw [List.mapM_cons] at h
    obtain ⟨a, hgiven, h⟩ := Option.bind_eq_some_iff.mp h
    obtain ⟨rest, hrest, h⟩ := Option.bind_eq_some_iff.mp h
    cases h
    obtain ⟨hhead, hlengths⟩ := List.forall_mem_cons.mp hlengths
    exact List.forall_mem_cons.mpr ⟨Named.fits_of_given hgiven hhead, ih hrest hlengths⟩

theorem fits_of_intact {code identifier : UInt8} {authenticator : List UInt8}
    (hsent : (packNamed number code identifier authenticator attrDefs).isOk = true)
    (h : Intact number code identifier authenticator attrDefs) :
    ∀ attr ∈ recognised attrDefs, attr.1.Fits number attr.2 := by
  rw [Intact] at h
  cases hpacked : packNamed number code identifier authenticator attrDefs with
  | error e =>
    rw [hpacked] at hsent
    cases hsent
  | ok packet =>
    rw [hpacked] at h
    obtain ⟨values, hvalues, -, hlengths⟩ := h
    exact fits_of_mapM hvalues hlengths

/-- Attributes are packed as meant, or refused, iff a guard refuses or the values fit. -/
theorem intact_iff (number : List Char → Option Rat) (code identifier : UInt8)
    {authenticator : List UInt8} (hauth : authenticator.length = 16) (attrDefs : List AttrDef) :
    Intact number code identifier authenticator attrDefs ↔
      Refused attrDefs ∨ ∀ attr ∈ recognised attrDefs, attr.1.Fits number attr.2 := by
  by_cases hrefused : Refused attrDefs
  · obtain ⟨e, he⟩ := @packNamed_of_refused number _ code identifier authenticator hrefused
    refine iff_of_true ?_ (.inl hrefused)
    rw [Intact, he]
    trivial
  · obtain ⟨hnames, hrest⟩ := not_or.mp hrefused
    obtain ⟨hshort, hsize⟩ := not_or.mp hrest
    have hnames : ∀ attr ∈ attrDefs, attr.name ∉ inheritedThrowing ++ inheritedReturning :=
      fun attr hattr hin => hnames ⟨attr, hattr, hin⟩
    have hshort : ∀ attr ∈ recognised attrDefs, ¬attr.1.TooLong attr.2 :=
      fun attr hattr hlong => hshort ⟨attr, hattr, hlong⟩
    rw [← length_body number] at hsize
    have hpacked := @packNamed_plain number _ code identifier authenticator hnames hshort
    rw [buildRadiusPacket_eq code.toNat identifier.toNat hauth (by omega), UInt8.ofNat_toNat,
      UInt8.ofNat_toNat] at hpacked
    have hdecoded := @decodePacket_layout code identifier authenticator
      ((recognised attrDefs).flatMap fun attr => attr.1.bytes number attr.2) hauth (by omega)
    constructor
    · exact fun h => .inr (fits_of_intact (by rw [hpacked]; rfl) h)
    · intro h
      rw [Intact, hpacked]
      simp only [Except.mapError, hdecoded, Except.map, Except.ok.injEq]
      obtain ⟨values, hvalues, hbytes, hlengths⟩ := mapM_given fun attr hattr =>
        ⟨hshort attr hattr, (h.resolve_left hrefused) attr hattr⟩
      refine ⟨values, hvalues, ?_, fun a ha => ?_⟩
      · rw [hbytes, attributesIn_flatMap hlengths]
      · have hlength := hlengths a ha
        omega

def longName : AttrDef := ⟨"User-Name", List.replicate 254 'a'⟩

theorem not_fits_longName :
    ¬∀ attr ∈ recognised [longName], attr.1.Fits (fun _ => none) attr.2 := by
  intro h
  have hlong : (Utf8.encode longName.value).length = 254 := by decide +kernel
  have hfits : (Utf8.encode longName.value).length ≤ 253 :=
    h (.userName, longName.value) (by decide +kernel)
  rw [hlong] at hfits
  exact absurd hfits (by decide)

/-- A user name that is too long for its length byte is sent. -/
theorem not_intact_longName :
    ¬Intact (fun _ => none) 43 7 (List.replicate 16 0) [longName] :=
  mt (fits_of_intact (by decide +kernel)) not_fits_longName

def shortRequest : List AttrDef :=
  [⟨"User-Name", "bob".toList⟩, ⟨"Framed-IP-Address", "10.0.0.7".toList⟩]

/-- They are sent intact if their values fit. -/
theorem intact_iff_shortRequest :
    Intact (fun _ => none) 43 7 (List.replicate 16 0) shortRequest ↔
      Refused shortRequest ∨ ∀ attr ∈ recognised shortRequest, attr.1.Fits (fun _ => none) attr.2 :=
  intact_iff (fun _ => none) 43 7 rfl shortRequest

end Named

end FireIsp.Radius
