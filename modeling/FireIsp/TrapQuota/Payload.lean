import FireIsp.Base.Encoding
import FireIsp.TrapQuota.Ingest

/-!
# Bounding the varbinds of a trap

`boundedVarbindPayload` cuts long values and takes as many varbinds as fit; a trap goes through it
when it is received, when its bytes are reserved, and when it is stored.
-/

namespace FireIsp.TrapQuota

/-- A code point of a string: a character, or a surrogate that is not one of a pair. -/
inductive Point
  | char (c : Char)
  | surrogate (offset : Fin 2048)

/-- The character a code point is encoded as. -/
def Point.wellFormed : Point → Char
  | .char c => c
  | .surrogate _ => '\uFFFD'

/-- `Buffer.from(value, 'utf8')` -/
def utf8 (value : List Point) : List UInt8 := Utf8.encode (value.map Point.wellFormed)

/-- A value that is no buffer. -/
inductive Scalar
  | undefined
  | null
  /-- Anything else, as `String` writes it. -/
  | text (value : List Point)

/-- The `value` of a varbind. -/
inductive Value
  | scalar (value : Scalar)
  | buffer (bytes : List UInt8)

/-- The `type` of a varbind. -/
inductive Kind
  | null
  | number (json : List Char)
  | text (value : List Point)

/-- A varbind as it is received; `oid` is the string of `vb.oid || ''`. -/
structure Varbind where
  oid : List Point
  type : Kind
  value : Value
  truncated : Bool

/-- An element of the list: an object, or anything else as a value. -/
inductive Element
  | object (vb : Varbind)
  | bare (value : Scalar)

/-- What `serializeVarbind` returns. -/
structure Stored where
  oid : List Point
  type : Kind
  value : Scalar
  truncated : Bool

/-- A stored varbind, given to the code again. -/
def Stored.element (vb : Stored) : Element :=
  .object ⟨vb.oid, vb.type, .scalar vb.value, vb.truncated⟩

/-- The loop of `truncateUtf8` from some `end` on. -/
def shorten (buffer : List UInt8) (maxBytes : Nat) : Nat → List Char
  | 0 => Utf8.decode (buffer.take 0)
  | before + 1 =>
    let output := Utf8.decode (buffer.take (before + 1))
    if maxBytes < (Utf8.encode output).length then shorten buffer maxBytes before else output

def truncateUtf8 (value : List Point) (maxBytes : Nat) : List Point × Bool :=
  if (utf8 value).length ≤ maxBytes then (value, false)
  else ((shorten (utf8 value) maxBytes maxBytes).map .char, true)

def hexByte (b : UInt8) : List Char := [(b.toNat / 16).digitChar, (b.toNat % 16).digitChar]

def Element.varbind : Element → Varbind
  | .object vb => vb
  | .bare value => ⟨[], .null, .scalar value, false⟩

/-- `value` and `truncated` in `serializeVarbind`. -/
def serializeValue (truncated : Bool) : Value → Scalar × Bool
  | .buffer bytes =>
    (.text (((bytes.take 256).flatMap hexByte).map .char), truncated || 256 < bytes.length)
  | .scalar (.text text) =>
    let bounded := truncateUtf8 text 512
    (.text bounded.1, truncated || bounded.2)
  | .scalar value => (value, truncated)

/-- `type` in `serializeVarbind`. -/
def serializeType : Kind → Kind
  | .text text => .text (truncateUtf8 text 32).1
  | type => type

def serializeVarbind (element : Element) : Stored :=
  let vb := element.varbind
  let value := serializeValue vb.truncated vb.value
  let oid := truncateUtf8 vb.oid 255
  { oid := oid.1
    type := serializeType vb.type
    value := value.1
    truncated := value.2 || oid.2 }

/-- Four hexadecimal digits after `\u`. -/
def unicodeEscape (unit : Nat) : List Char :=
  ['\\', 'u', (unit / 4096).digitChar, (unit / 256 % 16).digitChar, (unit / 16 % 16).digitChar,
    (unit % 16).digitChar]

/-- A code point in a string of JSON. -/
def Point.json : Point → List Char
  | .surrogate offset => unicodeEscape (0xD800 + offset.val)
  | .char c =>
    if c = '"' ∨ c = '\\' then ['\\', c]
    else if c.toNat = 8 then ['\\', 'b']
    else if c.toNat = 9 then ['\\', 't']
    else if c.toNat = 10 then ['\\', 'n']
    else if c.toNat = 12 then ['\\', 'f']
    else if c.toNat = 13 then ['\\', 'r']
    else if c.toNat < 32 then unicodeEscape c.toNat
    else [c]

/-- A string of JSON. -/
def quote (value : List Point) : List Char := '"' :: value.flatMap Point.json ++ ['"']

/-- `JSON.stringify` of a varbind; a property that is undefined is left out. -/
def Stored.json (vb : Stored) : List Char :=
  let type := match vb.type with
    | .null => "null".toList
    | .number json => json
    | .text text => quote text
  let value := match vb.value with
    | .undefined => []
    | .null => ",\"value\":null".toList
    | .text text => ",\"value\":".toList ++ quote text
  "\x7b\"oid\":".toList ++ quote vb.oid ++ ",\"type\":".toList ++ type ++ value ++
    (if vb.truncated then ",\"truncated\":true".toList else []) ++ "\x7d".toList

/-- `JSON.stringify` of varbinds. -/
def jsonArray (varbinds : List Stored) : List Char :=
  '[' :: [','].intercalate (varbinds.map Stored.json) ++ [']']

/-- `Buffer.byteLength(json, 'utf8')` -/
def byteLength (json : List Char) : Nat := (Utf8.encode json).length

def maxVarbindCount : Nat := 64

/-- The loop of `serializeVarbinds`. -/
def fill (output : List Stored) (bytes : Nat) : List Stored → List Stored
  | [] => output
  | candidate :: candidates =>
    let candidateBytes := byteLength candidate.json + if output.isEmpty then 0 else 1
    if maxVarbindsJsonBytes < bytes + candidateBytes then output
    else fill (output ++ [candidate]) (bytes + candidateBytes) candidates

def serializeVarbinds (source : List Element) : List Stored :=
  fill [] 2 ((source.take maxVarbindCount).map serializeVarbind)

/-- What `boundedVarbindPayload` returns. -/
structure Payload where
  varbinds : List Stored
  json : List Char
  bytes : Nat
  originalCount : Nat
  truncated : Bool
  truncationReason : Option String

def boundedVarbindPayload (source : List Element) : Payload :=
  let varbinds := serializeVarbinds source
  let json := jsonArray varbinds
  let countLimited := decide (maxVarbindCount < source.length)
  let byteLimited := decide (varbinds.length < min source.length maxVarbindCount)
  { varbinds, json
    bytes := byteLength json
    originalCount := min 65535 source.length
    truncated := countLimited || byteLimited
    truncationReason :=
      if countLimited && byteLimited then some "count_and_size_limit"
      else if countLimited then some "count_limit"
      else if byteLimited then some "size_limit"
      else none }

/-- What `storeTrap` writes of the varbinds in a row of `snmp_traps`. -/
structure TrapRow where
  varbinds : List Char
  varbindsTruncated : Bool
  varbindsOriginalCount : Nat
  varbindsTruncationReason : Option String
  deriving DecidableEq

/-- `storeTrap`, the row it inserts. -/
def trapRow (varbinds : List Element) (varbindsTruncated : Bool) (varbindsOriginalCount : Nat)
    (varbindsTruncationReason : Option String) : TrapRow :=
  let bounded := boundedVarbindPayload varbinds
  { varbinds := bounded.json
    varbindsTruncated
    varbindsOriginalCount := min 65535 varbindsOriginalCount
    varbindsTruncationReason :=
      if varbindsTruncated then
        some ((varbindsTruncationReason.or bounded.truncationReason).getD "size_limit")
      else none }

/-- The statement of `reserveFrom`, and what it returns. -/
def reservedBy (limits : Limits) (organizationId requestedBytes : Nat) (global organization : Usage) :
    Stmt × Reservation :=
  if limits.orgTraps ≤ organization.trapCount ∨ limits.globalTraps ≤ global.trapCount then
    (.countDropped organizationId, ⟨false, false⟩)
  else
    let storeVarbinds := fits limits organization global requestedBytes
    (.countTrap organizationId (if storeVarbinds then requestedBytes else 0)
      (if storeVarbinds then 0 else 1), ⟨true, storeVarbinds⟩)

theorem reserveFrom_eq (limits : Limits) (organizationId requestedBytes : Nat)
    (global organization : Usage) :
    reserveFrom limits organizationId requestedBytes global organization =
      (statement (reservedBy limits organizationId requestedBytes global organization).1 >>= fun _ =>
        pure (reservedBy limits organizationId requestedBytes global organization).2) := by
  unfold reserveFrom
  split_ifs with hfull
  · have hreserved : reservedBy limits organizationId requestedBytes global organization =
        (.countDropped organizationId, ⟨false, false⟩) := if_pos hfull
    rw [hreserved]
  · have hreserved : reservedBy limits organizationId requestedBytes global organization =
        (.countTrap organizationId
          (if fits limits organization global requestedBytes then requestedBytes else 0)
          (if fits limits organization global requestedBytes then 0 else 1),
          ⟨true, fits limits organization global requestedBytes⟩) := if_neg hfull
    rw [hreserved]

/-- A trap of an attributed device: its varbinds, the counting statement and the stored row. -/
def persistTrap (limits : Limits) (organizationId : Nat) (global organization : Usage)
    (rawVarbinds : List Element) : Stmt × Option TrapRow :=
  let info := boundedVarbindPayload rawVarbinds
  let varbinds := info.varbinds.map Stored.element
  let bounded := boundedVarbindPayload varbinds
  let requestedVarbindBytes := if bounded.varbinds.isEmpty then 0 else bounded.bytes
  let (count, reservation) := reservedBy limits organizationId
    (min maxVarbindsJsonBytes requestedVarbindBytes) global organization
  (count,
    if reservation.accepted then
      some (trapRow (if reservation.storeVarbinds then varbinds else [])
        (info.truncated || !reservation.storeVarbinds && decide (0 < bounded.originalCount))
        info.originalCount
        (if reservation.storeVarbinds then info.truncationReason
          else if 0 < info.originalCount then some "daily_byte_quota" else none))
    else none)

/-- The varbind bytes a statement charges. -/
def charged : Stmt → Nat
  | .countTrap _ storedBytes _ => storedBytes
  | _ => 0

def storedBytes : Option TrapRow → Nat
  | some row => if row.varbinds = jsonArray [] then 0 else byteLength row.varbinds
  | none => 0

section Truncation

variable {value : List Point} {maxBytes : Nat}

theorem length_shorten (buffer : List UInt8) (maxBytes before : Nat) :
    (Utf8.encode (shorten buffer maxBytes before)).length ≤ maxBytes := by
  induction before with
  | zero => exact Nat.zero_le maxBytes
  | succ before ih =>
    unfold shorten
    change (Utf8.encode (if _ then _ else _)).length ≤ maxBytes
    split_ifs with hlong
    · exact ih
    · exact Nat.le_of_not_lt hlong

theorem utf8_char (chars : List Char) : utf8 (chars.map .char) = Utf8.encode chars := by
  rw [utf8, List.map_map]
  exact congrArg Utf8.encode (List.map_id chars)

theorem length_truncateUtf8 (value : List Point) (maxBytes : Nat) :
    (utf8 (truncateUtf8 value maxBytes).1).length ≤ maxBytes := by
  unfold truncateUtf8
  split_ifs with h
  · exact h
  · rw [utf8_char]
    exact length_shorten _ _ _

theorem truncateUtf8_of_le (h : (utf8 value).length ≤ maxBytes) :
    truncateUtf8 value maxBytes = (value, false) := if_pos h

theorem length_utf8_hex (bytes : List UInt8) :
    (utf8 ((bytes.flatMap hexByte).map .char)).length = 2 * bytes.length := by
  have hdigit : ∀ d < 16, d.digitChar.utf8Size = 1 := by decide
  rw [utf8_char]
  induction bytes with
  | nil => rfl
  | cons b bytes ih =>
    have hb := b.toNat_lt
    rw [List.flatMap_cons, hexByte, List.cons_append, List.cons_append, List.nil_append,
      Utf8.encode_cons, Utf8.encode_cons, List.length_append, List.length_append,
      String.length_utf8EncodeChar, String.length_utf8EncodeChar, hdigit _ (by omega),
      hdigit _ (by omega), ih, List.length_cons]
    omega

end Truncation

/-- A varbind whose texts are no longer than they are cut to. -/
structure Stored.Short (vb : Stored) : Prop where
  oid : (utf8 vb.oid).length ≤ 255
  type : ∀ text, vb.type = .text text → (utf8 text).length ≤ 32
  value : ∀ text, vb.value = .text text → (utf8 text).length ≤ 512

theorem short_serializeVarbind (element : Element) : (serializeVarbind element).Short where
  oid := length_truncateUtf8 element.varbind.oid 255
  type text htext := by
    change serializeType element.varbind.type = .text text at htext
    cases htype : element.varbind.type with
    | null => rw [htype] at htext; cases htext
    | number json => rw [htype] at htext; cases htext
    | text type =>
      rw [htype] at htext
      cases htext
      exact length_truncateUtf8 type 32
  value text htext := by
    change (serializeValue element.varbind.truncated element.varbind.value).1 = .text text at htext
    cases hvalue : element.varbind.value with
    | buffer bytes =>
      rw [hvalue] at htext
      cases htext
      rw [length_utf8_hex, List.length_take]
      omega
    | scalar value =>
      rw [hvalue] at htext
      cases value with
      | undefined => cases htext
      | null => cases htext
      | text value =>
        cases htext
        exact length_truncateUtf8 value 512

theorem serializeVarbind_element {vb : Stored} (h : vb.Short) :
    serializeVarbind vb.element = vb := by
  obtain ⟨oid, type, value, truncated⟩ := vb
  have htype : serializeType type = type := by
    cases type with
    | null => rfl
    | number json => rfl
    | text text => exact congrArg (fun b => Kind.text b.1) (truncateUtf8_of_le (h.type text rfl))
  have hvalue : serializeValue truncated (.scalar value) = (value, truncated) := by
    cases value with
    | undefined => rfl
    | null => rfl
    | text text =>
      simp only [serializeValue, truncateUtf8_of_le (h.value text rfl), Bool.or_false]
  simp only [serializeVarbind, Stored.element, Element.varbind, htype, hvalue,
    truncateUtf8_of_le h.oid, Bool.or_false]

section Fill

variable {output rest candidates : List Stored}

/-- The bytes another varbind adds. -/
def added (output : List Stored) (candidate : Stored) : Nat :=
  byteLength candidate.json + if output.isEmpty then 0 else 1

theorem fill_cons (output : List Stored) (bytes : Nat) (candidate : Stored)
    (candidates : List Stored) :
    fill output bytes (candidate :: candidates) =
      if maxVarbindsJsonBytes < bytes + added output candidate then output
      else fill (output ++ [candidate]) (bytes + added output candidate) candidates := rfl

theorem byteLength_append (a b : List Char) :
    byteLength (a ++ b) = byteLength a + byteLength b := by
  rw [byteLength, Utf8.encode, List.flatMap_append, List.length_append]
  rfl

theorem byteLength_jsonArray_concat (output : List Stored) (candidate : Stored) :
    byteLength (jsonArray (output ++ [candidate])) =
      byteLength (jsonArray output) + added output candidate := by
  have hinner : byteLength ([','].intercalate ((output ++ [candidate]).map Stored.json)) =
      byteLength ([','].intercalate (output.map Stored.json)) + added output candidate := by
    induction output with
    | nil => simp [added, byteLength]
    | cons vb output ih =>
      cases output with
      | nil =>
        simp only [List.cons_append, List.nil_append, List.map_cons, List.map_nil,
          List.intercalate_cons_cons, List.intercalate_singleton, byteLength_append, added,
          List.isEmpty_cons, Bool.false_eq_true, if_false]
        change _ + 1 + _ = _
        omega
      | cons next output =>
        have hone : added (vb :: next :: output) candidate = added (next :: output) candidate :=
          rfl
        simp only [List.cons_append, List.map_cons, List.intercalate_cons_cons,
          byteLength_append] at ih ⊢
        rw [ih, hone]
        omega
  have harray : ∀ varbinds, byteLength (jsonArray varbinds) =
      1 + byteLength ([','].intercalate (varbinds.map Stored.json)) + 1 := by
    intro varbinds
    rw [jsonArray, ← List.singleton_append, byteLength_append, byteLength_append]
    rfl
  rw [harray, harray, hinner]
  omega

theorem byteLength_jsonArray_le (output rest : List Stored) :
    byteLength (jsonArray output) ≤ byteLength (jsonArray (output ++ rest)) := by
  induction rest using List.reverseRecOn with
  | nil => rw [List.append_nil]
  | append_singleton rest vb ih =>
    rw [← List.append_assoc, byteLength_jsonArray_concat]
    exact Nat.le_add_right_of_le ih

theorem fill_spec {bytes : Nat} (hbytes : bytes = byteLength (jsonArray output))
    (hle : bytes ≤ maxVarbindsJsonBytes) :
    fill output bytes candidates <+: output ++ candidates ∧
      byteLength (jsonArray (fill output bytes candidates)) ≤ maxVarbindsJsonBytes := by
  induction candidates generalizing output bytes with
  | nil => exact ⟨by simp [fill], hbytes ▸ hle⟩
  | cons candidate candidates ih =>
    rw [fill_cons]
    split_ifs with hlong
    · exact ⟨List.prefix_append _ _, hbytes ▸ hle⟩
    · have hstep := byteLength_jsonArray_concat output candidate
      have htail := @ih (output ++ [candidate]) (bytes + added output candidate)
        (by rw [hstep, hbytes]) (Nat.le_of_not_lt hlong)
      rwa [List.append_assoc] at htail

theorem fill_all {bytes : Nat} (hbytes : bytes = byteLength (jsonArray output))
    (hle : byteLength (jsonArray (output ++ candidates)) ≤ maxVarbindsJsonBytes) :
    fill output bytes candidates = output ++ candidates := by
  induction candidates generalizing output bytes with
  | nil => exact (List.append_nil output).symm
  | cons candidate candidates ih =>
    have hstep := byteLength_jsonArray_concat output candidate
    rw [List.append_cons] at hle ⊢
    have hshort := byteLength_jsonArray_le (output ++ [candidate]) candidates
    rw [fill_cons, if_neg (by omega)]
    exact ih (by rw [hstep, hbytes]) hle

end Fill

theorem serializeVarbinds_spec (source : List Element) :
    serializeVarbinds source <+: (source.take maxVarbindCount).map serializeVarbind ∧
      byteLength (jsonArray (serializeVarbinds source)) ≤ maxVarbindsJsonBytes :=
  fill_spec rfl (by decide)

theorem serializeVarbinds_element (source : List Element) :
    serializeVarbinds ((serializeVarbinds source).map Stored.element) = serializeVarbinds source := by
  obtain ⟨hbegin, hle⟩ := serializeVarbinds_spec source
  have hcount : (serializeVarbinds source).length ≤ maxVarbindCount := by
    have hlength := hbegin.length_le
    rw [List.length_map, List.length_take] at hlength
    omega
  have hsame : ((serializeVarbinds source).map Stored.element).map serializeVarbind =
      serializeVarbinds source := by
    rw [List.map_map]
    refine (List.map_congr_left fun vb hvb => ?_).trans (List.map_id _)
    refine serializeVarbind_element ?_
    obtain ⟨element, -, rfl⟩ := List.mem_map.mp (hbegin.subset hvb)
    exact short_serializeVarbind element
  generalize serializeVarbinds source = varbinds at *
  rw [serializeVarbinds, List.take_of_length_le (by rwa [List.length_map]), hsame]
  exact fill_all rfl hle

theorem charged_reservedBy (limits : Limits) (organizationId requestedBytes : Nat)
    (global organization : Usage) :
    let reserved := reservedBy limits organizationId requestedBytes global organization
    charged reserved.1 =
      if reserved.2.accepted && reserved.2.storeVarbinds then requestedBytes else 0 := by
  unfold reservedBy
  simp only
  split_ifs <;> simp_all [charged]

theorem jsonArray_ne_nil {varbinds : List Stored} (h : varbinds ≠ []) :
    jsonArray varbinds ≠ jsonArray [] := by
  obtain ⟨output, vb, rfl⟩ : ∃ output vb, varbinds = output ++ [vb] :=
    ⟨varbinds.dropLast, varbinds.getLast h, (List.dropLast_append_getLast h).symm⟩
  intro heq
  have hbytes := congrArg byteLength heq
  have hfirst := byteLength_jsonArray_le [] output
  have hvb : 1 ≤ byteLength vb.json := by
    unfold Stored.json
    simp only [List.append_assoc, byteLength_append]
    exact Nat.le_add_right_of_le (by decide)
  rw [byteLength_jsonArray_concat, added] at hbytes
  rw [List.nil_append] at hfirst
  omega

/-- The payload is a beginning of at most 8192 bytes, stable, and charged as it is stored. -/
theorem boundedVarbindPayload_spec (source : List Element) :
    let payload := boundedVarbindPayload source
    payload.json = jsonArray payload.varbinds ∧
      payload.varbinds <+: source.map serializeVarbind ∧
      byteLength payload.json ≤ maxVarbindsJsonBytes ∧
      (boundedVarbindPayload (payload.varbinds.map Stored.element)).json = payload.json ∧
      ∀ (limits : Limits) (organizationId : Nat) (global organization : Usage),
        let (count, row) := persistTrap limits organizationId global organization source
        charged count = storedBytes row := by
  obtain ⟨hbegin, hle⟩ := serializeVarbinds_spec source
  have hagain := serializeVarbinds_element source
  refine ⟨rfl, hbegin.trans ((List.take_prefix _ _).map _), hle, congrArg jsonArray hagain, ?_⟩
  intro limits organizationId global organization
  have hrequested : min maxVarbindsJsonBytes (if (serializeVarbinds source).isEmpty then 0
      else byteLength (jsonArray (serializeVarbinds source))) =
        if (serializeVarbinds source).isEmpty then 0
        else byteLength (jsonArray (serializeVarbinds source)) := by
    refine Nat.min_eq_right ?_
    split_ifs
    · exact Nat.zero_le _
    · exact hle
  have hcharged := charged_reservedBy limits organizationId
    (if (serializeVarbinds source).isEmpty then 0
      else byteLength (jsonArray (serializeVarbinds source))) global organization
  simp only [persistTrap, boundedVarbindPayload, hagain, hrequested]
  generalize reservedBy limits organizationId _ global organization = reserved at hcharged ⊢
  obtain ⟨count, accepted, storeVarbinds⟩ := reserved
  cases accepted with
  | false => exact hcharged
  | true =>
    cases storeVarbinds with
    | false => exact hcharged
    | true =>
      refine hcharged.trans ?_
      simp only [if_true, Bool.and_self, storedBytes, trapRow, boundedVarbindPayload, hagain]
      cases serializeVarbinds source with
      | nil => rfl
      | cons vb varbinds => exact (if_neg (jsonArray_ne_nil (List.cons_ne_nil _ _))).symm

theorem not_charged_empty :
    ¬∀ (source : List Element) (limits : Limits) (organizationId : Nat)
      (global organization : Usage) (row : TrapRow),
      (persistTrap limits organizationId global organization source).2 = some row →
        charged (persistTrap limits organizationId global organization source).1 =
          byteLength row.varbinds := by
  intro h
  have hcharge := h [] ⟨1, 1, 100, 100, 1, 1⟩ 7 ⟨none, 0, 0, 0, 0, 0, 0⟩ ⟨some 7, 0, 0, 0, 0, 0, 0⟩
    ⟨['[', ']'], false, 0, none⟩ (by decide)
  revert hcharge
  decide

end FireIsp.TrapQuota
