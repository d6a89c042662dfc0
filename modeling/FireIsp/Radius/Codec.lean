import FireIsp.Base.Bytes
import FireIsp.Base.Encoding

/-!
# Packets on the wire

The encoder of the change-of-authorization client and the decoder of the server: a header of twenty
bytes, and attributes that begin with their type and their length.
-/

namespace FireIsp.Radius

section Codec

structure Attribute where
  type : UInt8
  value : List UInt8

/-- What `decodePacket` finds. -/
structure Packet where
  code : UInt8
  identifier : UInt8
  length : Nat
  authenticator : List UInt8
  attributes : List Attribute
  raw : List UInt8

/-- The loop over the attributes, as far as the fuel lasts; it stops at one that is malformed. -/
def attributesWith : Nat → List UInt8 → List Attribute
  | fuel + 1, type :: alen :: rest =>
    if alen.toNat < 2 ∨ rest.length + 2 < alen.toNat then []
    else
      ⟨type, rest.take (alen.toNat - 2)⟩ :: attributesWith fuel (rest.drop (alen.toNat - 2))
  | _, _ => []

def attributesIn (bytes : List UInt8) : List Attribute := attributesWith bytes.length bytes

def decodePacket (buf : List UInt8) : Except String Packet :=
  match buf with
  | code :: identifier :: rest =>
    if buf.length < 20 then .error "RADIUS packet too short"
    else
      let length := Bytes.readUInt16 rest
      if length < 20 ∨ buf.length < length then .error "RADIUS packet length out of range"
      else
        .ok {
          code
          identifier
          length
          authenticator := (buf.take 20).drop 4
          attributes := attributesIn ((buf.take length).drop 20)
          raw := buf.take length }
  | _ => .error "RADIUS packet too short"

/-- A value of an attribute. -/
inductive Content
  | buffer (bytes : List UInt8)
  /-- Anything else, as a string. -/
  | text (chars : List Char)

/-- The bytes of a value. -/
def Content.bytes : Content → List UInt8
  | .buffer bytes => bytes
  | .text chars => Utf8.encode chars

/-- An element of `attrList`. -/
inductive Item
  /-- A buffer, taken as it is. -/
  | encoded (bytes : List UInt8)
  | pair (type : Nat) (value : Content)

/-- Type, length and value, in the bytes they fit in. -/
def tlv (type : Nat) (value : List UInt8) : List UInt8 :=
  UInt8.ofNat type :: UInt8.ofNat (2 + value.length) :: value

/-- The bytes of an element. -/
def Item.encode : Item → Except String (List UInt8)
  | .encoded bytes => .ok bytes
  | .pair type value =>
    if 253 < value.bytes.length then
      .error ("RADIUS attribute value too long: " ++ toString value.bytes.length ++
        " bytes (max 253)")
    else .ok (tlv type value.bytes)

def encodeAttributes (attrList : List Item) : Except String (List UInt8) :=
  (attrList.mapM Item.encode).map List.flatten

def buildRadiusPacket (code identifier : Nat) (authenticator attributes : List UInt8) :
    Except String (List UInt8) :=
  let totalLength := 20 + attributes.length
  if 65535 < totalLength then
    .error ("The value of \"value\" is out of range. It must be >= 0 and <= 65535. Received " ++
      toString totalLength)
  else
    let header := UInt8.ofNat code :: UInt8.ofNat identifier :: Bytes.uint16 totalLength
    let packet := header ++ List.replicate (totalLength - 4) 0
    .ok (Bytes.copy attributes (Bytes.copy authenticator packet 4) 20)

/-- An attribute as it is given to the encoder. -/
def Attribute.item (a : Attribute) : Item := .pair a.type.toNat (.buffer a.value)

/-- An attribute as it is sent. -/
def Attribute.bytes (a : Attribute) : List UInt8 := tlv a.type.toNat a.value

theorem attributesWith_tlv (fuel type : Nat) {value : List UInt8} (rest : List UInt8)
    (h : value.length ≤ 253) :
    attributesWith (fuel + 1) (tlv type value ++ rest) =
      ⟨UInt8.ofNat type, value⟩ :: attributesWith fuel rest := by
  have hlength : (UInt8.ofNat (2 + value.length)).toNat = 2 + value.length := by
    rw [UInt8.toNat_ofNat']
    omega
  have hfits : ¬((UInt8.ofNat (2 + value.length)).toNat < 2 ∨
      (value ++ rest).length + 2 < (UInt8.ofNat (2 + value.length)).toNat) := by
    rw [hlength, List.length_append]
    omega
  rw [tlv, List.cons_append, List.cons_append, attributesWith, if_neg hfits, hlength,
    Nat.add_sub_cancel_left, List.take_left, List.drop_left]

variable {attributes : List Attribute}

theorem attributesWith_flatMap {fuel : Nat} (hfuel : attributes.length ≤ fuel)
    (h : ∀ a ∈ attributes, a.value.length ≤ 253) :
    attributesWith fuel (attributes.flatMap Attribute.bytes) = attributes := by
  induction attributes generalizing fuel with
  | nil => cases fuel <;> rfl
  | cons a attributes ih =>
    cases fuel with
    | zero => exact absurd hfuel (Nat.not_succ_le_zero _)
    | succ fuel =>
      have hrest := ih (Nat.le_of_succ_le_succ hfuel) fun b hb =>
        h b (List.mem_cons_of_mem a hb)
      rw [List.flatMap_cons, Attribute.bytes,
        attributesWith_tlv fuel a.type.toNat _ (h a List.mem_cons_self), UInt8.ofNat_toNat, hrest]

theorem length_le_flatMap (attributes : List Attribute) :
    attributes.length ≤ (attributes.flatMap Attribute.bytes).length := by
  induction attributes with
  | nil => exact Nat.le_refl 0
  | cons a attributes ih =>
    rw [List.flatMap_cons, List.length_append, List.length_cons, Attribute.bytes, tlv,
      List.length_cons]
    omega

theorem attributesIn_flatMap (h : ∀ a ∈ attributes, a.value.length ≤ 253) :
    attributesIn (attributes.flatMap Attribute.bytes) = attributes :=
  attributesWith_flatMap (length_le_flatMap attributes) h

theorem buildRadiusPacket_eq (code identifier : Nat) {authenticator attributes : List UInt8}
    (hauth : authenticator.length = 16) (hfits : 20 + attributes.length ≤ 65535) :
    buildRadiusPacket code identifier authenticator attributes =
      .ok (UInt8.ofNat code :: UInt8.ofNat identifier :: Bytes.uint16 (20 + attributes.length) ++
        authenticator ++ attributes) := by
  have hzeros : List.replicate (20 + attributes.length - 4) (0 : UInt8) =
      List.replicate authenticator.length 0 ++ List.replicate attributes.length 0 := by
    rw [List.replicate_append_replicate, hauth]
    congr 1
    omega
  generalize hheader : UInt8.ofNat code :: UInt8.ofNat identifier ::
    Bytes.uint16 (20 + attributes.length) = header
  have hfour : header.length = 4 := by rw [← hheader]; rfl
  have hfirst := @Bytes.copy_append authenticator (List.replicate authenticator.length 0) header
    (List.replicate attributes.length 0) List.length_replicate
  have hsecond := @Bytes.copy_append attributes (List.replicate attributes.length 0)
    (header ++ authenticator) [] List.length_replicate
  have htwenty : (header ++ authenticator).length = 20 := by
    rw [List.length_append, hfour, hauth]
  rw [hfour] at hfirst
  rw [htwenty, List.append_nil, List.append_nil] at hsecond
  simp only [buildRadiusPacket, hheader]
  rw [if_neg (by omega), hzeros, ← List.append_assoc, hfirst, hsecond]

theorem decodePacket_layout (code identifier : UInt8) {authenticator attributes : List UInt8}
    (hauth : authenticator.length = 16) (hfits : 20 + attributes.length ≤ 65535) :
    decodePacket (code :: identifier :: Bytes.uint16 (20 + attributes.length) ++ authenticator ++
        attributes) =
      .ok {
        code
        identifier
        length := 20 + attributes.length
        authenticator
        attributes := attributesIn attributes
        raw := code :: identifier :: Bytes.uint16 (20 + attributes.length) ++ authenticator ++
          attributes } := by
  have hread := Bytes.readUInt16_uint16 (n := 20 + attributes.length) (by omega)
    (authenticator ++ attributes)
  generalize hheader : code :: identifier :: Bytes.uint16 (20 + attributes.length) = header
  have hfour : header.length = 4 := by rw [← hheader]; rfl
  have hlength : (header ++ authenticator ++ attributes).length = 20 + attributes.length := by
    rw [List.length_append, List.length_append, hfour, hauth]
  have htwenty : (header ++ authenticator).length = 20 := by
    rw [List.length_append, hfour, hauth]
  have htake : (header ++ authenticator ++ attributes).take 20 = header ++ authenticator := by
    rw [← htwenty, List.take_left]
  have hdrop : (header ++ authenticator ++ attributes).drop 20 = attributes := by
    rw [← htwenty, List.drop_left]
  have hinner : (header ++ authenticator).drop 4 = authenticator := by
    rw [← hfour, List.drop_left]
  have hwhole := List.take_of_length_le hlength.le
  have hshape : header ++ authenticator ++ attributes = code :: identifier ::
      (Bytes.uint16 (20 + attributes.length) ++ (authenticator ++ attributes)) := by
    rw [← hheader, List.append_assoc]
    rfl
  rw [decodePacket.eq_def, hshape]
  simp only [hread]
  rw [← hshape, hlength, if_neg (by omega), if_neg (by omega), hwhole, htake, hinner, hdrop]

theorem encodeAttributes_item (h : ∀ a ∈ attributes, a.value.length ≤ 253) :
    encodeAttributes (attributes.map Attribute.item) =
      .ok (attributes.flatMap Attribute.bytes) := by
  have hmap : (attributes.map Attribute.item).mapM Item.encode =
      .ok (attributes.map Attribute.bytes) := by
    induction attributes with
    | nil => rfl
    | cons a attributes ih =>
      have hitem : a.item.encode = .ok a.bytes := if_neg (Nat.not_lt.mpr (h a List.mem_cons_self))
      rw [List.map_cons, List.mapM_cons, hitem,
        ih fun b hb => h b (List.mem_cons_of_mem a hb)]
      rfl
  rw [encodeAttributes, hmap]
  exact congrArg Except.ok List.flatMap_def.symm

/-- What is built of attributes that fit is decoded to them, with the header as it was given. -/
theorem decode_built (code identifier : UInt8) {authenticator : List UInt8}
    {attributes : List Attribute} (hauth : authenticator.length = 16)
    (hvalues : ∀ a ∈ attributes, a.value.length ≤ 253)
    (hfits : 20 + (attributes.map fun a => 2 + a.value.length).sum ≤ 65535) :
    ∃ body packet decoded, encodeAttributes (attributes.map Attribute.item) = .ok body ∧
      buildRadiusPacket code.toNat identifier.toNat authenticator body = .ok packet ∧
      decodePacket packet = .ok decoded ∧ decoded.code = code ∧ decoded.identifier = identifier ∧
      decoded.authenticator = authenticator ∧ decoded.attributes = attributes := by
  have hlength : (attributes.flatMap Attribute.bytes).length =
      (attributes.map fun a => 2 + a.value.length).sum := by
    rw [List.length_flatMap]
    congr 1
    refine List.map_congr_left fun a _ => ?_
    rw [Attribute.bytes, tlv, List.length_cons, List.length_cons]
    omega
  rw [← hlength] at hfits
  have hbuilt := buildRadiusPacket_eq code.toNat identifier.toNat hauth hfits
  rw [UInt8.ofNat_toNat, UInt8.ofNat_toNat] at hbuilt
  exact ⟨_, _, _, encodeAttributes_item hvalues, hbuilt,
    decodePacket_layout code identifier hauth hfits, rfl, rfl, rfl, attributesIn_flatMap hvalues⟩

/-- A packet with a user name and an empty attribute. -/
theorem decode_built_request :
    ∃ body packet decoded,
      encodeAttributes ([⟨1, [98, 111, 98]⟩, ⟨79, []⟩].map Attribute.item) = .ok body ∧
      buildRadiusPacket 40 7 (List.replicate 16 0) body = .ok packet ∧
      decodePacket packet = .ok decoded ∧ decoded.code = 40 ∧ decoded.identifier = 7 ∧
      decoded.authenticator = List.replicate 16 0 ∧
      decoded.attributes = [⟨1, [98, 111, 98]⟩, ⟨79, []⟩] :=
  decode_built 40 7 rfl (by decide) (by decide)

/-- The decoder takes attributes off the front until no more can be read. -/
theorem attributesWith_cover {fuel : Nat} {bytes : List UInt8} (hfuel : bytes.length ≤ fuel) :
    (∀ a ∈ attributesWith fuel bytes, a.value.length ≤ 253) ∧
      ∃ rest, attributesIn rest = [] ∧
        bytes = (attributesWith fuel bytes).flatMap Attribute.bytes ++ rest := by
  induction fuel, bytes using attributesWith.induct with
  | case1 fuel type alen rest hbad =>
    rw [attributesWith, if_pos hbad]
    refine ⟨nofun, type :: alen :: rest, ?_, rfl⟩
    simp only [attributesIn, List.length_cons, attributesWith, if_pos hbad]
  | case2 fuel type alen rest hgood ih =>
    have hrest : (rest.drop (alen.toNat - 2)).length ≤ fuel := by
      rw [List.length_drop]
      simp only [List.length_cons] at hfuel
      omega
    obtain ⟨hvalues, tail, htail, hcover⟩ := ih hrest
    have hbyte := alen.toNat_lt
    have hfits : (rest.take (alen.toNat - 2)).length = alen.toNat - 2 := by
      rw [List.length_take]
      omega
    have hsize : UInt8.ofNat (2 + (alen.toNat - 2)) = alen := by
      rw [Nat.add_sub_cancel' (by omega), UInt8.ofNat_toNat]
    rw [attributesWith, if_neg hgood]
    refine ⟨List.forall_mem_cons.mpr ⟨by simp only [hfits]; omega, hvalues⟩, tail, htail, ?_⟩
    rw [List.flatMap_cons, List.append_assoc, ← hcover, Attribute.bytes, tlv, hfits, hsize,
      UInt8.ofNat_toNat, List.cons_append, List.cons_append, List.take_append_drop]
  | case3 fuel bytes hshort =>
    have hnone : ∀ fuel, bytes.length ≤ fuel → attributesWith fuel bytes = [] := by
      intro other hother
      match other, bytes with
      | 0, _ => rw [attributesWith]; nofun
      | other + 1, [] => rfl
      | other + 1, [_] => rfl
      | other + 1, type :: alen :: rest =>
        cases fuel with
        | zero => exact absurd hfuel (Nat.not_succ_le_zero _)
        | succ fuel => exact (hshort fuel type alen rest rfl rfl).elim
    rw [hnone fuel hfuel]
    exact ⟨nofun, bytes, hnone _ (Nat.le_refl _), rfl⟩

/-- What is decoded gives the bytes it was read from when it is built again, and what no attribute
could be read from. -/
theorem decoded_rebuilt {buf : List UInt8} {packet : Packet} (h : decodePacket buf = .ok packet) :
    packet.raw <+: buf ∧ packet.length = packet.raw.length ∧ packet.authenticator.length = 16 ∧
      (∀ a ∈ packet.attributes, a.value.length ≤ 253) ∧
      ∃ body rest, encodeAttributes (packet.attributes.map Attribute.item) = .ok body ∧
        attributesIn rest = [] ∧
        buildRadiusPacket packet.code.toNat packet.identifier.toNat packet.authenticator
          (body ++ rest) = .ok packet.raw := by
  match buf with
  | [] | [_] => exact nomatch h
  | [code, identifier] | [code, identifier, _] =>
    rw [decodePacket, if_pos (by simp)] at h
    exact nomatch h
  | code :: identifier :: high :: low :: bytes =>
    simp only [decodePacket] at h
    split_ifs at h with hshort hrange
    obtain rfl := Except.ok.inj h
    obtain ⟨hbound, hread⟩ := Bytes.uint16_readUInt16 high low bytes
    generalize Bytes.readUInt16 (high :: low :: bytes) = length at hrange hbound hread
    simp only [List.length_cons, not_or, Nat.not_lt] at hrange
    obtain ⟨more, rfl⟩ := Nat.exists_eq_add_of_le' (show 20 ≤ length by omega)
    have hlength : (bytes.take (more + 16)).length = more + 16 := by
      rw [List.length_take]
      omega
    have hraw : (code :: identifier :: high :: low :: bytes).take (more + 20) =
        code :: identifier :: high :: low :: bytes.take (more + 16) := rfl
    have hauth : ((code :: identifier :: high :: low :: bytes).take 20).drop 4 =
        (bytes.take (more + 16)).take 16 := by
      rw [List.take_take, Nat.min_eq_left (by omega)]
      rfl
    generalize bytes.take (more + 16) = body at hlength hraw hauth
    obtain ⟨hvalues, rest, hrest, hcover⟩ :=
      attributesWith_cover (Nat.le_refl (body.drop 16).length)
    have hsixteen : (body.take 16).length = 16 := by
      rw [List.length_take]
      omega
    have hmore : 20 + (body.drop 16).length = more + 20 := by
      rw [List.length_drop]
      omega
    have hbuilt := @buildRadiusPacket_eq code.toNat identifier.toNat _ (body.drop 16) hsixteen
      (by omega)
    rw [hmore, hread, List.append_assoc, List.take_append_drop, UInt8.ofNat_toNat,
      UInt8.ofNat_toNat, hcover] at hbuilt
    simp only [hraw, hauth, List.length_cons, hlength]
    exact ⟨hraw ▸ List.take_prefix _ _, trivial, hsixteen, hvalues, _, rest,
      encodeAttributes_item hvalues, hrest, hbuilt⟩

/-- A user name, and the beginning of an attribute that does not fit. -/
def sampleBody : List UInt8 := [1, 3, 98, 79, 255]

theorem decoded_rebuilt_sample :
    ∃ packet, decodePacket (1 :: 7 :: Bytes.uint16 25 ++ List.replicate 16 9 ++ sampleBody) =
        .ok packet ∧
      ∃ body rest, encodeAttributes (packet.attributes.map Attribute.item) = .ok body ∧
        attributesIn rest = [] ∧
        buildRadiusPacket 1 7 packet.authenticator (body ++ rest) = .ok packet.raw := by
  have hdecoded := @decodePacket_layout 1 7 (List.replicate 16 9) sampleBody rfl (by decide)
  obtain ⟨-, -, -, -, hbuilt⟩ := decoded_rebuilt hdecoded
  exact ⟨_, hdecoded, hbuilt⟩

end Codec

end FireIsp.Radius
