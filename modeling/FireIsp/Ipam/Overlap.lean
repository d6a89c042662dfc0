import FireIsp.Ipam.AddressText

/-!
# Overlap of IPv4 pools

`detectOverlap` of the pool assignment and `cidrsOverlap` of the subnet planner each make a range of
the text of a pool. They differ for a network of prefix length 0, and for one whose mask is in a
column of its own.
-/

namespace FireIsp.Ipam

open Ipv6

/-- Row of `ip_pools` of version 4, as far as the overlap checks read it. -/
structure Ipv4Pool where
  id : Nat
  organizationId : Option Nat
  network : List Char
  subnetMask : Option (List Char)
  deleted : Bool

/-- `ip.split('.').reduce((acc, octet) => (acc * 256) + parseInt(octet, 10), 0) >>> 0`. -/
def ipv4ToInt (ip : List Char) : BitVec 32 :=
  ((ip.splitOn '.').foldlM (fun (acc : Int) octet => do
    pure (acc * 256 + (← Numeral.parseInt 10 octet))) 0).elim 0 (BitVec.ofInt 32)

/-- The loop that counts the set bits of a mask; `count` bits are left. -/
def setBits : Nat → Nat → Nat
  | 0, _ => 0
  | count + 1, mask => mask % 2 + setBits count (mask / 2)

def parseCidrPrefixLen (subnetMask : Option (List Char)) : Option Int :=
  if subnetMask.all List.isEmpty then some 32
  else
    let trimmed := trim (subnetMask.getD [])
    if trimmed.head? = some '/' then Numeral.parseInt 10 trimmed.tail
    else if trimmed.length ≤ 2 ∧ trimmed ≠ [] ∧ trimmed.all Char.isDigit then
      Numeral.parseInt 10 trimmed
    else some (setBits 32 (ipv4ToInt trimmed).toNat)

/-- `32 - prefixLen`, as the count of a shift. -/
def hostBits (prefixLen : Option Int) : Int := prefixLen.elim 0 fun len => 32 - len

/-- `x << count`: the low five bits of the count. -/
def shiftLeft (x : BitVec 32) (count : Int) : BitVec 32 := x <<< (count % 32).toNat

structure Ipv4Range where
  network : BitVec 32
  broadcast : BitVec 32

def parseIpv4Pool (pool : Ipv4Pool) : Ipv4Range :=
  let (networkAddr, prefixLen) := match pool.network.splitOn '/' with
    | addr :: length :: _ => (trim addr, Numeral.parseInt 10 length)
    | _ => (pool.network, parseCidrPrefixLen pool.subnetMask)
  let mask := if hostBits prefixLen = 32 then 0
    else shiftLeft (BitVec.allOnes 32) (hostBits prefixLen)
  ⟨ipv4ToInt networkAddr &&& mask, (ipv4ToInt networkAddr &&& mask) ||| ~~~mask⟩

/-- Rows the query of `detectOverlap` returns. -/
def isPeer (pool : Ipv4Pool) (excludePoolId : Option Nat) (peer : Ipv4Pool) : Bool :=
  !peer.deleted && pool.organizationId.isSome &&
    decide (peer.organizationId = pool.organizationId) &&
    excludePoolId.all fun id => decide (id = 0 ∨ peer.id ≠ id)

/-- `detectOverlap`, for a pool of version 4. -/
def detectOverlap (rows : List Ipv4Pool) (pool : Ipv4Pool) (excludePoolId : Option Nat) :
    Option Ipv4Pool :=
  (rows.filter (isPeer pool excludePoolId)).find? fun peer =>
    decide ((parseIpv4Pool pool).network ≤ (parseIpv4Pool peer).broadcast ∧
      (parseIpv4Pool peer).network ≤ (parseIpv4Pool pool).broadcast)

/-- `cidrToRange` without colons; `operand` is `Number(text)` as an operand of bits. -/
def cidrToRange (operand : List Char → BitVec 32) (cidr : List Char) : Option Ipv4Range :=
  match cidr.splitOn '/' with
  | addr :: bits :: _ =>
    let part index := ((addr.splitOn '.')[index]?).elim 0 operand
    let base := part 0 <<< 24 ||| part 1 <<< 16 ||| part 2 <<< 8 ||| part 3
    let prefixLen := Numeral.parseInt 10 bits
    let step := if prefixLen = some 32 then 1 else shiftLeft 1 (hostBits prefixLen)
    let start := base &&& shiftLeft (BitVec.allOnes 32) (hostBits prefixLen)
    some ⟨start, start + step - 1⟩
  | _ => none

def cidrsOverlap (operand : List Char → BitVec 32) (cidr1 cidr2 : List Char) : Bool :=
  match cidrToRange operand cidr1, cidrToRange operand cidr2 with
  | some r1, some r2 => decide (r1.network ≤ r2.broadcast ∧ r2.network ≤ r1.broadcast)
  | _, _ => false

/-- Address of a quad. -/
def quadValue (quad : Quad) : Nat :=
  ((quad.1.val * 256 + quad.2.1.val) * 256 + quad.2.2.1.val) * 256 + quad.2.2.2.val

/-- `(addr >>> count) & 0xFF`. -/
def octetAt (addr : BitVec 32) (count : Nat) : Fin 256 := Fin.ofNat 256 (addr.toNat / 2 ^ count)

/-- An IPv4 network: an address of it, and its prefix length. -/
structure Ipv4Network where
  quad : Quad
  len : Nat
  len_le : len ≤ 32

def Ipv4Network.Covers (n : Ipv4Network) (address : Nat) : Prop :=
  address / 2 ^ (32 - n.len) = quadValue n.quad / 2 ^ (32 - n.len)

def Ipv4Network.Meets (n m : Ipv4Network) : Prop := ∃ address, n.Covers address ∧ m.Covers address

def maskOctet (len place : Nat) : Fin 256 := Fin.ofNat 256 (256 - 2 ^ (8 - (len - 8 * place)))

def netmask (len : Nat) : Quad :=
  (maskOctet len 0, maskOctet len 1, maskOctet len 2, maskOctet len 3)

/-- The pool is written as `address/length`. -/
def Ipv4Pool.Slashed (pool : Ipv4Pool) (n : Ipv4Network) : Prop :=
  pool.network = quadText n.quad ++ '/' :: Nat.toDigits 10 n.len

/-- The pool is written as an address, and its mask dotted, as a length, or not at all. -/
def Ipv4Pool.Masked (pool : Ipv4Pool) (n : Ipv4Network) : Prop :=
  pool.network = quadText n.quad ∧
    (pool.subnetMask = some (quadText (netmask n.len)) ∨
      pool.subnetMask = some ('/' :: Nat.toDigits 10 n.len) ∨
      pool.subnetMask = some (Nat.toDigits 10 n.len) ∨ pool.subnetMask = none ∧ n.len = 32)

example : netmask 20 = (255, 255, 240, 0) := by decide

section Texts

theorem splitOn_quadText (quad : Quad) : (quadText quad).splitOn '.' =
    [quad.1, quad.2.1, quad.2.2.1, quad.2.2.2].map fun octet : Fin 256 => Nat.toDigits 10 octet := by
  refine List.splitOn_intercalate '.' (fun digits hdigits hdot => ?_) (List.cons_ne_nil _ _)
  obtain ⟨octet, -, rfl⟩ := List.mem_map.mp hdigits
  obtain ⟨value, hvalue, -⟩ :=
    Numeral.isDigit_spec (Numeral.isDigit_toDigits (by decide) (by decide) _ _ hdot)
  cases hvalue

theorem ipv4ToInt_quadText (quad : Quad) :
    ipv4ToInt (quadText quad) = BitVec.ofNat 32 (quadValue quad) := by
  have hparse : ∀ octet : Fin 256, Numeral.parseInt 10 (Nat.toDigits 10 octet) =
      some (octet.val : Int) := fun octet => parseInt_numeral (by omega)
  rw [ipv4ToInt, splitOn_quadText]
  simp only [List.map_cons, List.map_nil, List.foldlM_cons, List.foldlM_nil, hparse,
    Option.bind_eq_bind, Option.bind_some, Option.pure_def, Option.elim_some, quadValue]
  rw [← BitVec.ofInt_natCast]
  exact congrArg (BitVec.ofInt 32) (by push_cast; ring)

theorem plain_of_mem_quadText {c : Char} (h : c ∈ quadText quad) :
    Text.isSpace c = false ∧ c ≠ '/' := by
  rcases mem_quadText h with rfl | hdigit
  · decide
  · obtain ⟨value, hvalue, -⟩ := Numeral.isDigit_spec hdigit
    have hspec := Numeral.hexDigit_spec hvalue
    exact ⟨hspec.2.1, hspec.2.2.2.2.2.2.2⟩

theorem splitOn_slashed (quad : Quad) (len : Nat) :
    (quadText quad ++ '/' :: Nat.toDigits 10 len).splitOn '/' =
      [quadText quad, Nat.toDigits 10 len] := by
  rw [List.splitOn_append_cons_self_of_not_mem fun h => (plain_of_mem_quadText h).2 rfl,
    List.splitOn_eq_singleton (slash_not_mem_numeral len)]

theorem parseCidrPrefixLen_masked {pool : Ipv4Pool} {n : Ipv4Network} (h : pool.Masked n) :
    parseCidrPrefixLen pool.subnetMask = some (n.len : Int) := by
  have hall : ∀ len ≤ 32,
      parseCidrPrefixLen (some (quadText (netmask len))) = some (len : Int) ∧
      parseCidrPrefixLen (some ('/' :: Nat.toDigits 10 len)) = some (len : Int) ∧
      parseCidrPrefixLen (some (Nat.toDigits 10 len)) = some (len : Int) := by decide
  obtain ⟨hdotted, hslash, hbare⟩ := hall n.len n.len_le
  obtain ⟨-, hmask | hmask | hmask | ⟨hmask, hlen⟩⟩ := h
  · rw [hmask, hdotted]
  · rw [hmask, hslash]
  · rw [hmask, hbare]
  · rw [hmask, hlen]
    rfl

end Texts

section Blocks

theorem and_mask {width : Nat} (x : BitVec width) (h : Nat) :
    x &&& BitVec.allOnes width <<< h = (x >>> h) <<< h := by
  ext i hi
  simp only [BitVec.getElem_and, BitVec.getElem_shiftLeft, BitVec.getElem_allOnes,
    BitVec.getElem_ushiftRight]
  by_cases hlt : i < h
  · simp [hlt]
  · have hsame : h + (i - h) = i := by omega
    simp [hlt, hsame, hi]

theorem toNat_start {width : Nat} (x : BitVec width) (h : Nat) :
    (x &&& BitVec.allOnes width <<< h).toNat = x.toNat / 2 ^ h * 2 ^ h := by
  rw [and_mask, BitVec.toNat_shiftLeft, BitVec.toNat_ushiftRight, Nat.shiftRight_eq_div_pow,
    Nat.shiftLeft_eq, Nat.mod_eq_of_lt]
  exact Nat.lt_of_le_of_lt (Nat.div_mul_le_self _ _) x.isLt

theorem or_not_mask (x : BitVec 32) (h : Nat) :
    x &&& BitVec.allOnes 32 <<< h ||| ~~~(BitVec.allOnes 32 <<< h) =
      (x &&& BitVec.allOnes 32 <<< h) + ~~~(BitVec.allOnes 32 <<< h) := by
  refine (BitVec.add_eq_or_of_and_eq_zero _ _ ?_).symm
  rw [BitVec.and_assoc, BitVec.and_not_self]
  exact BitVec.and_zero

/-- A range from the first to the last address of a block of `2 ^ h`. -/
def Ipv4Range.Spans (range : Ipv4Range) (value h : Nat) : Prop :=
  range.network.toNat = value / 2 ^ h * 2 ^ h ∧
    range.broadcast.toNat = value / 2 ^ h * 2 ^ h + 2 ^ h - 1

theorem start_add_lt {width value h : Nat} (hh : h ≤ width) (hvalue : value < 2 ^ width) :
    value / 2 ^ h * 2 ^ h + 2 ^ h ≤ 2 ^ width := by
  have hpow : 2 ^ width = 2 ^ (width - h) * 2 ^ h := by rw [← Nat.pow_add, Nat.sub_add_cancel hh]
  have hlt : value / 2 ^ h < 2 ^ (width - h) := Nat.div_lt_of_lt_mul (by rwa [Nat.mul_comm, ← hpow])
  calc value / 2 ^ h * 2 ^ h + 2 ^ h = (value / 2 ^ h + 1) * 2 ^ h := (Nat.succ_mul _ _).symm
    _ ≤ 2 ^ (width - h) * 2 ^ h := Nat.mul_le_mul_right _ hlt
    _ = 2 ^ width := hpow.symm

theorem spans_masked (x : BitVec 32) (len : Nat) :
    (⟨x &&& BitVec.allOnes 32 <<< (32 - len),
      x &&& BitVec.allOnes 32 <<< (32 - len) ||| ~~~(BitVec.allOnes 32 <<< (32 - len))⟩ :
        Ipv4Range).Spans x.toNat (32 - len) := by
  have hnot : ∀ h ≤ 32, (~~~(BitVec.allOnes 32 <<< h)).toNat = 2 ^ h - 1 := by decide
  have hfits := start_add_lt (Nat.sub_le 32 len) x.isLt
  have hpos := Nat.two_pow_pos (32 - len)
  refine ⟨toNat_start x _, ?_⟩
  rw [or_not_mask, BitVec.toNat_add, toNat_start, hnot _ (Nat.sub_le 32 len), Nat.mod_eq_of_lt] <;> omega

theorem Ipv4Range.Spans.meet {r r' : Ipv4Range} {value value' h h' : Nat}
    (hr : r.Spans value h) (hr' : r'.Spans value' h') :
    (r.network ≤ r'.broadcast ∧ r'.network ≤ r.broadcast) ↔
      ∃ address, address / 2 ^ h = value / 2 ^ h ∧ address / 2 ^ h' = value' / 2 ^ h' := by
  have hblock : ∀ value address h : Nat, address / 2 ^ h = value / 2 ^ h ↔
      value / 2 ^ h * 2 ^ h ≤ address ∧ address < value / 2 ^ h * 2 ^ h + 2 ^ h := by
    intro value address h
    rw [Nat.div_eq_iff (Nat.two_pow_pos h)]
    have hpos := Nat.two_pow_pos h
    omega
  have hpos := Nat.two_pow_pos h
  have hpos' := Nat.two_pow_pos h'
  simp only [BitVec.le_def, hr.1, hr.2, hr'.1, hr'.2, hblock]
  constructor
  · intro hmeet
    exact ⟨max (value / 2 ^ h * 2 ^ h) (value' / 2 ^ h' * 2 ^ h'), by omega⟩
  · rintro ⟨address, hleft, hright⟩
    omega

end Blocks

theorem quadValue_lt (quad : Quad) : quadValue quad < 2 ^ 32 := by
  unfold quadValue
  omega

theorem toNat_quadValue (quad : Quad) :
    (BitVec.ofNat 32 (quadValue quad)).toNat = quadValue quad := by
  rw [BitVec.toNat_ofNat, Nat.mod_eq_of_lt (quadValue_lt quad)]

theorem parseIpv4Pool_spans {pool : Ipv4Pool} {n : Ipv4Network}
    (h : pool.Slashed n ∨ pool.Masked n) :
    (parseIpv4Pool pool).Spans (quadValue n.quad) (32 - n.len) := by
  have hmask : ∀ len : Nat, len ≤ 32 → (if hostBits (some (len : Int)) = 32 then 0
      else shiftLeft (BitVec.allOnes 32) (hostBits (some (len : Int)))) =
        BitVec.allOnes 32 <<< (32 - len) := by decide
  have hspans := spans_masked (BitVec.ofNat 32 (quadValue n.quad)) n.len
  rw [toNat_quadValue, ← hmask n.len n.len_le, ← ipv4ToInt_quadText] at hspans
  rcases h with h | h
  · have htrim : trim (quadText n.quad) = quadText n.quad :=
      trim_of_no_space fun c hc => (plain_of_mem_quadText hc).1
    rw [parseIpv4Pool, h, splitOn_slashed]
    simp only [htrim, parseInt_numeral (Nat.lt_of_le_of_lt n.len_le (by decide))]
    exact hspans
  · rw [parseIpv4Pool, h.1, List.splitOn_eq_singleton fun hc => (plain_of_mem_quadText hc).2 rfl]
    simp only [parseCidrPrefixLen_masked h]
    exact hspans

section Planner

variable {operand : List Char → BitVec 32}
  (hoperand : ∀ octet : Fin 256, operand (Nat.toDigits 10 octet) = BitVec.ofNat 32 octet)

/-- Host bits as the planner shifts by them: none for prefix length 0. -/
def Ipv4Network.plannedBits (n : Ipv4Network) : Nat := if n.len = 0 then 0 else 32 - n.len

theorem toNat_octet (octet : Fin 256) {count : Nat} (h : count ≤ 24) :
    (BitVec.ofNat 32 octet <<< count).toNat = octet.val <<< count := by
  have hpow : 2 ^ count ≤ 2 ^ 24 := Nat.pow_le_pow_right (by decide) h
  have hle : octet.val * 2 ^ count ≤ 255 * 2 ^ 24 := Nat.mul_le_mul (by omega) hpow
  have hoctet : octet.val % 2 ^ 32 = octet := Nat.mod_eq_of_lt (by omega)
  rw [BitVec.toNat_shiftLeft, BitVec.toNat_ofNat, hoctet, Nat.shiftLeft_eq, Nat.mod_eq_of_lt]
  exact Nat.lt_of_le_of_lt hle (by decide)

theorem or_octets (a b c d : Fin 256) :
    BitVec.ofNat 32 a <<< 24 ||| BitVec.ofNat 32 b <<< 16 ||| BitVec.ofNat 32 c <<< 8 |||
      BitVec.ofNat 32 d = BitVec.ofNat 32 (quadValue (a, b, c, d)) := by
  have hd : (BitVec.ofNat 32 d).toNat = d := by
    rw [BitVec.toNat_ofNat, Nat.mod_eq_of_lt (by omega)]
  apply BitVec.eq_of_toNat_eq
  rw [toNat_quadValue, BitVec.toNat_or, BitVec.toNat_or, BitVec.toNat_or, toNat_octet a (by decide),
    toNat_octet b (by decide), toNat_octet c (by decide), hd,
    ← Nat.shiftLeft_add_eq_or_of_lt (by rw [Nat.shiftLeft_eq]; omega)]
  have hab : a.val <<< 24 + b.val <<< 16 = (a.val * 256 + b.val) <<< 16 := by
    simp only [Nat.shiftLeft_eq]
    omega
  rw [hab, ← Nat.shiftLeft_add_eq_or_of_lt (by rw [Nat.shiftLeft_eq]; omega)]
  have habc : (a.val * 256 + b.val) <<< 16 + c.val <<< 8 =
      ((a.val * 256 + b.val) * 256 + c.val) <<< 8 := by
    simp only [Nat.shiftLeft_eq]
    omega
  rw [habc, ← Nat.shiftLeft_add_eq_or_of_lt d.isLt, Nat.shiftLeft_eq]
  rfl

include hoperand in
theorem cidrToRange_spans (n : Ipv4Network) :
    ∃ range, cidrToRange operand (quadText n.quad ++ '/' :: Nat.toDigits 10 n.len) = some range ∧
      range.Spans (quadValue n.quad) n.plannedBits := by
  have hstep : ∀ len : Nat, len ≤ 32 →
      let bits := if len = 0 then 0 else 32 - len
      shiftLeft (BitVec.allOnes 32) (hostBits (some (len : Int))) = BitVec.allOnes 32 <<< bits ∧
        (if some (len : Int) = some 32 then (1 : BitVec 32)
          else shiftLeft 1 (hostBits (some (len : Int)))).toNat = 2 ^ bits ∧ bits ≤ 32 := by decide
  obtain ⟨hmask, hstep, hbits⟩ := hstep n.len n.len_le
  change _ = BitVec.allOnes 32 <<< n.plannedBits at hmask
  change _ = 2 ^ n.plannedBits at hstep
  refine ⟨_, by rw [cidrToRange, splitOn_slashed], ?_⟩
  simp only [splitOn_quadText, parseInt_numeral (Nat.lt_of_le_of_lt n.len_le (by decide)),
    List.map_cons, List.getElem?_cons_zero, List.getElem?_cons_succ, Option.elim_some, hoperand,
    or_octets, hmask]
  have hfits : quadValue n.quad / 2 ^ n.plannedBits * 2 ^ n.plannedBits + 2 ^ n.plannedBits ≤ 2 ^ 32 :=
    start_add_lt hbits (quadValue_lt n.quad)
  have hpos := Nat.two_pow_pos n.plannedBits
  have hstart := toNat_start (BitVec.ofNat 32 (quadValue n.quad)) n.plannedBits
  rw [toNat_quadValue] at hstart
  refine ⟨hstart, ?_⟩
  rw [BitVec.toNat_sub, BitVec.toNat_add, hstart, hstep]
  change (2 ^ 32 - 1 + _) % 2 ^ 32 = _
  generalize quadValue n.quad / 2 ^ n.plannedBits * 2 ^ n.plannedBits = start at *
  generalize 2 ^ n.plannedBits = size at *
  omega

end Planner

/-- What the planner misreads of a pool makes no difference for these. -/
def PlannedAlike (a b : Ipv4Pool) (n m : Ipv4Network) : Prop :=
  (a.Slashed n ∧ b.Slashed m →
    (n.len = 0 → m.len = 0 → quadValue n.quad = quadValue m.quad) ∧
      (n.len = 0 → m.len ≠ 0 → m.Covers (quadValue n.quad)) ∧
      (m.len = 0 → n.len ≠ 0 → n.Covers (quadValue m.quad))) ∧
    (¬(a.Slashed n ∧ b.Slashed m) → ¬n.Meets m)

theorem detectOverlap_iff {a b : Ipv4Pool} {n m : Ipv4Network}
    (ha : a.Slashed n ∨ a.Masked n) (hb : b.Slashed m ∨ b.Masked m) (hpeer : isPeer a none b = true) :
    (detectOverlap [b] a none).isSome ↔ n.Meets m := by
  have hmeet := (parseIpv4Pool_spans ha).meet (parseIpv4Pool_spans hb)
  rw [detectOverlap, List.filter_cons_of_pos hpeer, List.filter_nil]
  simp only [List.find?_isSome, List.mem_singleton, exists_eq_left, decide_eq_true_eq]
  exact hmeet

theorem not_slashed {pool : Ipv4Pool} {n : Ipv4Network} (h : pool.Masked n)
    (operand : List Char → BitVec 32) : cidrToRange operand pool.network = none := by
  rw [cidrToRange, h.1, List.splitOn_eq_singleton fun hc => (plain_of_mem_quadText hc).2 rfl]

theorem covers_planned (n : Ipv4Network) (address : Nat) :
    address / 2 ^ n.plannedBits = quadValue n.quad / 2 ^ n.plannedBits ↔
      if n.len = 0 then address = quadValue n.quad else n.Covers address := by
  unfold Ipv4Network.plannedBits
  split
  · simp
  · exact Iff.rfl

theorem meets_of_len_zero {n m : Ipv4Network} (h : n.len = 0) : n.Meets m := by
  refine ⟨quadValue m.quad, ?_, rfl⟩
  rw [Ipv4Network.Covers, h, Nat.div_eq_of_lt (quadValue_lt m.quad),
    Nat.div_eq_of_lt (quadValue_lt n.quad)]

/-- Pools overlap exactly when they share an address; the planner agrees where it reads them so. -/
theorem overlap_spec {operand : List Char → BitVec 32}
    (hoperand : ∀ octet : Fin 256, operand (Nat.toDigits 10 octet) = BitVec.ofNat 32 octet)
    {a b : Ipv4Pool} {n m : Ipv4Network} (ha : a.Slashed n ∨ a.Masked n)
    (hb : b.Slashed m ∨ b.Masked m) (hpeer : isPeer a none b = true) :
    (((detectOverlap [b] a none).isSome ↔ n.Meets m) ∧
      ((detectOverlap [b] a none).isSome ↔ cidrsOverlap operand a.network b.network)) ↔
    PlannedAlike a b n m := by
  rw [detectOverlap_iff ha hb hpeer, and_iff_right Iff.rfl, PlannedAlike]
  by_cases hslashed : a.Slashed n ∧ b.Slashed m
  · obtain ⟨r, hr, hspans⟩ := cidrToRange_spans hoperand n
    obtain ⟨r', hr', hspans'⟩ := cidrToRange_spans hoperand m
    have hmeet := hspans.meet hspans'
    simp only [hslashed, not_true_eq_false, and_self, true_imp_iff, false_imp_iff, and_true]
    rw [hslashed.1, hslashed.2, cidrsOverlap, hr, hr']
    simp only [decide_eq_true_eq, hmeet, covers_planned]
    by_cases hn : n.len = 0 <;> by_cases hm : m.len = 0
    · simp [hn, hm, meets_of_len_zero hn]
    · simp [hn, hm, meets_of_len_zero hn]
    · have hmeets : n.Meets m := (meets_of_len_zero hm).imp fun _ => And.symm
      simp [hn, hm, hmeets]
    · simp [hn, hm, Ipv4Network.Meets]
  · have hplanned : cidrsOverlap operand a.network b.network = false := by
      rcases not_and_or.mp hslashed with hnot | hnot
      · rw [cidrsOverlap, not_slashed (ha.resolve_left hnot)]
      · rw [cidrsOverlap, not_slashed (hb.resolve_left hnot)]
        cases cidrToRange operand a.network <;> rfl
    simp [hplanned, hslashed]

/-- `Number(text)` of a text of digits. -/
def plainOperand (text : List Char) : BitVec 32 := BitVec.ofNat 32 (Numeral.digitsValue 10 text)

/-- `10.0.0.0` with a prefix length. -/
def tenNet (len : Fin 33) : Ipv4Network := ⟨(10, 0, 0, 0), len, Nat.le_of_lt_succ len.isLt⟩

def slashedPool (id : Nat) (n : Ipv4Network) : Ipv4Pool :=
  ⟨id, some 1, quadText n.quad ++ '/' :: Nat.toDigits 10 n.len, none, false⟩

theorem plainOperand_octet (octet : Fin 256) :
    plainOperand (Nat.toDigits 10 octet) = BitVec.ofNat 32 octet :=
  congrArg (BitVec.ofNat 32) (Numeral.digitsValue_toDigits (by decide) (by decide) octet)

theorem overlap_spec_sample :
    (detectOverlap [slashedPool 2 (tenNet 16)] (slashedPool 1 (tenNet 8)) none).isSome ↔
      (tenNet 8).Meets (tenNet 16) := by
  have ha : (slashedPool 1 (tenNet 8)).Slashed (tenNet 8) := rfl
  have hb : (slashedPool 2 (tenNet 16)).Slashed (tenNet 16) := rfl
  have hn : (tenNet 8).len ≠ 0 := by decide
  have hm : (tenNet 16).len ≠ 0 := by decide
  exact ((overlap_spec plainOperand_octet (Or.inl ha) (Or.inl hb) rfl).mpr
    ⟨fun _ => ⟨fun h => absurd h hn, fun h => absurd h hn, fun h => absurd h hm⟩,
      fun h => absurd ⟨ha, hb⟩ h⟩).1

/-- The planner takes `0.0.0.0/0` for one address. -/
theorem default_route_missed :
    ¬∀ (operand : List Char → BitVec 32) (a b : Ipv4Pool) (n m : Ipv4Network),
      (∀ octet : Fin 256, operand (Nat.toDigits 10 octet) = BitVec.ofNat 32 octet) →
      a.Slashed n ∨ a.Masked n → b.Slashed m ∨ b.Masked m → isPeer a none b = true →
        ((detectOverlap [b] a none).isSome ↔ n.Meets m) ∧
          ((detectOverlap [b] a none).isSome ↔ cidrsOverlap operand a.network b.network) := by
  intro h
  have hagree := h plainOperand (slashedPool 1 ⟨(0, 0, 0, 0), 0, Nat.zero_le 32⟩)
    (slashedPool 2 (tenNet 8)) _ (tenNet 8) plainOperand_octet (Or.inl rfl) (Or.inl rfl) (by decide)
  exact absurd hagree.2 (by decide)

end FireIsp.Ipam
