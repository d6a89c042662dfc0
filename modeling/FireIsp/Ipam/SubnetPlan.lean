import FireIsp.Ipam.Overlap
import Mathlib.Algebra.Ring.Nat

/-!
# Subnet plans

`planSubnets` cuts a network into blocks of one length and returns their texts. The blocks are a
partition of the network unless the length is more than an address has bits, or the network is
written with a dotted quad that the planner misreads.
-/

namespace FireIsp.Ipam

open Ipv6

def planSubnetsIPv4 (operand : List Char → BitVec 32) (baseAddr : List Char)
    (prefixLen subPrefixLen subnetCount : Nat) : List (List Char) :=
  let part index := ((baseAddr.splitOn '.')[index]?).elim 0 operand
  let mask := if prefixLen = 0 then 0 else shiftLeft (BitVec.allOnes 32) (32 - prefixLen)
  let base := (part 0 <<< 24 ||| part 1 <<< 16 ||| part 2 <<< 8 ||| part 3) &&& mask
  let step := if prefixLen = subPrefixLen then 0 else shiftLeft 1 (32 - subPrefixLen)
  (List.range subnetCount).map fun i =>
    let addr := base + BitVec.ofNat 32 i * step
    quadText (octetAt addr 24, octetAt addr 16, octetAt addr 8, octetAt addr 0) ++
      '/' :: Nat.toDigits 10 subPrefixLen

/-- `expandIPv6(baseAddr).split(':')`. -/
def expandIPv6 (addr : List Char) : Option (List (List Char)) :=
  (expandedGroups addr).map (·.map padStart)

/-- `hex.slice(j * 4, j * 4 + 4)` for the groups of `addr.toString(16).padStart(32, '0')`. -/
def hexSlices (addr : Nat) : List (List Char) :=
  let digits := Nat.toDigits 16 addr
  let hex := List.replicate (32 - digits.length) '0' ++ digits
  (List.range 8).map fun j => (hex.drop (4 * j)).take 4

def planSubnetsIPv6 (baseAddr : List Char) (prefixLen subPrefixLen subnetCount : Nat) :
    Option (List (List Char)) := do
  let groups ← expandIPv6 baseAddr
  let address ← groups.foldlM addGroup 0
  let mask : Int := if prefixLen = 0 then 0
    else ((1 : Int) <<< (128 : Int) - 1) - ((1 : Int) <<< (128 - prefixLen : Int) - 1)
  let base := Int.land address mask
  let step := (1 : Int) <<< (128 - subPrefixLen : Int)
  pure ((List.range subnetCount).map fun i : Nat =>
    [':'].intercalate (hexSlices (base + i * step).toNat) ++ '/' :: Nat.toDigits 10 subPrefixLen)

/-- `planSubnets` throws. -/
inductive PlanRefusal
  /-- `sub_prefix_len must be >= prefix_len`. -/
  | below
  /-- `Too many subnets requested (max 65536)`. -/
  | tooMany
  /-- A group is not a number, or there are more than eight. -/
  | unreadable
  deriving DecidableEq

def planSubnets (operand : List Char → BitVec 32) (network : List Char)
    (prefixLen subPrefixLen : Nat) : Except PlanRefusal (List (List Char)) :=
  let baseAddr := (network.splitOn '/').headD []
  let subnetCount := 2 ^ (subPrefixLen - prefixLen)
  if subPrefixLen < prefixLen then .error .below
  else if 65536 < subnetCount then .error .tooMany
  else if ':' ∈ baseAddr then
    (planSubnetsIPv6 baseAddr prefixLen subPrefixLen subnetCount).elim (.error .unreadable) .ok
  else .ok (planSubnetsIPv4 operand baseAddr prefixLen subPrefixLen subnetCount)

/-- Address of a network, as it is written. -/
inductive Parent
  | v4 (quad : Quad)
  | v6 (form : Form)

namespace Parent

def text : Parent → List Char
  | v4 quad => quadText quad
  | v6 form => form.text

/-- Bits of an address. -/
def width : Parent → Nat
  | v4 _ => 32
  | v6 _ => 128

def value : Parent → Nat
  | v4 quad => quadValue quad
  | v6 form => form.value

end Parent

/-- Digits a group starts with, as a number. -/
def leading (group : List Char) : Nat :=
  Numeral.digitsValue 16 (group.takeWhile (Numeral.isDigit 16))

/-- The address as the planner reads it: a quad is one group, of its first number. -/
def Parent.read : Parent → Nat
  | v4 quad => quadValue quad
  | v6 form => Form.wordsValue ((expanded form).map leading)

/-- Addresses of a block of `2 ^ host`. -/
def Covers (start host address : Nat) : Prop := address / 2 ^ host = start / 2 ^ host

/-- The text says a block of addresses of `width` bits. -/
def Denotes (width : Nat) (text : List Char) (start len : Nat) : Prop :=
  len ≤ width ∧ ∃ addr, text = addr ++ '/' :: Nat.toDigits 10 len ∧
    (width = 32 ∧ (∃ quad, addr = quadText quad ∧ quadValue quad = start) ∨
      width = 128 ∧ ∃ form : Form, form.quad = none ∧ addr = form.text ∧ form.value = start)

/-- Aligned blocks, no two of which share an address, with exactly the parent's addresses. -/
structure Partitions (width value len : Nat) (texts : List (List Char)) : Prop where
  aligned : ∀ text ∈ texts, ∃ start len, Denotes width text start len ∧ 2 ^ (width - len) ∣ start
  apart : texts.Pairwise fun text other => ∀ start len start' len', Denotes width text start len →
    Denotes width other start' len' → ∀ address, Covers start (width - len) address →
      ¬Covers start' (width - len') address
  covered : ∀ address, (∃ text ∈ texts, ∃ start len, Denotes width text start len ∧
    Covers start (width - len) address) ↔ Covers value (width - len) address

section Blocks

variable {width value len sub : Nat}

/-- Blocks of one length, one after the other. -/
theorem block_iff {host count start address i : Nat} :
    Covers (start * 2 ^ (count + host) + i * 2 ^ host) host address ↔
      address / 2 ^ host = start * 2 ^ count + i := by
  rw [Covers, Nat.pow_add, ← Nat.mul_assoc, ← Nat.add_mul,
    Nat.mul_div_cancel _ (Nat.two_pow_pos host)]

theorem covered_iff {host count start address : Nat} :
    (∃ i < 2 ^ count, Covers (start * 2 ^ (count + host) + i * 2 ^ host) host address) ↔
      address / 2 ^ (count + host) = start := by
  have hdiv : address / 2 ^ (count + host) = address / 2 ^ host / 2 ^ count := by
    rw [Nat.div_div_eq_div_mul, ← Nat.pow_add, Nat.add_comm]
  simp only [block_iff, hdiv]
  constructor
  · rintro ⟨i, hi, hquot⟩
    rw [hquot, Nat.mul_comm, Nat.mul_add_div (Nat.two_pow_pos count), Nat.div_eq_of_lt hi,
      Nat.add_zero]
  · rintro rfl
    exact ⟨address / 2 ^ host % 2 ^ count, Nat.mod_lt _ (Nat.two_pow_pos count),
      (Nat.div_add_mod' _ _).symm⟩

/-- A text is cut at its slash in one way. -/
theorem Denotes.cut {text addr : List Char} {start : Nat} (h : Denotes width text start len)
    (htext : text = addr ++ '/' :: Nat.toDigits 10 sub) :
    len = sub ∧ len ≤ width ∧ (width = 32 ∧ (∃ quad, addr = quadText quad ∧ quadValue quad = start) ∨
      width = 128 ∧ ∃ form : Form, form.quad = none ∧ addr = form.text ∧ form.value = start) := by
  obtain ⟨hlen, addr', htext', hsays⟩ := h
  have hslash : '/' ∉ addr' := by
    rcases hsays with ⟨-, quad, rfl, -⟩ | ⟨-, form, -, rfl, -⟩
    · exact fun h => (plain_of_mem_quadText h).2 rfl
    · exact slash_not_mem_text form
  obtain ⟨rfl, -, hdigits⟩ := (List.append_cons_inj_of_notMem hslash (slash_not_mem_numeral len)).mp
    (htext'.symm.trans htext)
  have hvalue := congrArg (Numeral.digitsValue 10) hdigits
  rw [Numeral.digitsValue_toDigits (by decide) (by decide),
    Numeral.digitsValue_toDigits (by decide) (by decide)] at hvalue
  exact ⟨hvalue, hlen, hsays⟩

theorem Denotes.unique {text : List Char} {start start' len' : Nat}
    (h : Denotes width text start len) (h' : Denotes width text start' len') :
    start = start' ∧ len = len' := by
  obtain ⟨-, addr, htext, hsays⟩ := h'
  obtain ⟨hlen, -, hsays'⟩ := h.cut htext
  refine ⟨?_, hlen⟩
  rcases hsays with ⟨rfl, quad, rfl, rfl⟩ | ⟨rfl, form, hquad, rfl, rfl⟩
  · rcases hsays' with ⟨-, quad', htext', rfl⟩ | ⟨hwidth, -⟩
    · have hvalue := congrArg ipv4ToInt htext'
      rw [ipv4ToInt_quadText, ipv4ToInt_quadText] at hvalue
      rw [← toNat_quadValue quad, hvalue, toNat_quadValue]
    · cases hwidth
  · rcases hsays' with ⟨hwidth, -⟩ | ⟨-, form', hquad', htext', rfl⟩
    · cases hwidth
    · have hvalue := ipv6ToBigInt_text hquad
      rw [htext', ipv6ToBigInt_text hquad'] at hvalue
      exact Int.ofNat.inj (Option.some.inj hvalue)

variable {texts : List (List Char)} {textAt : Nat → List Char} {read : Nat}
  (htexts : texts = (List.range (2 ^ (sub - len))).map textAt) (hlen : len ≤ sub)
  (hdenotes : ∀ i < 2 ^ (sub - len), sub ≤ width → Denotes width (textAt i)
    (read / 2 ^ (width - len) * 2 ^ (width - len) + i * 2 ^ (width - sub)) sub)

include htexts hlen hdenotes in
theorem partitions_read (hsub : sub ≤ width) : Partitions width read len texts := by
  have hhost : width - len = (sub - len) + (width - sub) := by omega
  have hcovered : ∀ address, (∃ i < 2 ^ (sub - len), Covers
      (read / 2 ^ (width - len) * 2 ^ (width - len) + i * 2 ^ (width - sub)) (width - sub) address) ↔
      Covers read (width - len) address := fun address => by
    rw [Covers, hhost]
    exact covered_iff
  refine ⟨fun text hmem => ?_, ?_, fun address => ?_⟩
  · rw [htexts] at hmem
    obtain ⟨i, hi, rfl⟩ := List.mem_map.mp hmem
    refine ⟨_, sub, hdenotes i (List.mem_range.mp hi) hsub, ?_⟩
    exact Nat.dvd_add (Nat.dvd_mul_left_of_dvd (Nat.pow_dvd_pow 2 (by omega)) _) (Nat.dvd_mul_left _ _)
  · rw [htexts, List.pairwise_map]
    refine List.Pairwise.imp_of_mem ?_ List.pairwise_lt_range
    intro i j hi hj hij start len' start' len'' h h' address hcover hcover'
    obtain ⟨rfl, rfl⟩ := h.unique (hdenotes i (List.mem_range.mp hi) hsub)
    obtain ⟨rfl, rfl⟩ := h'.unique (hdenotes j (List.mem_range.mp hj) hsub)
    rw [hhost] at hcover hcover'
    exact absurd ((block_iff.mp hcover).symm.trans (block_iff.mp hcover')) (by omega)
  · rw [← hcovered, htexts]
    constructor
    · rintro ⟨text, hmem, start, len', h, hcover⟩
      obtain ⟨i, hi, rfl⟩ := List.mem_map.mp hmem
      obtain ⟨rfl, rfl⟩ := h.unique (hdenotes i (List.mem_range.mp hi) hsub)
      exact ⟨i, List.mem_range.mp hi, hcover⟩
    · rintro ⟨i, hi, hcover⟩
      exact ⟨_, List.mem_map_of_mem (List.mem_range.mpr hi), _, _, hdenotes i hi hsub, hcover⟩

include htexts hlen hdenotes in
theorem partitions_iff {value : Nat} (hcut : ∀ i, ∃ addr, textAt i = addr ++ '/' :: Nat.toDigits 10 sub) :
    Partitions width value len texts ↔
      sub ≤ width ∧ read / 2 ^ (width - len) = value / 2 ^ (width - len) := by
  constructor
  · intro h
    obtain ⟨addr, haddr⟩ := hcut 0
    have hmem : textAt 0 ∈ texts :=
      htexts ▸ List.mem_map_of_mem (List.mem_range.mpr (Nat.two_pow_pos _))
    obtain ⟨start, len', hsays, -⟩ := h.aligned _ hmem
    obtain ⟨rfl, hsub, -⟩ := hsays.cut haddr
    have hread := partitions_read htexts hlen hdenotes hsub
    exact ⟨hsub, (h.covered read).mp ((hread.covered read).mpr rfl)⟩
  · rintro ⟨hsub, hsame⟩
    have hread := partitions_read htexts hlen hdenotes hsub
    refine ⟨hread.aligned, hread.apart, fun address => (hread.covered address).trans ?_⟩
    rw [Covers, Covers, hsame]

end Blocks

theorem block_lt {width value len sub i : Nat} (hlen : len ≤ sub) (hsub : sub ≤ width)
    (hvalue : value < 2 ^ width) (hi : i < 2 ^ (sub - len)) :
    value / 2 ^ (width - len) * 2 ^ (width - len) + i * 2 ^ (width - sub) < 2 ^ width := by
  have hfits := start_add_lt (Nat.sub_le width len) hvalue
  have hpow : 2 ^ (sub - len) * 2 ^ (width - sub) = 2 ^ (width - len) := by
    rw [← Nat.pow_add]
    congr 1
    omega
  have hlast := Nat.mul_lt_mul_of_pos_right hi (Nat.two_pow_pos (width - sub))
  omega

theorem quadValue_octets (addr : BitVec 32) :
    quadValue (octetAt addr 24, octetAt addr 16, octetAt addr 8, octetAt addr 0) = addr.toNat := by
  have hlt := addr.isLt
  simp only [quadValue, octetAt, Fin.val_ofNat]
  omega

theorem planSubnetsIPv4_iff {operand : List Char → BitVec 32}
    (hoperand : ∀ octet : Fin 256, operand (Nat.toDigits 10 octet) = BitVec.ofNat 32 octet)
    (quad : Quad) {len sub : Nat} (hwidth : len ≤ 32) (hlen : len ≤ sub) :
    Partitions 32 (quadValue quad) len
      (planSubnetsIPv4 operand (quadText quad) len sub (2 ^ (sub - len))) ↔ sub ≤ 32 := by
  have hmask : ∀ len : Nat, len ≤ 32 → (if len = 0 then 0
      else shiftLeft (BitVec.allOnes 32) (32 - len)) = BitVec.allOnes 32 <<< (32 - len) := by decide
  have hstep : ∀ sub : Nat, sub ≤ 32 → sub ≠ 0 →
      (shiftLeft 1 (32 - sub)).toNat = 2 ^ (32 - sub) := by decide
  obtain ⟨textAt, htexts, hdenotes, hcut⟩ : ∃ textAt : Nat → List Char,
      planSubnetsIPv4 operand (quadText quad) len sub (2 ^ (sub - len)) =
        (List.range (2 ^ (sub - len))).map textAt ∧
      (∀ i < 2 ^ (sub - len), sub ≤ 32 → Denotes 32 (textAt i)
        (quadValue quad / 2 ^ (32 - len) * 2 ^ (32 - len) + i * 2 ^ (32 - sub)) sub) ∧
      ∀ i, ∃ addr, textAt i = addr ++ '/' :: Nat.toDigits 10 sub := by
    refine ⟨_, rfl, fun i hi hsub => ⟨hsub, _, rfl, Or.inl ⟨rfl, _, rfl, ?_⟩⟩, fun i => ⟨_, rfl⟩⟩
    have hlt := block_lt hlen hsub (quadValue_lt quad) hi
    have hstart := toNat_start (BitVec.ofNat 32 (quadValue quad)) (32 - len)
    rw [toNat_quadValue] at hstart
    rw [quadValue_octets]
    simp only [splitOn_quadText, List.map_cons, List.getElem?_cons_zero, List.getElem?_cons_succ,
      Option.elim_some, hoperand, or_octets, hmask len hwidth]
    have hoffset : (BitVec.ofNat 32 i * if len = sub then 0 else shiftLeft 1 (32 - sub)).toNat =
        i * 2 ^ (32 - sub) := by
      split_ifs with hsame
      · rw [hsame, Nat.sub_self, Nat.pow_zero, Nat.lt_one_iff] at hi
        rw [hi, Nat.zero_mul]
        rfl
      · have hpos := Nat.two_pow_pos (32 - sub)
        have hle : i ≤ i * 2 ^ (32 - sub) := Nat.le_mul_of_pos_right i hpos
        have hi' : i % 2 ^ 32 = i := Nat.mod_eq_of_lt (by omega)
        rw [BitVec.toNat_mul, BitVec.toNat_ofNat, hstep sub hsub (by omega), hi',
          Nat.mod_eq_of_lt (by omega)]
    rw [BitVec.toNat_add, hstart, hoffset, Nat.mod_eq_of_lt hlt]
  rw [partitions_iff htexts hlen hdenotes hcut]
  exact and_iff_left rfl

/-- The group starts with one to four hexadecimal digits, and `parseInt` stops behind them. -/
def Starts (group : List Char) : Prop :=
  ∃ digits rest, group = digits ++ rest ∧ digits ≠ [] ∧ digits.length ≤ 4 ∧
    (∀ c ∈ digits, Numeral.isDigit 16 c = true) ∧
    ∀ c ∈ rest.head?, Numeral.isDigit 16 c = false ∧ c ≠ 'x' ∧ c ≠ 'X'

theorem starts_of_digits {digits : List Char} (hne : digits ≠ []) (hshort : digits.length ≤ 4)
    (hhex : ∀ c ∈ digits, Numeral.isDigit 16 c = true) : Starts digits :=
  ⟨digits, [], (List.append_nil _).symm, hne, hshort, hhex, fun c hc => by cases hc⟩

theorem starts_expanded (form : Form) :
    (expanded form).length ≤ 8 ∧ ∀ group ∈ expanded form, Starts group := by
  have hpieces : ∀ groups quad, ∀ piece ∈ pieces groups quad, Starts piece := by
    intro groups quad piece hpiece
    rcases List.mem_append.mp hpiece with hpiece | hpiece
    · obtain ⟨group, -, rfl⟩ := List.mem_map.mp hpiece
      exact starts_of_digits group.nonempty group.short group.hex
    · obtain ⟨quad, -, rfl⟩ := List.mem_map.mp hpiece
      refine ⟨Nat.toDigits 10 quad.1, _, by simp [quadText]; rfl, Nat.toDigits_ne_nil, ?_, ?_, ?_⟩
      · exact (Nat.length_toDigits_le_iff (by decide) (by decide)).mpr (by omega)
      · intro c hc
        obtain ⟨value, hvalue, hlt⟩ :=
          Numeral.isDigit_spec (Numeral.isDigit_toDigits (by decide) (by decide) quad.1.val c hc)
        rw [Numeral.isDigit, hvalue]
        exact decide_eq_true (by omega)
      · rintro c hc
        cases hc
        decide
  have hlength : ∀ quad : Option Quad, quad.toList.length ≤ 1 := fun quad => by cases quad <;> simp
  obtain ⟨left, right, quad, size⟩ := form
  have := hlength quad
  unfold expanded
  cases right with
  | none =>
    refine ⟨?_, hpieces left quad⟩
    simp only [pieces, List.length_append, List.length_map]
    simp only at size
    omega
  | some right =>
    simp only at size
    constructor
    · simp only [pieces, List.length_append, List.length_map, List.length_replicate]
      omega
    · intro group hgroup
      rcases List.mem_append.mp hgroup with hgroup | hgroup
      · rcases List.mem_append.mp hgroup with hgroup | hgroup
        · exact hpieces left none group (List.mem_append_left _ hgroup)
        · rw [List.eq_of_mem_replicate hgroup]
          exact starts_of_digits (by decide) (by decide) (List.all_eq_true.mp rfl)
      · exact hpieces right quad group hgroup

theorem addGroup_padStart {group : List Char} (h : Starts group) (acc : Nat) :
    leading group < 65536 ∧
      addGroup acc (padStart group) = some ((acc * 65536 + leading group : Nat) : Int) := by
  obtain ⟨digits, rest, rfl, hne, hshort, hhex, hrest⟩ := h
  have hstop : rest.takeWhile (Numeral.isDigit 16) = [] := by
    cases rest with
    | nil => rfl
    | cons c rest => rw [List.takeWhile_cons, (hrest c rfl).1, if_neg Bool.false_ne_true]
  have hleading : leading (digits ++ rest) = Numeral.digitsValue 16 digits := by
    rw [leading, List.takeWhile_append_of_pos hhex, hstop, List.append_nil]
  have hlt : Numeral.digitsValue 16 digits < 65536 :=
    calc Numeral.digitsValue 16 digits < 16 ^ digits.length := Numeral.digitsValue_lt hhex
      _ ≤ 16 ^ 4 := Nat.pow_le_pow_right (by decide) hshort
  rw [hleading]
  refine ⟨hlt, ?_⟩
  unfold addGroup padStart
  rw [← List.append_assoc]
  generalize 4 - (digits ++ rest).length = count
  have hvalue := Numeral.digitsValue_zeros 16 count digits
  have hread := @Numeral.parseInt_leading 16 (List.replicate count '0' ++ digits) rest
    (List.append_ne_nil_of_right_ne_nil _ hne) (fun c hc => ?_) hrest (by rw [hvalue]; omega)
  · have hempty : (List.replicate count '0' ++ digits ++ rest).isEmpty = false := by simp [hne]
    rw [hempty, if_neg Bool.false_ne_true, hread, hvalue]
    exact congrArg some (lor_shiftLeft acc hlt)
  · rcases List.mem_append.mp hc with hc | hc
    · rw [List.eq_of_mem_replicate hc]
      rfl
    · exact hhex c hc

theorem foldlM_padStart {groups : List (List Char)} (h : ∀ group ∈ groups, Starts group)
    (acc : Nat) : (groups.map padStart).foldlM addGroup (acc : Int) =
      some (((groups.map leading).foldl (fun value word => value * 65536 + word) acc : Nat) : Int) := by
  induction groups generalizing acc with
  | nil => rfl
  | cons group groups ih =>
    rw [List.map_cons, List.foldlM_cons, (addGroup_padStart (h group List.mem_cons_self) acc).2]
    exact ih (fun other hother => h other (List.mem_cons_of_mem group hother)) _

theorem read_lt (form : Form) : (Parent.v6 form).read < 2 ^ 128 := by
  obtain ⟨hlength, hstarts⟩ := starts_expanded form
  have hlt : (Parent.v6 form).read < 65536 ^ ((expanded form).map leading).length :=
    Form.wordsValue_lt fun word hword => by
      obtain ⟨group, hgroup, rfl⟩ := List.mem_map.mp hword
      exact (addGroup_padStart (hstarts group hgroup) 0).1
  rw [List.length_map] at hlt
  exact Nat.lt_of_lt_of_le hlt (Nat.pow_le_pow_right (by decide) hlength)

theorem foldl_slices (count : Nat) {hex : List Char} (h : hex.length = 4 * count) (acc : Nat) :
    (((List.range count).map fun j => (hex.drop (4 * j)).take 4).map (Numeral.digitsValue 16)).foldl
      (fun value word => value * 65536 + word) acc =
        acc * 65536 ^ count + Numeral.digitsValue 16 hex := by
  induction count generalizing hex acc with
  | zero =>
    rw [List.length_eq_zero_iff.mp h]
    simp [Numeral.digitsValue]
  | succ count ih =>
    have hlength : (hex.drop 4).length = 4 * count := by
      rw [List.length_drop, h]
      omega
    have hvalue := Numeral.digitsValue_append 16 (hex.take 4) (hex.drop 4)
    rw [List.take_append_drop, hlength, Nat.pow_mul] at hvalue
    have htail := ih hlength (acc * 65536 + Numeral.digitsValue 16 (hex.take 4))
    simp only [List.drop_drop, List.map_map, Function.comp_def] at htail
    have hdrop : ∀ j, 4 * (j + 1) = 4 + 4 * j := fun j => by omega
    rw [List.range_succ_eq_map, List.map_cons, List.map_cons, List.foldl_cons]
    simp only [List.map_map, Function.comp_def, Nat.succ_eq_add_one, hdrop, Nat.mul_zero,
      List.drop_zero]
    rw [htail, hvalue, Nat.pow_succ]
    ring

theorem hexSlices_text {addr : Nat} (h : addr < 2 ^ 128) : ∃ form : Form, form.quad = none ∧
    [':'].intercalate (hexSlices addr) = form.text ∧ form.value = addr := by
  have hdigits : (Nat.toDigits 16 addr).length ≤ 32 :=
    (Nat.length_toDigits_le_iff (by decide) (by decide)).mpr h
  obtain ⟨hex, hhex⟩ : ∃ hex, hex = List.replicate (32 - (Nat.toDigits 16 addr).length) '0' ++
      Nat.toDigits 16 addr := ⟨_, rfl⟩
  have hlength : hex.length = 4 * 8 := by
    rw [hhex, List.length_append, List.length_replicate]
    omega
  have hvalue : Numeral.digitsValue 16 hex = addr := by
    rw [hhex, Numeral.digitsValue_zeros, Numeral.digitsValue_toDigits (by decide) (by decide)]
  have hdigit : ∀ c ∈ hex, Numeral.isDigit 16 c = true := by
    intro c hc
    rcases List.mem_append.mp (hhex ▸ hc) with hc | hc
    · rw [List.eq_of_mem_replicate hc]
      rfl
    · exact Numeral.isDigit_toDigits (by decide) (by decide) addr c hc
  have hslice : ∀ j < 8, ((hex.drop (4 * j)).take 4).length = 4 := fun j hj => by
    rw [List.length_take, List.length_drop]
    omega
  let group (j : Fin 8) : Hextet := ⟨(hex.drop (4 * j.val)).take 4,
    List.ne_nil_of_length_pos (by rw [hslice j j.isLt]; decide), (hslice j j.isLt).le,
    fun c hc => hdigit c (List.mem_of_mem_drop (List.mem_of_mem_take hc))⟩
  have hgroups : hexSlices addr = ((List.finRange 8).map group).map Hextet.digits := by
    rw [hexSlices, ← hhex, List.map_map]
    rfl
  refine ⟨⟨(List.finRange 8).map group, none, none, rfl⟩, rfl, ?_, ?_⟩
  · simp [hgroups, Form.text, Form.groupsText]
  · have hfold := foldl_slices 8 hlength 0
    rw [hvalue, Nat.zero_mul, Nat.zero_add] at hfold
    rw [← hfold]
    simp only [Form.value, Form.words, Option.toList_none, List.flatMap_nil, List.append_nil,
      List.map_map]
    rfl

theorem planSubnetsIPv6_iff (form : Form) {len sub : Nat} (hwidth : len ≤ 128) (hlen : len ≤ sub) :
    ∃ texts, planSubnetsIPv6 form.text len sub (2 ^ (sub - len)) = some texts ∧
      (Partitions 128 form.value len texts ↔ sub ≤ 128 ∧
        (Parent.v6 form).read / 2 ^ (128 - len) = form.value / 2 ^ (128 - len)) := by
  have hmask : ∀ len : Nat, len ≤ 128 → (if len = 0 then (0 : Int)
      else ((1 : Int) <<< (128 : Int) - 1) - ((1 : Int) <<< (128 - len : Int) - 1)) =
        ((BitVec.allOnes 128 <<< (128 - len)).toNat : Int) := by decide +kernel
  have hbase : Int.land (Parent.v6 form).read (BitVec.allOnes 128 <<< (128 - len)).toNat =
      (((Parent.v6 form).read / 2 ^ (128 - len) * 2 ^ (128 - len) : Nat) : Int) := by
    have hstart := toNat_start (BitVec.ofNat 128 (Parent.v6 form).read) (128 - len)
    rw [BitVec.toNat_and, BitVec.toNat_ofNat, Nat.mod_eq_of_lt (read_lt form)] at hstart
    exact congrArg Int.ofNat hstart
  have hread : (expandIPv6 form.text).bind (fun groups => groups.foldlM addGroup 0) =
      some ((Parent.v6 form).read : Int) := by
    rw [expandIPv6, expandedGroups_text]
    exact foldlM_padStart (starts_expanded form).2 0
  obtain ⟨groups, hgroups, hread⟩ := Option.bind_eq_some_iff.mp hread
  obtain ⟨textAt, htexts, hdenotes, hcut⟩ : ∃ textAt : Nat → List Char,
      planSubnetsIPv6 form.text len sub (2 ^ (sub - len)) =
        some ((List.range (2 ^ (sub - len))).map textAt) ∧
      (∀ i < 2 ^ (sub - len), sub ≤ 128 → Denotes 128 (textAt i)
        ((Parent.v6 form).read / 2 ^ (128 - len) * 2 ^ (128 - len) + i * 2 ^ (128 - sub)) sub) ∧
      ∀ i, ∃ addr, textAt i = addr ++ '/' :: Nat.toDigits 10 sub := by
    refine ⟨fun i => [':'].intercalate (hexSlices
      (((Parent.v6 form).read / 2 ^ (128 - len) * 2 ^ (128 - len) : Nat) +
        i * (1 : Int) <<< (128 - sub : Int)).toNat) ++ '/' :: Nat.toDigits 10 sub,
      ?_, fun i hi hsub => ?_, fun i => ⟨_, rfl⟩⟩
    · unfold planSubnetsIPv6
      simp only [hgroups, hread, hmask len hwidth, hbase, Option.bind_eq_bind, Option.bind_some,
        Option.pure_def]
    · have hhost : (128 - sub : Int) = ((128 - sub : Nat) : Int) := by omega
      obtain ⟨form', hquad, htext, hvalue⟩ := hexSlices_text (block_lt hlen hsub (read_lt form) hi)
      refine ⟨hsub, _, rfl, Or.inr ⟨rfl, form', hquad, ?_, hvalue⟩⟩
      rw [← htext, hhost, shiftLeft_one, ← Int.natCast_mul, ← Int.natCast_add, Int.toNat_natCast]
  exact ⟨_, htexts, partitions_iff rfl hlen hdenotes hcut⟩

/-- A network as an address, with or without a length behind a slash. -/
def Parent.Written (parent : Parent) (network : List Char) : Prop :=
  network = parent.text ∨ ∃ rest, network = parent.text ++ '/' :: rest

theorem colon_mem_text (form : Form) : ':' ∈ form.text := by
  obtain ⟨left, right, quad, size⟩ := form
  cases right with
  | some right => simp [Form.text]
  | none =>
    have hlength : 2 ≤ (pieces left quad).length := by
      simp only [pieces, List.length_append, List.length_map]
      simp only at size
      omega
    change ':' ∈ [':'].intercalate (pieces left quad)
    generalize pieces left quad = groups at hlength
    rcases groups with _ | ⟨first, _ | ⟨second, rest⟩⟩
    · exact absurd hlength (by decide)
    · exact absurd hlength (by simp)
    · rw [List.intercalate_cons_cons]
      simp

/-- A plan is a partition exactly when its length fits and the parent is read as it is written. -/
theorem planSubnets_spec {operand : List Char → BitVec 32}
    (hoperand : ∀ octet : Fin 256, operand (Nat.toDigits 10 octet) = BitVec.ofNat 32 octet)
    {parent : Parent} {network : List Char} (hwritten : parent.Written network) {len sub : Nat}
    (hwidth : len ≤ parent.width) {texts : List (List Char)}
    (hplan : planSubnets operand network len sub = .ok texts) :
    Partitions parent.width parent.value len texts ↔ sub ≤ parent.width ∧
      parent.read / 2 ^ (parent.width - len) = parent.value / 2 ^ (parent.width - len) := by
  have hslash : '/' ∉ parent.text := by
    cases parent with
    | v4 quad => exact fun h => (plain_of_mem_quadText h).2 rfl
    | v6 form => exact slash_not_mem_text form
  have hbase : (network.splitOn '/').headD [] = parent.text := by
    rcases hwritten with rfl | ⟨rest, rfl⟩
    · rw [List.splitOn_eq_singleton hslash]
      rfl
    · rw [List.splitOn_append_cons_self_of_not_mem hslash]
      rfl
  unfold planSubnets at hplan
  simp only [hbase] at hplan
  split_ifs at hplan with hbelow hmany hcolon
  · cases parent with
    | v4 quad =>
      rcases mem_quadText hcolon with hdot | hdigit
      · cases hdot
      · exact absurd hdigit (by decide)
    | v6 form =>
      obtain ⟨texts', htexts, hiff⟩ := planSubnetsIPv6_iff form hwidth (Nat.le_of_not_lt hbelow)
      change (planSubnetsIPv6 form.text len sub _).elim _ _ = _ at hplan
      rw [htexts] at hplan
      cases hplan
      exact hiff
  · cases parent with
    | v4 quad =>
      cases hplan
      have hiff := planSubnetsIPv4_iff hoperand quad hwidth (Nat.le_of_not_lt hbelow)
      exact hiff.trans (and_iff_left rfl).symm
    | v6 form => exact absurd (colon_mem_text form) hcolon

theorem planSubnets_sample :
    Partitions 32 (quadValue (10, 0, 0, 0)) 31 ["10.0.0.0/32".toList, "10.0.0.1/32".toList] :=
  (@planSubnets_spec _ plainOperand_octet (.v4 (10, 0, 0, 0)) _ (Or.inl rfl) 31 32 (by decide) _
    rfl).mpr ⟨by decide, rfl⟩

/-- A plan of length 33 for four blocks is accepted; no network has that length. -/
theorem overlong_planned :
    ¬∀ operand : List Char → BitVec 32,
      (∀ octet : Fin 256, operand (Nat.toDigits 10 octet) = BitVec.ofNat 32 octet) →
      ∀ (parent : Parent) (network : List Char), parent.Written network →
      ∀ (len sub : Nat) (texts : List (List Char)), len ≤ parent.width →
        planSubnets operand network len sub = .ok texts →
        Partitions parent.width parent.value len texts := by
  intro h
  have hparts := h plainOperand plainOperand_octet (.v4 (10, 0, 0, 0)) _ (Or.inl rfl) 31 33 _
    (by decide) rfl
  obtain ⟨start, len, hsays, -⟩ := hparts.aligned _ List.mem_cons_self
  obtain ⟨rfl, hle, -⟩ := hsays.cut rfl
  exact absurd hle (by decide)

end FireIsp.Ipam
