import FireIsp.Base.Text
import Mathlib.Data.Nat.Basic

/-!
# IPv6 prefixes and their text

A prefix is an aligned block of addresses; two that meet are nested. An address is written as
groups of one to four hexadecimal digits, at most one run of zero groups as `::`, and possibly a
dotted quad for its last two groups.
-/

namespace Ipv6

/-- The addresses that agree in their first `len` bits. -/
structure Prefix where
  start : Nat
  len : Nat
  start_lt : start < 2 ^ 128
  len_le : len ≤ 128
  /-- The bits that are not fixed start at zero. -/
  aligned : 2 ^ (128 - len) ∣ start

namespace Prefix

variable {p q : Prefix}

/-- Number of addresses. -/
def size (p : Prefix) : Nat := 2 ^ (128 - p.len)

def Covers (p : Prefix) (address : Nat) : Prop :=
  p.start ≤ address ∧ address < p.start + p.size

instance (p : Prefix) (address : Nat) : Decidable (p.Covers address) :=
  inferInstanceAs (Decidable (_ ∧ _))

def Meets (p q : Prefix) : Prop := ∃ address, p.Covers address ∧ q.Covers address

def Contains (p q : Prefix) : Prop := ∀ address, q.Covers address → p.Covers address

theorem size_pos (p : Prefix) : 0 < p.size := Nat.two_pow_pos _

theorem covers_start (p : Prefix) : p.Covers p.start :=
  ⟨Nat.le_refl _, Nat.lt_add_of_pos_right p.size_pos⟩

theorem meets_iff : p.Meets q ↔ p.Covers q.start ∨ q.Covers p.start := by
  constructor
  · rintro ⟨address, ⟨hp, hp'⟩, hq, hq'⟩
    unfold Covers
    omega
  · rintro (h | h)
    · exact ⟨q.start, h, q.covers_start⟩
    · exact ⟨p.start, p.covers_start, h⟩

instance (p q : Prefix) : Decidable (p.Meets q) := decidable_of_iff _ meets_iff.symm

theorem grid_le {size a b : Nat} (ha : size ∣ a) (hb : size ∣ b) (h : a < b) :
    a + size ≤ b := by
  obtain ⟨i, rfl⟩ := ha
  obtain ⟨j, rfl⟩ := hb
  have hij : i < j := Nat.lt_of_mul_lt_mul_left h
  calc size * i + size = size * (i + 1) := rfl
    _ ≤ size * j := Nat.mul_le_mul_left size hij

theorem end_le (p : Prefix) : p.start + p.size ≤ 2 ^ 128 :=
  grid_le p.aligned (Nat.pow_dvd_pow 2 (Nat.sub_le 128 p.len)) p.start_lt

/-- Block number `index` of a prefix, when it is cut into blocks of a longer length. -/
def block (p : Prefix) (len index : Nat) (hlen : len ≤ 128)
    (hfit : (index + 1) * 2 ^ (128 - len) ≤ p.size) : Prefix where
  start := p.start + index * 2 ^ (128 - len)
  len := len
  start_lt := by
    have hend := p.end_le
    have hpos := Nat.two_pow_pos (128 - len)
    rw [Nat.add_mul, Nat.one_mul] at hfit
    omega
  len_le := hlen
  aligned := by
    have hle : 2 ^ (128 - len) ≤ 2 ^ (128 - p.len) :=
      Nat.le_trans (Nat.le_mul_of_pos_left _ (Nat.succ_pos index)) hfit
    have hdvd : 2 ^ (128 - len) ∣ 2 ^ (128 - p.len) :=
      Nat.pow_dvd_pow 2 ((Nat.pow_le_pow_iff_right (by decide)).mp hle)
    exact Nat.dvd_add (Nat.dvd_trans hdvd p.aligned) (Nat.dvd_mul_left _ _)

theorem contains_block (p : Prefix) {len index : Nat} (hlen : len ≤ 128)
    (hfit : (index + 1) * 2 ^ (128 - len) ≤ p.size) : p.Contains (p.block len index hlen hfit) := by
  rintro address ⟨hlow, hhigh⟩
  simp only [block, size] at hlow hhigh
  rw [Nat.add_mul, Nat.one_mul] at hfit
  unfold Covers
  omega

def of (address len : Nat) (haddress : address < 2 ^ 128) (hlen : len ≤ 128) : Prefix where
  start := address / 2 ^ (128 - len) * 2 ^ (128 - len)
  len := len
  start_lt := Nat.lt_of_le_of_lt (Nat.div_mul_le_self _ _) haddress
  len_le := hlen
  aligned := Nat.dvd_mul_left _ _

end Prefix

/-- A group: one to four hexadecimal digits. -/
structure Hextet where
  digits : List Char
  nonempty : digits ≠ []
  short : digits.length ≤ 4
  hex : ∀ c ∈ digits, Numeral.isDigit 16 c = true

def Hextet.value (group : Hextet) : Nat := Numeral.digitsValue 16 group.digits

/-- Four octets in decimal. -/
abbrev Quad := Fin 256 × Fin 256 × Fin 256 × Fin 256

def quadText (quad : Quad) : List Char :=
  ['.'].intercalate ([quad.1, quad.2.1, quad.2.2.1, quad.2.2.2].map fun octet : Fin 256 =>
    Nat.toDigits 10 octet.val)

/-- The two groups a dotted quad stands for. -/
def quadWords (quad : Quad) : List Nat :=
  [quad.1.val * 256 + quad.2.1.val, quad.2.2.1.val * 256 + quad.2.2.2.val]

/-- A way to write an address. -/
structure Form where
  left : List Hextet
  /-- Groups after the run of zeros, if there is one. -/
  right : Option (List Hextet)
  quad : Option Quad
  /-- An address has eight groups; a run of zeros stands for one at least. -/
  size : match right with
    | none => left.length + 2 * quad.toList.length = 8
    | some right => left.length + right.length + 2 * quad.toList.length ≤ 7

namespace Form

/-- Values of the eight groups. -/
def words (form : Form) : List Nat :=
  let quad := form.quad.toList.flatMap quadWords
  match form.right with
  | none => form.left.map Hextet.value ++ quad
  | some right =>
    form.left.map Hextet.value ++
      List.replicate (8 - form.left.length - right.length - quad.length) 0 ++
      right.map Hextet.value ++ quad

/-- Number a list of groups stands for. -/
def wordsValue (words : List Nat) : Nat := words.foldl (fun value word => value * 65536 + word) 0

/-- The address. -/
def value (form : Form) : Nat := wordsValue form.words

def groupsText (groups : List Hextet) (quad : Option Quad) : List Char :=
  [':'].intercalate (groups.map Hextet.digits ++ quad.toList.map quadText)

def text (form : Form) : List Char :=
  match form.right with
  | none => groupsText form.left form.quad
  | some right => groupsText form.left none ++ [':', ':'] ++ groupsText right form.quad

theorem wordsValue_lt {words : List Nat} (h : ∀ word ∈ words, word < 65536) :
    wordsValue words < 65536 ^ words.length := by
  induction words using List.reverseRecOn with
  | nil => exact Nat.one_pos
  | append_singleton words word ih =>
    have hlow := ih fun w hw => h w (List.mem_append_left _ hw)
    have hlast := h word (by simp)
    unfold wordsValue at hlow ⊢
    rw [List.foldl_append, List.length_append, List.length_singleton, Nat.pow_succ]
    change _ * 65536 + word < _
    omega

theorem Hextet.value_lt (group : Hextet) : group.value < 65536 :=
  calc group.value < 16 ^ group.digits.length := Numeral.digitsValue_lt group.hex
    _ ≤ 16 ^ 4 := Nat.pow_le_pow_right (by decide) group.short
    _ = 65536 := by decide

theorem words_spec (form : Form) :
    form.words.length = 8 ∧ ∀ word ∈ form.words, word < 65536 := by
  have hquad : ∀ quad : Option Quad,
      (quad.toList.flatMap quadWords).length = 2 * quad.toList.length ∧
        ∀ word ∈ quad.toList.flatMap quadWords, word < 65536 := by
    rintro (_ | ⟨a, b, c, d⟩)
    · exact ⟨rfl, fun word hword => absurd hword List.not_mem_nil⟩
    · refine ⟨rfl, fun word hword => ?_⟩
      simp only [Option.toList_some, List.flatMap_singleton, quadWords, List.mem_cons,
        List.not_mem_nil, or_false] at hword
      have ha := a.isLt
      have hb := b.isLt
      have hc := c.isLt
      have hd := d.isLt
      omega
  have hgroups : ∀ groups : List Hextet, ∀ word ∈ groups.map Hextet.value, word < 65536 := by
    intro groups word hword
    obtain ⟨group, -, rfl⟩ := List.mem_map.mp hword
    exact Hextet.value_lt group
  obtain ⟨left, right, quad, size⟩ := form
  obtain ⟨hlength, hwords⟩ := hquad quad
  cases right with
  | none =>
    refine ⟨?_, fun word hword => ?_⟩
    · simp only [words, List.length_append, List.length_map, hlength]
      exact size
    · rcases List.mem_append.mp hword with hword | hword
      · exact hgroups left word hword
      · exact hwords word hword
  | some right =>
    refine ⟨?_, fun word hword => ?_⟩
    · simp only [words, List.length_append, List.length_map, List.length_replicate, hlength]
      simp only at size
      omega
    · simp only [words, List.mem_append] at hword
      rcases hword with ((hword | hword) | hword) | hword
      · exact hgroups left word hword
      · have hzero := List.eq_of_mem_replicate hword
        omega
      · exact hgroups right word hword
      · exact hwords word hword

theorem value_lt (form : Form) : form.value < 2 ^ 128 := by
  obtain ⟨hlength, hwords⟩ := form.words_spec
  have hlt := wordsValue_lt hwords
  rw [hlength] at hlt
  exact hlt

/-- Prefix of the address a form writes. -/
def toPrefix (form : Form) (len : Nat) (hlen : len ≤ 128) : Prefix :=
  Prefix.of form.value len form.value_lt hlen

/-- Text of an address with a prefix length. -/
def cidr (form : Form) (len : Nat) : List Char := form.text ++ '/' :: Nat.toDigits 10 len

end Form

end Ipv6
