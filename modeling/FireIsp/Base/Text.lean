import Mathlib.Algebra.Ring.Nat
import Mathlib.Data.List.Basic
import Mathlib.Data.List.Induction
import Mathlib.Data.List.TakeWhile
import Mathlib.Tactic.Ring

/-!
# Text of the host language

Lengths in UTF-16 code units, `trim` and canonical decimal numerals.
-/

namespace Text

/-- `string.length`: number of UTF-16 code units. -/
def units (s : String) : Nat := (s.toList.map fun c => if c.toNat < 65536 then 1 else 2).sum

/-- Characters `trim` removes. -/
def isSpace (c : Char) : Bool :=
  c.toNat ∈ [9, 10, 11, 12, 13, 32, 160, 5760, 8232, 8233, 8239, 8287, 12288, 65279] ||
    decide (8192 ≤ c.toNat ∧ c.toNat ≤ 8202)

/-- `string.trim()`, on the list of characters. -/
def trimmed (s : String) : List Char :=
  ((s.toList.dropWhile isSpace).reverse.dropWhile isSpace).reverse

/-- `string.trim()`. -/
def trim (s : String) : String := String.ofList (trimmed s)

/-- `string.trim() === ''`. -/
def isBlank (s : String) : Bool := (trimmed s).isEmpty

theorem trimmed_of_ends {text : List Char} (hhead : ∀ c ∈ text.head?, isSpace c = false)
    (hlast : ∀ c ∈ text.getLast?, isSpace c = false) : trimmed (String.ofList text) = text := by
  have hdrop : ∀ {text : List Char}, (∀ c ∈ text.head?, isSpace c = false) →
      text.dropWhile isSpace = text := by
    intro text h
    cases text with
    | nil => rfl
    | cons c text =>
      rw [List.dropWhile_cons_of_neg]
      rw [h c rfl]
      exact Bool.false_ne_true
  have hreverse : ∀ c ∈ text.reverse.head?, isSpace c = false := by
    rwa [List.head?_reverse]
  rw [trimmed, String.toList_ofList, hdrop hhead, hdrop hreverse, List.reverse_reverse]

/-- Value of a text of decimal digits. -/
def digitsValue (digits : List Char) : Nat :=
  digits.foldl (fun value c => 10 * value + (c.toNat - 48)) 0

/-- Non-empty text of decimal digits. -/
def isDigits (digits : List Char) : Bool := !digits.isEmpty && digits.all Char.isDigit

/-- Text that `String(Number(text))` gives back; above `2^53` no numeral is taken. -/
def isCanonicalInteger (text : List Char) : Bool :=
  let (signed, digits) := match text with
    | '-' :: digits => (true, digits)
    | digits => (false, digits)
  isDigits digits && decide (digitsValue digits ≤ 2 ^ 53) &&
    (if signed then digits.head? != some '0' else digits == ['0'] || digits.head? != some '0')

end Text

/-!
## Numerals of the host language

Values of digit texts, `parseInt`, and integer numerals in some base.
-/

namespace Numeral

def hexDigit (c : Char) : Option Nat :=
  if 48 ≤ c.toNat ∧ c.toNat ≤ 57 then some (c.toNat - 48)
  else if 97 ≤ c.toNat ∧ c.toNat ≤ 102 then some (c.toNat - 87)
  else if 65 ≤ c.toNat ∧ c.toNat ≤ 70 then some (c.toNat - 55)
  else none

/-- The character is a digit in a base up to 16. -/
def isDigit (base : Nat) (c : Char) : Bool := (hexDigit c).any fun value => decide (value < base)

def digitsValue (base : Nat) (digits : List Char) : Nat :=
  digits.foldl (fun value c => value * base + (hexDigit c).getD 0) 0

/-- The number nearest to a natural number, in 53 bits and ties to even; none for `Infinity`. -/
def toNumber (n : Nat) : Option Nat :=
  if n < 2 ^ 53 then some n
  else
    let unit := 2 ^ (n.log2 - 52)
    let low := n % unit
    let rounded :=
      if 2 * low < unit ∨ 2 * low = unit ∧ n / unit % 2 = 0 then n / unit else n / unit + 1
    if rounded * unit < 2 ^ 1024 then some (rounded * unit) else none

/-- Text without the prefix `0x` that `parseInt` passes over in base 16. -/
def dropHexMark (radix : Nat) : List Char → List Char
  | '0' :: mark :: rest => if radix = 16 ∧ (mark = 'x' ∨ mark = 'X') then rest
      else '0' :: mark :: rest
  | text => text

/-- Sign of a numeral and the text after it. -/
def dropSign : List Char → Int × List Char
  | '-' :: rest => (-1, rest)
  | '+' :: rest => (1, rest)
  | text => (1, text)

/-- `parseInt(text, radix)`; none for `NaN` and infinite numbers. -/
def parseInt (radix : Nat) (text : List Char) : Option Int :=
  let signed := dropSign (text.dropWhile Text.isSpace)
  let digits := (dropHexMark radix signed.2).takeWhile (isDigit radix)
  if digits.isEmpty then none
  else (toNumber (digitsValue radix digits)).map fun value : Nat => signed.1 * value

theorem hexDigit_spec {c : Char} {value : Nat} (h : hexDigit c = some value) :
    value < 16 ∧ Text.isSpace c = false ∧ c ≠ '-' ∧ c ≠ '+' ∧ c ≠ 'x' ∧ c ≠ 'X' ∧ c ≠ ':' ∧
      c ≠ '/' := by
  have hrange : 48 ≤ c.toNat ∧ c.toNat ≤ 102 ∧ c.toNat ≠ 58 ∧ c.toNat ≠ 88 ∧ value < 16 := by
    unfold hexDigit at h
    split_ifs at h <;> cases h <;> omega
  obtain ⟨hlow, hhigh, hcolon, hmark, hvalue⟩ := hrange
  have hne : ∀ d : Char, d.toNat < 48 ∨ 102 < d.toNat ∨ d.toNat = 58 ∨ d.toNat = 88 → c ≠ d := by
    rintro d hd rfl
    omega
  refine ⟨hvalue, ?_, hne _ (by decide), hne _ (by decide), hne _ (by decide), hne _ (by decide),
    hne _ (by decide), hne _ (by decide)⟩
  unfold Text.isSpace
  simp only [List.mem_cons, List.not_mem_nil, or_false, Bool.or_eq_false_iff,
    decide_eq_false_iff_not]
  omega

variable {base : Nat}

theorem isDigit_spec {c : Char} (h : isDigit base c = true) :
    ∃ value, hexDigit c = some value ∧ value < base := by
  unfold isDigit at h
  cases hvalue : hexDigit c with
  | none =>
    rw [hvalue] at h
    cases h
  | some value =>
    rw [hvalue] at h
    exact ⟨value, rfl, of_decide_eq_true h⟩

/-- `parseInt` reads the digits a text starts with. -/
theorem parseInt_leading {radix : Nat} {digits rest : List Char} (hne : digits ≠ [])
    (hdigits : ∀ c ∈ digits, isDigit radix c = true)
    (hrest : ∀ c ∈ rest.head?, isDigit radix c = false ∧ c ≠ 'x' ∧ c ≠ 'X')
    (hlt : digitsValue radix digits < 2 ^ 53) :
    parseInt radix (digits ++ rest) = some (digitsValue radix digits : Int) := by
  have hspec : ∀ c ∈ digits, ∃ value, hexDigit c = some value := fun c hc =>
    (isDigit_spec (hdigits c hc)).imp fun _ hvalue => hvalue.1
  obtain ⟨c, others, rfl⟩ := List.exists_cons_of_ne_nil hne
  obtain ⟨value, hvalue⟩ := hspec c List.mem_cons_self
  obtain ⟨-, hspace, hminus, hplus, -⟩ := hexDigit_spec hvalue
  have htrim : (c :: others ++ rest).dropWhile Text.isSpace = c :: others ++ rest := by
    rw [List.cons_append, List.dropWhile_cons, hspace]
    rfl
  have hsign : dropSign (c :: others ++ rest) = (1, c :: others ++ rest) := by
    unfold dropSign
    split
    · rename_i heq
      exact absurd (List.cons.inj heq).1 hminus
    · rename_i heq
      exact absurd (List.cons.inj heq).1 hplus
    · rfl
  have hmark : dropHexMark radix (c :: others ++ rest) = c :: others ++ rest := by
    unfold dropHexMark
    split
    · rename_i mark rest' heq
      have hplain : mark ≠ 'x' ∧ mark ≠ 'X' := by
        cases others with
        | nil =>
          rw [List.cons_append, List.nil_append] at heq
          exact (hrest mark (by rw [(List.cons.inj heq).2]; rfl)).2
        | cons other others =>
          obtain ⟨value', hvalue'⟩ := hspec mark (by simp [(List.cons.inj (List.cons.inj heq).2).1])
          obtain ⟨-, -, -, -, hx, hX, -⟩ := hexDigit_spec hvalue'
          exact ⟨hx, hX⟩
      rw [if_neg (by tauto), heq]
    · rfl
  have hstop : rest.takeWhile (isDigit radix) = [] := by
    cases rest with
    | nil => rfl
    | cons d rest => rw [List.takeWhile_cons, (hrest d rfl).1, if_neg Bool.false_ne_true]
  have htake : (c :: others ++ rest).takeWhile (isDigit radix) = c :: others := by
    rw [List.takeWhile_append_of_pos hdigits, hstop, List.append_nil]
  have hnumber : toNumber (digitsValue radix (c :: others)) =
      some (digitsValue radix (c :: others)) := if_pos hlt
  unfold parseInt
  simp only [htrim, hsign, hmark, htake, hnumber, List.isEmpty_cons, Bool.false_eq_true, if_false,
    Option.map_some, Int.one_mul]

theorem parseInt_digits {radix : Nat} {digits : List Char} (hne : digits ≠ [])
    (hdigits : ∀ c ∈ digits, isDigit radix c = true) (hlt : digitsValue radix digits < 2 ^ 53) :
    parseInt radix digits = some (digitsValue radix digits : Int) := by
  have hread := @parseInt_leading radix digits [] hne hdigits (fun c hc => by cases hc) hlt
  rwa [List.append_nil] at hread

theorem digitsValue_concat (base : Nat) (digits : List Char) (c : Char) :
    digitsValue base (digits ++ [c]) = digitsValue base digits * base + (hexDigit c).getD 0 := by
  simp [digitsValue]

theorem digitsValue_append (base : Nat) (digits rest : List Char) :
    digitsValue base (digits ++ rest) =
      digitsValue base digits * base ^ rest.length + digitsValue base rest := by
  induction rest using List.reverseRecOn with
  | nil => simp [digitsValue]
  | append_singleton rest c ih =>
    rw [← List.append_assoc, digitsValue_concat, ih, digitsValue_concat, List.length_append,
      List.length_singleton, Nat.pow_succ]
    ring

theorem digitsValue_lt {digits : List Char} (hdigits : ∀ c ∈ digits, isDigit base c = true) :
    digitsValue base digits < base ^ digits.length := by
  induction digits using List.reverseRecOn with
  | nil => exact Nat.one_pos
  | append_singleton digits c ih =>
    have hlow := ih fun d hd => hdigits d (List.mem_append_left _ hd)
    obtain ⟨value, hvalue, hlt⟩ := isDigit_spec (hdigits c (by simp))
    rw [digitsValue_concat, hvalue, Option.getD_some, List.length_append, List.length_singleton,
      Nat.pow_succ]
    calc digitsValue base digits * base + value
        < digitsValue base digits * base + base := Nat.add_lt_add_left hlt _
      _ = (digitsValue base digits + 1) * base := by ring
      _ ≤ base ^ digits.length * base := Nat.mul_le_mul_right base hlow

theorem digitsValue_zeros (base : Nat) (count : Nat) (digits : List Char) :
    digitsValue base (List.replicate count '0' ++ digits) = digitsValue base digits := by
  have hzeros : ∀ count, digitsValue base (List.replicate count '0') = 0 := by
    intro count
    induction count with
    | zero => rfl
    | succ count ih =>
      rw [List.replicate_succ', digitsValue_concat, ih, Nat.zero_mul]
      rfl
  have hsum : digitsValue base (List.replicate count '0' ++ digits) =
      digits.foldl (fun value c => value * base + (hexDigit c).getD 0)
        (digitsValue base (List.replicate count '0')) := List.foldl_append
  rw [hsum, hzeros]
  rfl

theorem digitsValue_toDigits (hlow : 1 < base) (hhigh : base ≤ 16) (n : Nat) :
    digitsValue base (Nat.toDigits base n) = n := by
  have hdigit : ∀ d < 16, (hexDigit d.digitChar).getD 0 = d := by decide
  induction n using Nat.strongRecOn with
  | ind n ih =>
    by_cases hn : n < base
    · rw [Nat.toDigits_of_lt_base hn]
      have hvalue := hdigit n (by omega)
      simpa [digitsValue] using hvalue
    · have hmod : n % base < base := Nat.mod_lt n (by omega)
      rw [Nat.toDigits_of_base_le hlow (Nat.le_of_not_lt hn), digitsValue_concat,
        ih (n / base) (Nat.div_lt_self (by omega) hlow), hdigit _ (by omega)]
      exact Nat.div_add_mod' n base

theorem isDigit_toDigits (hlow : 1 < base) (hhigh : base ≤ 16) (n : Nat) :
    ∀ c ∈ Nat.toDigits base n, isDigit base c = true := by
  have hdigit : ∀ d < 16, hexDigit d.digitChar = some d := by decide
  induction n using Nat.strongRecOn with
  | ind n ih =>
    intro c hc
    by_cases hn : n < base
    · rw [Nat.toDigits_of_lt_base hn, List.mem_singleton] at hc
      rw [hc, isDigit, hdigit n (by omega)]
      simpa using hn
    · have hmod : n % base < base := Nat.mod_lt n (by omega)
      rw [Nat.toDigits_of_base_le hlow (Nat.le_of_not_lt hn), List.mem_append,
        List.mem_singleton] at hc
      rcases hc with hc | rfl
      · exact ih (n / base) (Nat.div_lt_self (by omega) hlow) c hc
      · rw [isDigit, hdigit _ (by omega)]
        simpa using hmod

end Numeral
