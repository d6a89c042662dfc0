import FireIsp.Base.Text

/-!
# UTF-8

The bytes of a text, and the text of any bytes: what is no encoding of a character is read as the
replacement character, one for each longest part that begins one.
-/

namespace Utf8

/-- The bytes of a text. -/
def encode (chars : List Char) : List UInt8 := chars.flatMap String.utf8EncodeChar

def first (bytes : List UInt8) : Option Char := bytes.toByteArray.utf8DecodeChar? 0

/-- How many bytes may follow a first byte, and the bounds of the next one. -/
def expected (b : UInt8) : Nat × UInt8 × UInt8 :=
  if 0xC2 ≤ b ∧ b ≤ 0xDF then (1, 0x80, 0xBF)
  else if b = 0xE0 then (2, 0xA0, 0xBF)
  else if b = 0xED then (2, 0x80, 0x9F)
  else if 0xE1 ≤ b ∧ b ≤ 0xEF then (2, 0x80, 0xBF)
  else if b = 0xF0 then (3, 0x90, 0xBF)
  else if 0xF1 ≤ b ∧ b ≤ 0xF3 then (3, 0x80, 0xBF)
  else if b = 0xF4 then (3, 0x80, 0x8F)
  else (0, 0, 0)

/-- How many bytes one replacement character stands for. -/
def damaged : List UInt8 → Nat
  | [] => 0
  | b :: rest =>
    let (count, low, high) := expected b
    match rest.take count with
    | [] => 1
    | next :: more =>
      if low ≤ next ∧ next ≤ high then
        2 + (more.takeWhile fun b => 0x80 ≤ b ∧ b ≤ 0xBF).length
      else 1

/-- The text of some bytes, as far as the fuel lasts. -/
def decodeWith : Nat → List UInt8 → List Char
  | 0, _ => []
  | _ + 1, [] => []
  | fuel + 1, bytes =>
    match first bytes with
    | some c => c :: decodeWith fuel (bytes.drop c.utf8Size)
    | none => '\uFFFD' :: decodeWith fuel (bytes.drop (damaged bytes))

/-- The text of some bytes. -/
def decode (bytes : List UInt8) : List Char := decodeWith bytes.length bytes

@[simp] theorem encode_nil : encode [] = [] := rfl

@[simp] theorem encode_cons (c : Char) (chars : List Char) :
    encode (c :: chars) = String.utf8EncodeChar c ++ encode chars := rfl

theorem length_le_encode (chars : List Char) : chars.length ≤ (encode chars).length := by
  induction chars with
  | nil => exact Nat.le_refl 0
  | cons c chars ih =>
    have hpos := c.utf8Size_pos
    rw [encode_cons, List.length_append, String.length_utf8EncodeChar, List.length_cons]
    omega

theorem encode_ne_nil {chars : List Char} (h : chars ≠ []) : encode chars ≠ [] := by
  cases chars with
  | nil => exact absurd rfl h
  | cons c chars => exact List.append_ne_nil_of_left_ne_nil String.utf8EncodeChar_ne_nil _

theorem first_encode (c : Char) (bytes : List UInt8) :
    first (String.utf8EncodeChar c ++ bytes) = some c := by
  unfold first
  rw [List.toByteArray_append]
  exact ByteArray.utf8DecodeChar?_utf8EncodeChar_append

theorem decodeWith_encode {fuel : Nat} {chars : List Char} (h : chars.length ≤ fuel) :
    decodeWith fuel (encode chars) = chars := by
  induction chars generalizing fuel with
  | nil => cases fuel <;> rfl
  | cons c chars ih =>
    cases fuel with
    | zero => exact absurd h (Nat.not_succ_le_zero _)
    | succ fuel =>
      have hfirst := first_encode c (encode chars)
      have hdrop : (encode (c :: chars)).drop c.utf8Size = encode chars := by
        rw [encode_cons, ← String.length_utf8EncodeChar, List.drop_left]
      cases hbytes : encode (c :: chars) with
      | nil => exact absurd hbytes (encode_ne_nil (List.cons_ne_nil c chars))
      | cons b bytes =>
        rw [← encode_cons, hbytes] at hfirst
        rw [hbytes] at hdrop
        unfold decodeWith
        rw [hfirst]
        exact congrArg (c :: ·) (hdrop ▸ ih (Nat.le_of_succ_le_succ h))

@[simp] theorem decode_encode (chars : List Char) : decode (encode chars) = chars :=
  decodeWith_encode (length_le_encode chars)

end Utf8

/-!
## Components of a URI

`encodeURIComponent`: the bytes of a text, those of some characters as they are and the others in
hexadecimal.  Different texts have different encodings, and no encoding has a separator in it.
-/

namespace Uri

/-- A character that is left as it is. -/
def unreserved (c : Char) : Bool := c.isAlphanum || "-_.!~*'()".toList.contains c

def hexDigit (n : Nat) : Char := if n < 10 then Char.ofNat (48 + n) else Char.ofNat (55 + n)

def encodeByte (b : UInt8) : List Char :=
  if unreserved (Char.ofNat b.toNat) then [Char.ofNat b.toNat]
  else ['%', hexDigit (b.toNat / 16), hexDigit (b.toNat % 16)]

/-- `encodeURIComponent(text)` -/
def encodeURIComponent (text : List Char) : List Char := (Utf8.encode text).flatMap encodeByte

theorem hexDigit_spec : ∀ i < 16, (∀ j < 16, hexDigit i = hexDigit j → i = j) ∧
    unreserved (hexDigit i) = true := by
  decide

theorem ofNat_injective {a b : UInt8} (h : Char.ofNat a.toNat = Char.ofNat b.toNat) : a = b := by
  have hlt : ∀ c : UInt8, (Char.ofNat c.toNat).toNat = c.toNat := by
    intro c
    have hc := c.toNat_lt
    have hvalid : c.toNat.isValidChar := .inl (by omega)
    unfold Char.ofNat
    rw [dif_pos hvalid]
    rfl
  exact UInt8.toNat_inj.mp (by rw [← hlt a, ← hlt b, h])

theorem encodeByte_append {a b : UInt8} {x y : List Char}
    (h : encodeByte a ++ x = encodeByte b ++ y) : a = b ∧ x = y := by
  have hpercent : ∀ {c d : UInt8} {v w : List Char}, unreserved (Char.ofNat c.toNat) = true →
      Char.ofNat c.toNat :: v ≠ '%' :: w := by
    intro c d v w hc heq
    rw [(List.cons.inj heq).1] at hc
    exact absurd hc (by decide)
  unfold encodeByte at h
  split_ifs at h with ha hb hb
  · obtain ⟨hchar, hrest⟩ := List.cons.inj h
    exact ⟨ofNat_injective hchar, hrest⟩
  · exact absurd h (hpercent (d := b) ha)
  · exact absurd h.symm (hpercent (d := a) hb)
  · simp only [List.cons_append, List.nil_append, List.cons.injEq, true_and] at h
    obtain ⟨hhigh, hlow, hrest⟩ := h
    have ha := a.toNat_lt
    have hb := b.toNat_lt
    have hdiv := (hexDigit_spec (a.toNat / 16) (by omega)).1 (b.toNat / 16) (by omega) hhigh
    have hmod := (hexDigit_spec (a.toNat % 16) (by omega)).1 (b.toNat % 16) (by omega) hlow
    exact ⟨UInt8.toNat_inj.mp (by omega), hrest⟩

theorem encodeByte_ne_nil (b : UInt8) : encodeByte b ≠ [] := by
  unfold encodeByte
  split_ifs <;> exact List.cons_ne_nil _ _

theorem flatMap_encodeByte_injective {bytes bytes' : List UInt8}
    (h : bytes.flatMap encodeByte = bytes'.flatMap encodeByte) : bytes = bytes' := by
  induction bytes generalizing bytes' with
  | nil =>
    cases bytes' with
    | nil => rfl
    | cons b bytes' =>
      rw [List.flatMap_nil, List.flatMap_cons] at h
      exact absurd (List.append_eq_nil_iff.mp h.symm).1 (encodeByte_ne_nil b)
  | cons a bytes ih =>
    cases bytes' with
    | nil =>
      rw [List.flatMap_nil, List.flatMap_cons] at h
      exact absurd (List.append_eq_nil_iff.mp h).1 (encodeByte_ne_nil a)
    | cons b bytes' =>
      rw [List.flatMap_cons, List.flatMap_cons] at h
      obtain ⟨rfl, hrest⟩ := encodeByte_append h
      rw [ih hrest]

theorem encodeURIComponent_injective {text text' : List Char}
    (h : encodeURIComponent text = encodeURIComponent text') : text = text' := by
  rw [← Utf8.decode_encode text, flatMap_encodeByte_injective h, Utf8.decode_encode]

theorem mem_encodeURIComponent {text : List Char} {c : Char} (h : c ∈ encodeURIComponent text) :
    c = '%' ∨ unreserved c = true := by
  obtain ⟨b, -, hb⟩ := List.mem_flatMap.mp h
  have hlt := b.toNat_lt
  unfold encodeByte at hb
  split_ifs at hb with hunreserved
  · rw [List.mem_singleton.mp hb]
    exact .inr hunreserved
  · simp only [List.mem_cons, List.not_mem_nil, or_false] at hb
    rcases hb with rfl | rfl | rfl
    · exact .inl rfl
    · exact .inr (hexDigit_spec _ (by omega)).2
    · exact .inr (hexDigit_spec _ (by omega)).2

theorem free_encodeURIComponent {separator : Char} (h : separator ≠ '%')
    (hreserved : unreserved separator = false) (text : List Char) :
    separator ∉ encodeURIComponent text := by
  intro hmem
  rcases mem_encodeURIComponent hmem with heq | hun
  · exact h heq
  · exact nomatch hreserved.symm.trans hun

end Uri

/-!
## Bytes in hexadecimal

Two digits for each byte.  Reading takes pairs of digits as long as there are any and drops what
follows them.
-/

namespace Hex

open Numeral

def byteText (b : UInt8) : List Char := [(b.toNat / 16).digitChar, (b.toNat % 16).digitChar]

/-- The digits of some bytes. -/
def encode (bytes : List UInt8) : List Char := bytes.flatMap byteText

/-- The bytes of the pairs of digits a text begins with. -/
def decode : List Char → List UInt8
  | a :: b :: rest =>
    match hexDigit a, hexDigit b with
    | some high, some low => UInt8.ofNat (high * 16 + low) :: decode rest
    | _, _ => []
  | _ => []

def isHex (text : List Char) : Bool := text.all fun c => (hexDigit c).isSome

theorem hexDigit_digitChar : ∀ d < 16, hexDigit d.digitChar = some d := by decide

theorem decode_byteText (b : UInt8) (rest : List Char) :
    decode (byteText b ++ rest) = b :: decode rest := by
  have hlt := b.toNat_lt
  have hhigh := hexDigit_digitChar (b.toNat / 16) (by omega)
  have hlow := hexDigit_digitChar (b.toNat % 16) (by omega)
  have hbyte : b.toNat / 16 * 16 + b.toNat % 16 = b.toNat := Nat.div_add_mod' _ _
  simp only [byteText, List.cons_append, List.nil_append, decode, hhigh, hlow, hbyte,
    UInt8.ofNat_toNat]

@[simp] theorem decode_encode (bytes : List UInt8) : decode (encode bytes) = bytes := by
  induction bytes with
  | nil => rfl
  | cons b bytes ih =>
    have hcons : encode (b :: bytes) = byteText b ++ encode bytes := List.flatMap_cons
    rw [hcons, decode_byteText, ih]

@[simp] theorem length_encode (bytes : List UInt8) : (encode bytes).length = 2 * bytes.length := by
  induction bytes with
  | nil => rfl
  | cons b bytes ih =>
    have hcons : encode (b :: bytes) = byteText b ++ encode bytes := List.flatMap_cons
    rw [hcons, List.length_append, ih, List.length_cons]
    simp only [byteText, List.length_cons, List.length_nil]
    omega

@[simp] theorem isHex_encode (bytes : List UInt8) : isHex (encode bytes) = true := by
  rw [isHex, List.all_eq_true]
  intro c hc
  obtain ⟨b, -, hb⟩ := List.mem_flatMap.mp hc
  have hlt := b.toNat_lt
  simp only [byteText, List.mem_cons, List.not_mem_nil, or_false] at hb
  rcases hb with rfl | rfl
  · rw [hexDigit_digitChar _ (by omega)]
    rfl
  · rw [hexDigit_digitChar _ (by omega)]
    rfl

theorem length_decode {text : List Char} (h : isHex text = true) {n : Nat}
    (hlength : text.length = 2 * n) : (decode text).length = n := by
  induction n generalizing text with
  | zero =>
    obtain rfl := List.length_eq_zero_iff.mp hlength
    rfl
  | succ n ih =>
    match text, hlength with
    | a :: b :: rest, hlength =>
      simp only [isHex, List.all_cons, Bool.and_eq_true] at h
      obtain ⟨high, hhigh⟩ := Option.isSome_iff_exists.mp h.1
      obtain ⟨low, hlow⟩ := Option.isSome_iff_exists.mp h.2.1
      simp only [decode, hhigh, hlow, List.length_cons] at hlength ⊢
      rw [ih h.2.2 (by omega)]

theorem colon_not_mem {text : List Char} (h : isHex text = true) : ':' ∉ text := by
  intro hmem
  have hdigit := List.all_eq_true.mp h ':' hmem
  exact absurd hdigit (by decide)

end Hex
