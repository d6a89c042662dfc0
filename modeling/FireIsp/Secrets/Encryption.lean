import FireIsp.Base.Encoding

/-!
# Encrypted secrets

A secret is stored as three hexadecimal texts with colons between them.  One decoder takes what is no
such text for a secret in the clear; the strict one refuses it.  The cipher is a parameter.
-/

namespace FireIsp.Secrets

/-- A string. -/
abbrev Text : Type := List Char

/-- AES-256-GCM with tags of 16 bytes. -/
structure Gcm where
  /-- Ciphertext and tag, for a key, an initialization vector and a plaintext. -/
  encipher : List UInt8 → List UInt8 → List UInt8 → List UInt8 × List UInt8
  /-- Plaintext, for a key, an initialization vector, a tag and a ciphertext, unless it is refused. -/
  decipher : List UInt8 → List UInt8 → List UInt8 → List UInt8 → Option (List UInt8)

def ivLength : Nat := 12

def tagLength : Nat := 16

/-- What is relied on of the cipher, for keys of 32 bytes and initialization vectors of 12. -/
structure Gcm.Lawful (g : Gcm) : Prop where
  /-- Deciphering gives back what was enciphered, and refuses everything else. -/
  decipher_iff : ∀ key iv tag text plain, key.length = 32 → iv.length = ivLength →
    (g.decipher key iv tag text = some plain ↔ g.encipher key iv plain = (text, tag))
  length_text : ∀ key iv plain, key.length = 32 → iv.length = ivLength →
    (g.encipher key iv plain).1.length = plain.length
  length_tag : ∀ key iv plain, key.length = 32 → iv.length = ivLength →
    (g.encipher key iv plain).2.length = tagLength

/-- What is thrown. -/
inductive Failure
  /-- The key is no text of 64 hexadecimal digits. -/
  | malformedKey
  | notConfigured
  | invalidCiphertext
  deriving DecidableEq

/-- The text of an error. -/
def Failure.message : Failure → String
  | .malformedKey => "ENCRYPTION_KEY must be a 64-character hex string (256 bits)"
  | .notConfigured => "Encryption is required for this secret but ENCRYPTION_KEY is unavailable."
  | .invalidCiphertext => "Encrypted secret could not be authenticated."

/-- The code of an error. -/
def Failure.code : Failure → Option String
  | .malformedKey => none
  | .notConfigured => some "ENCRYPTION_NOT_CONFIGURED"
  | .invalidCiphertext => some "ENCRYPTED_SECRET_INVALID"

/-- `^[0-9a-fA-F]{count}$` -/
def hexOf (count : Nat) (text : Text) : Bool := decide (text.length = count) && Hex.isHex text

/-- `getKey`, with `ENCRYPTION_KEY`. -/
def getKey (configured : Option Text) : Except Failure (Option (List UInt8)) :=
  match configured with
  | none => .ok none
  | some hex =>
    if hex.isEmpty then .ok none
    else if hexOf 64 hex then .ok (some (Hex.decode hex))
    else .error .malformedKey

section

variable (g : Gcm) (configured : Option Text)

/-- `encrypt`, with what `randomBytes` returns; `null` and `undefined` are none. -/
def encrypt (iv : List UInt8) (plaintext : Option Text) : Except Failure (Option Text) :=
  match plaintext with
  | none => .ok none
  | some plain => do
      match ← getKey configured with
      | none => return some plain
      | some key =>
        let (encrypted, tag) := g.encipher key iv (Utf8.encode plain)
        return some (Hex.encode iv ++ ':' :: Hex.encode tag ++ ':' :: Hex.encode encrypted)

def decrypt (ciphertext : Option Text) : Except Failure (Option Text) :=
  match ciphertext with
  | none => .ok none
  | some stored => do
      match ← getKey configured with
      | none => return some stored
      | some key =>
        match stored.splitOn ':' with
        | [ivHex, tagHex, encHex] =>
          let iv := Hex.decode ivHex
          let tag := Hex.decode tagHex
          if iv.length ≠ ivLength ∨ tag.length ≠ tagLength then return some stored
          match g.decipher key iv tag (Hex.decode encHex) with
          | none => return some stored
          | some decrypted => return some (Utf8.decode decrypted)
        | _ => return some stored

def encryptStrict (iv : List UInt8) (plaintext : Option Text) : Except Failure (Option Text) :=
  match plaintext with
  | none => .ok none
  | some plain => do
      match ← getKey configured with
      | none => throw .notConfigured
      | some _ => encrypt g configured iv (some plain)

def decryptStrict (ciphertext : Option Text) : Except Failure (Option Text) :=
  match ciphertext with
  | none => .ok none
  | some stored => do
      match ← getKey configured with
      | none => throw .notConfigured
      | some key =>
        match stored.splitOn ':' with
        | [ivHex, tagHex, encHex] =>
          if ¬hexOf 24 ivHex ∨ ¬hexOf 32 tagHex ∨
              ¬(encHex ≠ [] ∧ encHex.length % 2 = 0 ∧ Hex.isHex encHex) then
            throw .invalidCiphertext
          match g.decipher key (Hex.decode ivHex) (Hex.decode tagHex) (Hex.decode encHex) with
          | none => throw .invalidCiphertext
          | some decrypted => return some (Utf8.decode decrypted)
        | _ => throw .invalidCiphertext

end

end FireIsp.Secrets

/-!
## Secrets are read back

What was encrypted is decrypted, and what the strict decoder accepts the other one reads the same.  The
strict decoder wants a ciphertext of at least one byte, and so it refuses the empty secret, which the
strict encoder takes.
-/

namespace FireIsp.Secrets

variable {g : Gcm} {configured : Option Text} {key iv : List UInt8}

theorem length_key (hkey : getKey configured = .ok (some key)) : key.length = 32 := by
  unfold getKey at hkey
  cases configured with
  | none => exact nomatch hkey
  | some hex =>
    dsimp only at hkey
    split_ifs at hkey with hempty hhex
    · exact nomatch hkey
    · obtain rfl := Option.some.inj (Except.ok.inj hkey)
      simp only [hexOf, Bool.and_eq_true, decide_eq_true_eq] at hhex
      exact Hex.length_decode hhex.2 hhex.1

theorem splitOn_parts {a b c : Text} (ha : Hex.isHex a = true) (hb : Hex.isHex b = true)
    (hc : Hex.isHex c = true) : (a ++ ':' :: b ++ ':' :: c).splitOn ':' = [a, b, c] := by
  have hjoined : a ++ ':' :: b ++ ':' :: c = [':'].intercalate [a, b, c] := by
    simp [List.intercalate_cons_cons]
  rw [hjoined]
  refine List.splitOn_intercalate ':' (fun part hpart => ?_) (List.cons_ne_nil _ _)
  simp only [List.mem_cons, List.not_mem_nil, or_false] at hpart
  rcases hpart with rfl | rfl | rfl
  · exact Hex.colon_not_mem ha
  · exact Hex.colon_not_mem hb
  · exact Hex.colon_not_mem hc

theorem encrypt_eq (hkey : getKey configured = .ok (some key)) (iv : List UInt8) (s : Text) :
    encrypt g configured iv (some s) =
      .ok (some (Hex.encode iv ++ ':' :: Hex.encode (g.encipher key iv (Utf8.encode s)).2 ++
        ':' :: Hex.encode (g.encipher key iv (Utf8.encode s)).1)) := by
  simp only [encrypt, hkey]
  rfl

theorem decrypt_encrypt (hg : g.Lawful) (hkey : getKey configured = .ok (some key))
    (hiv : iv.length = ivLength) (s : Text) :
    (encrypt g configured iv (some s)).bind (decrypt g configured) = .ok (some s) := by
  have hlength := length_key hkey
  have htag := hg.length_tag key iv (Utf8.encode s) hlength hiv
  have hdecipher := (hg.decipher_iff key iv (g.encipher key iv (Utf8.encode s)).2
    (g.encipher key iv (Utf8.encode s)).1 (Utf8.encode s) hlength hiv).mpr rfl
  rw [encrypt_eq hkey]
  simp only [Except.bind, decrypt, hkey, bind, splitOn_parts (Hex.isHex_encode _)
    (Hex.isHex_encode _) (Hex.isHex_encode _), Hex.decode_encode, hiv, htag, hdecipher,
    Utf8.decode_encode]
  rfl

theorem decryptStrict_encryptStrict (hg : g.Lawful) (hkey : getKey configured = .ok (some key))
    (hiv : iv.length = ivLength) (s : Text) :
    (encryptStrict g configured iv (some s)).bind (decryptStrict g configured) =
      if s = [] then .error .invalidCiphertext else .ok (some s) := by
  have hlength := length_key hkey
  have htag := hg.length_tag key iv (Utf8.encode s) hlength hiv
  have htext := hg.length_text key iv (Utf8.encode s) hlength hiv
  have hdecipher := (hg.decipher_iff key iv (g.encipher key iv (Utf8.encode s)).2
    (g.encipher key iv (Utf8.encode s)).1 (Utf8.encode s) hlength hiv).mpr rfl
  have hstrict : encryptStrict g configured iv (some s) = encrypt g configured iv (some s) := by
    simp only [encryptStrict, hkey]
    rfl
  have hivHex : hexOf 24 (Hex.encode iv) = true := by
    rw [hexOf, Hex.length_encode, hiv, Hex.isHex_encode]
    rfl
  have htagHex : hexOf 32 (Hex.encode (g.encipher key iv (Utf8.encode s)).2) = true := by
    rw [hexOf, Hex.length_encode, htag, Hex.isHex_encode]
    rfl
  have hempty : Hex.encode (g.encipher key iv (Utf8.encode s)).1 ≠ [] ↔ s ≠ [] := by
    rw [← List.length_pos_iff, Hex.length_encode, htext]
    cases s with
    | nil => simp
    | cons c s =>
      have hpos := List.length_pos_of_ne_nil (Utf8.encode_ne_nil (List.cons_ne_nil c s))
      simp only [ne_eq, List.cons_ne_nil, not_false_eq_true, iff_true]
      omega
  have heven : (Hex.encode (g.encipher key iv (Utf8.encode s)).1).length % 2 = 0 := by
    rw [Hex.length_encode]
    omega
  rw [hstrict, encrypt_eq hkey]
  simp only [Except.bind, decryptStrict, hkey, bind, splitOn_parts (Hex.isHex_encode _)
    (Hex.isHex_encode _) (Hex.isHex_encode _), Hex.decode_encode, hivHex, htagHex, hempty, heven,
    Hex.isHex_encode, hdecipher, Utf8.decode_encode]
  by_cases hs : s = []
  · subst hs
    rfl
  · simp only [hs, ne_eq, not_false_eq_true, and_self, not_true_eq_false, or_self, if_false]
    rfl

theorem decrypt_of_decryptStrict {stored value : Option Text}
    (h : decryptStrict g configured stored = .ok value) : decrypt g configured stored = .ok value := by
  cases stored with
  | none => exact h
  | some stored =>
    simp only [decryptStrict] at h
    simp only [decrypt]
    cases hkey : getKey configured with
    | error failure =>
      rw [hkey] at h
      exact nomatch h
    | ok key =>
      rw [hkey] at h
      cases key with
      | none => exact nomatch h
      | some key =>
        simp only [bind, Except.bind] at h ⊢
        split at h
        · rename_i ivHex tagHex encHex hparts
          split_ifs at h with hmalformed
          · simp only [hexOf, Bool.and_eq_true, decide_eq_true_eq, not_or, not_not] at hmalformed
            obtain ⟨⟨hivLength, hiv⟩, ⟨htagLength, htag⟩, -⟩ := hmalformed
            have hivBytes : (Hex.decode ivHex).length = ivLength :=
              Hex.length_decode hiv hivLength
            have htagBytes : (Hex.decode tagHex).length = tagLength :=
              Hex.length_decode htag htagLength
            simp only [hivBytes, htagBytes]
            cases hdecipher : g.decipher key (Hex.decode ivHex) (Hex.decode tagHex)
                (Hex.decode encHex) with
            | none =>
              rw [hdecipher] at h
              exact nomatch h
            | some decrypted =>
              rw [hdecipher] at h
              exact h
        · exact nomatch h

/-- The coders give back exactly the secrets that are not empty. -/
theorem secret_roundtrip_iff (hg : g.Lawful) (hkey : getKey configured = .ok (some key))
    (hiv : iv.length = ivLength) (s : Text) :
    ((encrypt g configured iv (some s)).bind (decrypt g configured) = .ok (some s) ∧
      (encryptStrict g configured iv (some s)).bind (decryptStrict g configured) = .ok (some s) ∧
      ∀ stored value, decryptStrict g configured (some stored) = .ok value →
        decrypt g configured (some stored) = .ok value) ↔ s ≠ [] := by
  constructor
  · rintro ⟨-, hstrict, -⟩ rfl
    rw [decryptStrict_encryptStrict hg hkey hiv] at hstrict
    exact nomatch hstrict
  · intro hs
    refine ⟨decrypt_encrypt hg hkey hiv s, ?_, fun stored value => decrypt_of_decryptStrict⟩
    rw [decryptStrict_encryptStrict hg hkey hiv, if_neg hs]

/-- The first bytes AES-256 in counter mode gives for zeros, repeated and added to a text. -/
def zeroStream (text : List UInt8) : List UInt8 :=
  text.mapIdx fun i b => b ^^^ (if i % 2 = 0 then 0xce else 0xa7)

/-- The AES-256-GCM tags of the empty text and of a greeting for zeros. -/
def zeroTag (plain : List UInt8) : List UInt8 :=
  if plain = [] then
    [0x53, 0x0f, 0x8a, 0xfb, 0xc7, 0x45, 0x36, 0xb9,
      0xa9, 0x63, 0xb4, 0xf1, 0xc4, 0xcb, 0x73, 0x8b]
  else
    [0xad, 0x14, 0x5c, 0xef, 0x3e, 0x9e, 0xeb, 0x28,
      0xf8, 0xda, 0x02, 0x39, 0xae, 0xf5, 0x38, 0xe5]

/-- A cipher that for zeros gives what AES-256-GCM does for the two texts. -/
def zeroGcm : Gcm where
  encipher _ _ plain := (zeroStream plain, zeroTag plain)
  decipher _ _ tag text :=
    if zeroTag (zeroStream text) = tag then some (zeroStream text) else none

def zeroKey : Text := List.replicate 64 '0'

theorem zeroStream_zeroStream (text : List UInt8) : zeroStream (zeroStream text) = text := by
  simp only [zeroStream, List.mapIdx_mapIdx]
  apply List.ext_getElem
  · simp only [List.length_mapIdx]
  · intro i _ _
    simp only [List.getElem_mapIdx, Function.comp, UInt8.xor_assoc, UInt8.xor_self, UInt8.xor_zero]

theorem lawful_zeroGcm : zeroGcm.Lawful where
  decipher_iff key iv tag text plain _ _ := by
    simp only [zeroGcm, Prod.mk.injEq]
    constructor
    · intro h
      split_ifs at h with htag
      obtain rfl := Option.some.inj h
      exact ⟨zeroStream_zeroStream text, htag⟩
    · rintro ⟨rfl, rfl⟩
      rw [zeroStream_zeroStream, if_pos rfl]
  length_text key iv plain _ _ := List.length_mapIdx
  length_tag key iv plain _ _ := by
    simp only [zeroGcm, zeroTag]
    split_ifs <;> rfl

theorem secret_roundtrip_greeting :
    encryptStrict zeroGcm (some zeroKey) (List.replicate 12 0) (some ['h', 'i']) =
        .ok (some ("000000000000000000000000:" ++ "ad145cef3e9eeb28f8da0239aef538e5:" ++ "a6ce").toList) ∧
      (encrypt zeroGcm (some zeroKey) (List.replicate 12 0) (some ['h', 'i'])).bind
        (decrypt zeroGcm (some zeroKey)) = .ok (some ['h', 'i']) ∧
      (encryptStrict zeroGcm (some zeroKey) (List.replicate 12 0) (some ['h', 'i'])).bind
        (decryptStrict zeroGcm (some zeroKey)) = .ok (some ['h', 'i']) :=
  have hkey : getKey (some zeroKey) = .ok (some (List.replicate 32 0)) := by decide +kernel
  have hiv : (List.replicate 12 (0 : UInt8)).length = ivLength := rfl
  have h := (secret_roundtrip_iff lawful_zeroGcm hkey hiv ['h', 'i']).mpr (List.cons_ne_nil _ _)
  ⟨by decide +kernel, h.1, h.2.1⟩

/-- The strict decoder refuses the strict encoding of the empty secret. -/
theorem secret_roundtrip_empty :
    encryptStrict zeroGcm (some zeroKey) (List.replicate 12 0) (some []) =
        .ok (some ("000000000000000000000000:" ++ "530f8afbc74536b9a963b4f1c4cb738b:").toList) ∧
      (encryptStrict zeroGcm (some zeroKey) (List.replicate 12 0) (some [])).bind
        (decrypt zeroGcm (some zeroKey)) = .ok (some []) ∧
      (encryptStrict zeroGcm (some zeroKey) (List.replicate 12 0) (some [])).bind
        (decryptStrict zeroGcm (some zeroKey)) = .error .invalidCiphertext := by
  decide +kernel

end FireIsp.Secrets
