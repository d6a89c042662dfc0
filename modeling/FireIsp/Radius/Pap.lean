import FireIsp.Base.Encoding
import Mathlib.Data.List.DropRight

/-!
# Hidden passwords

Passwords of the Password Authentication Protocol, hidden in blocks of sixteen bytes: every block is
masked with the digest of the secret and of the masked block before it.  Hiding and showing are
inverse to each other for any digest of sixteen bytes.
-/

namespace FireIsp.Radius

section Pap

-- `crypto.createHash('md5')`, of all that it was updated with.
variable (md5 : List UInt8 → List UInt8)

/-- `a[j] ^ b[j]` for all positions. -/
def mask (a b : List UInt8) : List UInt8 := List.zipWith (· ^^^ ·) a b

/-- The loop of `decodePapPassword` over a number of blocks. -/
def showBlocks (secret : List UInt8) : Nat → List UInt8 → List UInt8 → List UInt8
  | 0, _, _ => []
  | count + 1, last, enc =>
    mask (enc.take 16) (md5 (secret ++ last)) ++ showBlocks secret count (enc.take 16) (enc.drop 16)

/-- The loop of `encodePapPassword` over a number of blocks. -/
def hideBlocks (secret : List UInt8) : Nat → List UInt8 → List UInt8 → List UInt8
  | 0, _, _ => []
  | count + 1, last, padded =>
    let block := mask (padded.take 16) (md5 (secret ++ last))
    block ++ hideBlocks secret count block (padded.drop 16)

/-- Bytes without the zeros at their end. -/
def strip (bytes : List UInt8) : List UInt8 := bytes.rdropWhile (· = 0)

def padLen (length : Nat) : Nat := max 16 ((length + 15) / 16 * 16)

/-- `src.copy(padded)` -/
def pad (src : List UInt8) : List UInt8 := src ++ List.replicate (padLen src.length - src.length) 0

/-- The bytes that `decodePapPassword` reads as text. -/
def shown (enc : List UInt8) (secret : List Char) (requestAuthenticator : List UInt8) : List UInt8 :=
  strip (showBlocks md5 (Utf8.encode secret) (enc.length / 16) requestAuthenticator enc)

def decodePapPassword (enc : List UInt8) (secret : List Char) (requestAuthenticator : List UInt8) :
    Option (List Char) :=
  if enc.length = 0 ∨ enc.length % 16 ≠ 0 then none
  else some (Utf8.decode (shown md5 enc secret requestAuthenticator))

def encodePapPassword (plaintext secret : List Char) (requestAuthenticator : List UInt8) :
    List UInt8 :=
  let padded := pad (Utf8.encode plaintext)
  hideBlocks md5 (Utf8.encode secret) (padded.length / 16) requestAuthenticator padded

variable {md5}

theorem mask_mask {a b : List UInt8} (h : a.length = b.length) : mask (mask a b) b = a := by
  induction a generalizing b with
  | nil => rfl
  | cons x a ih =>
    cases b with
    | nil => cases h
    | cons y b =>
      have hrest := ih (Nat.succ_inj.mp h)
      simp only [mask, List.zipWith_cons_cons, UInt8.xor_assoc, UInt8.xor_self, UInt8.xor_zero]
        at hrest ⊢
      rw [hrest]

theorem length_mask {a b : List UInt8} (h : a.length = b.length) : (mask a b).length = b.length := by
  rw [mask, List.length_zipWith, h, Nat.min_self]

variable {count : Nat}

theorem length_take_block {bytes : List UInt8} (h : bytes.length = 16 * (count + 1)) :
    (bytes.take 16).length = 16 ∧ (bytes.drop 16).length = 16 * count := by
  rw [List.length_take, List.length_drop]
  omega

theorem length_hideBlocks (hmd5 : ∀ bytes, (md5 bytes).length = 16) (secret : List UInt8)
    (last : List UInt8) {padded : List UInt8} (h : padded.length = 16 * count) :
    (hideBlocks md5 secret count last padded).length = 16 * count := by
  induction count generalizing last padded with
  | zero => rfl
  | succ count ih =>
    obtain ⟨hfirst, hrest⟩ := length_take_block h
    have hblock := length_mask (hfirst.trans (hmd5 (secret ++ last)).symm)
    rw [hideBlocks, List.length_append, ih _ hrest, hblock, hmd5]
    omega

theorem showBlocks_hideBlocks (hmd5 : ∀ bytes, (md5 bytes).length = 16) (secret : List UInt8)
    (last : List UInt8) {padded : List UInt8} (h : padded.length = 16 * count) :
    showBlocks md5 secret count last (hideBlocks md5 secret count last padded) = padded := by
  induction count generalizing last padded with
  | zero => exact (List.length_eq_zero_iff.mp h).symm
  | succ count ih =>
    obtain ⟨hfirst, hrest⟩ := length_take_block h
    have hfit := hfirst.trans (hmd5 (secret ++ last)).symm
    have hblock : (mask (padded.take 16) (md5 (secret ++ last))).length = 16 :=
      (length_mask hfit).trans (hmd5 _)
    rw [hideBlocks, showBlocks, List.take_left' hblock, List.drop_left' hblock, mask_mask hfit,
      ih _ hrest, List.take_append_drop]

theorem hideBlocks_showBlocks (hmd5 : ∀ bytes, (md5 bytes).length = 16) (secret : List UInt8)
    (last : List UInt8) {enc : List UInt8} (h : enc.length = 16 * count) :
    hideBlocks md5 secret count last (showBlocks md5 secret count last enc) = enc ∧
      (showBlocks md5 secret count last enc).length = 16 * count := by
  induction count generalizing last enc with
  | zero => exact ⟨(List.length_eq_zero_iff.mp h).symm, rfl⟩
  | succ count ih =>
    obtain ⟨hfirst, hrest⟩ := length_take_block h
    obtain ⟨hidden, hlength⟩ := ih (enc.take 16) hrest
    have hfit := hfirst.trans (hmd5 (secret ++ last)).symm
    have hblock : (mask (enc.take 16) (md5 (secret ++ last))).length = 16 :=
      (length_mask hfit).trans (hmd5 _)
    rw [showBlocks, hideBlocks, List.take_left' hblock, List.drop_left' hblock, mask_mask hfit,
      List.length_append, hidden, hlength, hblock, List.take_append_drop]
    exact ⟨rfl, by omega⟩

theorem strip_append_zeros {src : List UInt8} (h : src.getLast? ≠ some 0) (count : Nat) :
    strip (src ++ List.replicate count 0) = src := by
  induction count with
  | zero =>
    rw [List.replicate_zero, List.append_nil]
    refine List.rdropWhile_eq_self_iff.mpr fun hne hzero => h ?_
    rw [List.getLast?_eq_some_getLast hne, of_decide_eq_true hzero]
  | succ count ih =>
    rw [List.replicate_succ', ← List.append_assoc, strip, List.rdropWhile_concat_pos _ _ _ (by rfl)]
    exact ih

theorem strip_zeros (bytes : List UInt8) :
    ∃ count, bytes = strip bytes ++ List.replicate count 0 := by
  induction bytes using List.reverseRecOn with
  | nil => exact ⟨0, rfl⟩
  | append_singleton bytes b ih =>
    by_cases hzero : b = 0
    · obtain ⟨count, hcount⟩ := ih
      refine ⟨count + 1, ?_⟩
      rw [strip, List.rdropWhile_concat_pos _ _ _ (by simpa using hzero), List.replicate_succ',
        ← List.append_assoc, hzero]
      exact congrArg (· ++ [0]) hcount
    · refine ⟨0, ?_⟩
      rw [strip, List.rdropWhile_concat_neg _ _ _ (by simpa using hzero), List.replicate_zero,
        List.append_nil]

theorem length_pad (src : List UInt8) :
    (pad src).length = padLen src.length ∧ padLen src.length % 16 = 0 ∧
      0 < padLen src.length ∧ src.length ≤ padLen src.length := by
  have hlength : (pad src).length = src.length + (padLen src.length - src.length) := by
    rw [pad, List.length_append, List.length_replicate]
  rw [hlength, padLen]
  omega

/-- A password is shown as it was hidden, and a hidden password is hidden again as it was. -/
theorem pap_inverse (hmd5 : ∀ bytes, (md5 bytes).length = 16) (secret : List Char)
    (requestAuthenticator : List UInt8) :
    (∀ password : List Char, (Utf8.encode password).getLast? ≠ some 0 →
      decodePapPassword md5 (encodePapPassword md5 password secret requestAuthenticator) secret
        requestAuthenticator = some password) ∧
    ∀ (enc : List UInt8) (password : List Char) (k : Nat), 0 < k → enc.length = 16 * k →
      shown md5 enc secret requestAuthenticator = Utf8.encode password →
      padLen (Utf8.encode password).length = 16 * k →
      decodePapPassword md5 enc secret requestAuthenticator = some password ∧
        encodePapPassword md5 password secret requestAuthenticator = enc := by
  constructor
  · intro password hlast
    obtain ⟨hlength, hmod, hpos, -⟩ := length_pad (Utf8.encode password)
    have hblocks : (pad (Utf8.encode password)).length =
        16 * ((pad (Utf8.encode password)).length / 16) := by omega
    have hhidden := length_hideBlocks hmd5 (Utf8.encode secret) requestAuthenticator hblocks
    rw [← hblocks] at hhidden
    have hshown := showBlocks_hideBlocks hmd5 (Utf8.encode secret) requestAuthenticator hblocks
    rw [decodePapPassword, encodePapPassword, shown, if_neg (by rw [hhidden]; omega), hhidden, hshown,
      pad, strip_append_zeros hlast, Utf8.decode_encode]
  · intro enc password k hk hlength hshown hpad
    have hcount : enc.length / 16 = k := by omega
    obtain ⟨hidden, hbytes⟩ := hideBlocks_showBlocks hmd5 (Utf8.encode secret) requestAuthenticator
      hlength
    have hshown' := hshown
    rw [shown, hcount] at hshown'
    have hpadded : pad (Utf8.encode password) =
        showBlocks md5 (Utf8.encode secret) k requestAuthenticator enc := by
      obtain ⟨count, hzeros⟩ := strip_zeros
        (showBlocks md5 (Utf8.encode secret) k requestAuthenticator enc)
      rw [hshown'] at hzeros
      rw [hzeros, List.length_append, List.length_replicate] at hbytes
      rw [hzeros, pad, hpad]
      congr 2
      omega
    constructor
    · rw [decodePapPassword, if_neg (by omega), hshown, Utf8.decode_encode]
    · have hwhole : (pad (Utf8.encode password)).length / 16 = k := by
        rw [(length_pad (Utf8.encode password)).1, hpad]
        omega
      rw [encodePapPassword, hwhole, hpadded, hidden]

/-- The digest of the secret `k` followed by an authenticator of zeros. -/
def sampleMd5 (_ : List UInt8) : List UInt8 :=
  [159, 43, 42, 136, 50, 151, 70, 143, 189, 173, 241, 236, 145, 119, 75, 251]

/-- Passwords under that digest. -/
theorem pap_inverse_sample :
    (∀ password : List Char, (Utf8.encode password).getLast? ≠ some 0 →
      decodePapPassword sampleMd5 (encodePapPassword sampleMd5 password ['k'] (List.replicate 16 0))
        ['k'] (List.replicate 16 0) = some password) ∧
    ∀ (enc : List UInt8) (password : List Char) (k : Nat), 0 < k → enc.length = 16 * k →
      shown sampleMd5 enc ['k'] (List.replicate 16 0) = Utf8.encode password →
      padLen (Utf8.encode password).length = 16 * k →
      decodePapPassword sampleMd5 enc ['k'] (List.replicate 16 0) = some password ∧
        encodePapPassword sampleMd5 password ['k'] (List.replicate 16 0) = enc :=
  pap_inverse (fun _ => rfl) ['k'] (List.replicate 16 0)

end Pap

end FireIsp.Radius
