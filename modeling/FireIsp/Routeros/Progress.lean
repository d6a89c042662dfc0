import FireIsp.Routeros.RoundTrip

/-!
# Words at an offset of a buffer

The loop of `parseSentences` and `_onData` as it stands: an offset moves over the buffer by what the
header of each word says.  The four bytes behind the longest header are a signed number, so the offset
may also stay or go back; it is a number of the host language then, and reading goes on from it.
-/

namespace FireIsp.Routeros

/-- An integer, or none for `NaN`. -/
abbrev Offset : Type := Option Int

/-- What the shifts of the host language leave of a number: 32 bits with a sign. -/
def int32 (n : Nat) : Int :=
  if n % 2 ^ 32 < 2 ^ 31 then (n % 2 ^ 32 : Nat) else (n % 2 ^ 32 : Nat) - 2 ^ 32

/-- `buf[index]`, within the buffer. -/
def byteAt (buf : List UInt8) (index : Nat) : Nat := (buf.getD index 0).toNat

/-- `len` and `headerBytes`, unless bytes of the header are missing. -/
def lengthAt (buf : List UInt8) (offset : Nat) : Option (Int × Nat) :=
  let b0 := byteAt buf offset
  if b0 &&& 0x80 = 0 then some (b0, 1)
  else if b0 &&& 0xc0 = 0x80 then
    if buf.length < offset + 2 then none
    else some (int32 ((b0 &&& 0x3f) <<< 8 ||| byteAt buf (offset + 1)), 2)
  else if b0 &&& 0xe0 = 0xc0 then
    if buf.length < offset + 3 then none
    else some (int32 ((b0 &&& 0x1f) <<< 16 ||| byteAt buf (offset + 1) <<< 8 |||
      byteAt buf (offset + 2)), 3)
  else if b0 &&& 0xf0 = 0xe0 then
    if buf.length < offset + 4 then none
    else some (int32 ((b0 &&& 0x0f) <<< 24 ||| byteAt buf (offset + 1) <<< 16 |||
      byteAt buf (offset + 2) <<< 8 ||| byteAt buf (offset + 3)), 4)
  else if buf.length < offset + 5 then none
  else some (int32 (byteAt buf (offset + 1) <<< 24 ||| byteAt buf (offset + 2) <<< 16 |||
    byteAt buf (offset + 3) <<< 8 ||| byteAt buf (offset + 4)), 5)

/-- Where `slice` begins or ends: a negative number counts from the end. -/
def adjusted (length : Nat) : Offset → Nat
  | none => 0
  | some offset => if offset < 0 then (offset + length).toNat else min offset.toNat length

/-- `buf.slice(start, end)` -/
def slice (buf : List UInt8) (start stop : Offset) : List UInt8 :=
  (buf.take (adjusted buf.length stop)).drop (adjusted buf.length start)

/-- `readWord`; outside the buffer the word is empty and the next offset `NaN`. -/
def readWordAt (buf : List UInt8) : Offset → Option (Word × Offset)
  | none => some ([], none)
  | some offset =>
    if buf.length ≤ offset then none
    else if offset < 0 then some ([], none)
    else
      match lengthAt buf offset.toNat with
      | none => none
      | some (len, headerBytes) =>
        if buf.length < offset + headerBytes + len then none
        else
          some (Utf8.decode (slice buf (some (offset + headerBytes))
            (some (offset + headerBytes + len))), some (offset + headerBytes + len))

/-- The variables of the loop, and what the sentences are delivered to. -/
structure Scan (σ : Type) where
  offset : Offset
  startOffset : Offset
  sentence : Sentence
  /-- What has become of the sentences that are complete. -/
  receiver : σ

namespace Scan

variable {σ : Type}

/-- The loop begins at the start of the buffer. -/
def new (receiver : σ) : Scan σ := ⟨some 0, some 0, [], receiver⟩

/-- One word; none when the loop returns. -/
def turn (buf : List UInt8) (deliver : σ → Sentence → σ) (s : Scan σ) : Option (Scan σ) :=
  match readWordAt buf s.offset with
  | none => none
  | some ([], next) => some ⟨next, next, [], deliver s.receiver s.sentence⟩
  | some (word, next) => some { s with offset := next, sentence := s.sentence ++ [word] }

/-- `sentences.push(sentence)` -/
def push (sentences : List Sentence) (sentence : Sentence) : List Sentence := sentences ++ [sentence]

end Scan

/-- A loop over a buffer ends, stays within it, and each word takes the offset further. -/
def Scan.Advances {σ : Type} (buf : List UInt8) (deliver : σ → Sentence → σ) (receiver : σ) : Prop :=
  Loop.Ends (turn buf deliver) (new receiver) ∧
    ∀ s, Loop.Reached (turn buf deliver) (new receiver) s →
      ∃ offset : Nat, s.offset = some (offset : Int) ∧ offset ≤ buf.length ∧
        ∀ s', turn buf deliver s = some s' → ∃ next : Nat, s'.offset = some (next : Int) ∧ offset < next

end FireIsp.Routeros

/-!
## Reading makes progress

The loop over a buffer moves on with every word unless a word has a longest header whose four bytes,
as a number without a sign, are from `2 ^ 31` to `2 ^ 32 - 5`: there its length is negative, and the
header does not make up for it.  With such a word the offset stays or goes back.
-/

namespace FireIsp.Routeros

variable {buf : List UInt8} {offset : Nat} {len : Int} {headerBytes : Nat}

/-- The four bytes behind the header byte, without a sign. -/
def longLength (buf : List UInt8) (offset : Nat) : Nat :=
  byteAt buf (offset + 1) * 2 ^ 24 + byteAt buf (offset + 2) * 2 ^ 16 +
    byteAt buf (offset + 3) * 2 ^ 8 + byteAt buf (offset + 4)

/-- A longest header whose length takes the offset nowhere or back. -/
def Backward (buf : List UInt8) (offset : Nat) : Prop :=
  offset + 5 ≤ buf.length ∧ 0xf0 ≤ byteAt buf offset ∧ 2 ^ 31 ≤ longLength buf offset ∧
    longLength buf offset ≤ 2 ^ 32 - 5

instance (buf : List UInt8) (offset : Nat) : Decidable (Backward buf offset) :=
  inferInstanceAs (Decidable (_ ∧ _ ∧ _ ∧ _))

/-- Where the words of a buffer begin: at its start, and behind each word that is there. -/
inductive Boundary (buf : List UInt8) : Nat → Prop
  | start : Boundary buf 0
  | next {offset headerBytes : Nat} {len : Int} {behind : Nat} : Boundary buf offset →
      offset < buf.length → lengthAt buf offset = some (len, headerBytes) →
      (behind : Int) = offset + headerBytes + len → offset < behind → behind ≤ buf.length →
      Boundary buf behind

theorem byteAt_lt (buf : List UInt8) (index : Nat) : byteAt buf index < 256 := UInt8.toNat_lt _

theorem int32_of_lt {n : Nat} (h : n < 2 ^ 31) : int32 n = n := by
  have hmod : n % 2 ^ 32 = n := Nat.mod_eq_of_lt (by omega)
  rw [int32, hmod, if_pos h]

theorem int32_of_le {n : Nat} (h : 2 ^ 31 ≤ n) (hlt : n < 2 ^ 32) : int32 n = n - 2 ^ 32 := by
  rw [int32, Nat.mod_eq_of_lt hlt, if_neg (by omega)]

theorem shift_or (n : Nat) {b : Nat} (h : b < 256) : n <<< 8 ||| b = n * 2 ^ 8 + b := by
  rw [Nat.shiftLeft_eq, Nat.mul_comm, Nat.two_pow_add_eq_or_of_lt (by omega)]

theorem shift_or_two (n : Nat) {b c : Nat} (hb : b < 256) (hc : c < 256) :
    n <<< 16 ||| b <<< 8 ||| c = n * 2 ^ 16 + b * 2 ^ 8 + c := by
  have hpair : n <<< 16 ||| b <<< 8 = (n <<< 8 ||| b) <<< 8 := by
    rw [Nat.shiftLeft_or_distrib, ← Nat.shiftLeft_add]
  rw [hpair, shift_or _ hc, shift_or _ hb]
  omega

theorem shift_or_three (n : Nat) {b c d : Nat} (hb : b < 256) (hc : c < 256) (hd : d < 256) :
    n <<< 24 ||| b <<< 16 ||| c <<< 8 ||| d = n * 2 ^ 24 + b * 2 ^ 16 + c * 2 ^ 8 + d := by
  have htriple : n <<< 24 ||| b <<< 16 ||| c <<< 8 = (n <<< 16 ||| b <<< 8 ||| c) <<< 8 := by
    simp only [Nat.shiftLeft_or_distrib, ← Nat.shiftLeft_add]
  rw [htriple, shift_or _ hd, shift_or_two _ hb hc]
  omega

theorem first_of_five : ∀ b < 256, b &&& 0x80 ≠ 0 → b &&& 0xc0 ≠ 0x80 → b &&& 0xe0 ≠ 0xc0 →
    b &&& 0xf0 ≠ 0xe0 → 0xf0 ≤ b := by decide +kernel

theorem first_below_five : ∀ b < 256,
    b &&& 0x80 = 0 ∨ b &&& 0xc0 = 0x80 ∨ b &&& 0xe0 = 0xc0 ∨ b &&& 0xf0 = 0xe0 → b < 0xf0 := by
  decide +kernel

theorem lengthAt_cases (hoffset : offset < buf.length)
    (h : lengthAt buf offset = some (len, headerBytes)) :
    offset + headerBytes ≤ buf.length ∧ 0 < headerBytes ∧
      (byteAt buf offset < 0xf0 ∧ 0 ≤ len ∨
        0xf0 ≤ byteAt buf offset ∧ headerBytes = 5 ∧ len = int32 (longLength buf offset)) := by
  have hb := byteAt_lt buf
  unfold lengthAt at h
  dsimp only at h
  split_ifs at h with hone htwo hshort hthree hshort hfour hshort hshort
  · have hlow := first_below_five _ (hb offset) (.inl hone)
    simp only [Option.some.injEq, Prod.mk.injEq] at h
    omega
  · have hlow := first_below_five _ (hb offset) (.inr (.inl htwo))
    simp only [Option.some.injEq, Prod.mk.injEq] at h
    have hbits : byteAt buf offset &&& 0x3f ≤ 0x3f := Nat.and_le_right
    rw [shift_or _ (hb _), int32_of_lt (by have := hb (offset + 1); omega)] at h
    omega
  · have hlow := first_below_five _ (hb offset) (.inr (.inr (.inl hthree)))
    simp only [Option.some.injEq, Prod.mk.injEq] at h
    have hbits : byteAt buf offset &&& 0x1f ≤ 0x1f := Nat.and_le_right
    have h1 := hb (offset + 1)
    have h2 := hb (offset + 2)
    rw [shift_or_two _ h1 h2, int32_of_lt (by omega)] at h
    omega
  · have hlow := first_below_five _ (hb offset) (.inr (.inr (.inr hfour)))
    simp only [Option.some.injEq, Prod.mk.injEq] at h
    have hbits : byteAt buf offset &&& 0x0f ≤ 0x0f := Nat.and_le_right
    have h1 := hb (offset + 1)
    have h2 := hb (offset + 2)
    have h3 := hb (offset + 3)
    rw [shift_or_three _ h1 h2 h3, int32_of_lt (by omega)] at h
    omega
  · have hhigh := first_of_five _ (hb offset) hone htwo hthree hfour
    simp only [Option.some.injEq, Prod.mk.injEq] at h
    rw [shift_or_three _ (hb _) (hb _) (hb _)] at h
    exact ⟨by omega, by omega, .inr ⟨hhigh, h.2.symm, h.1.symm⟩⟩

theorem longLength_lt (buf : List UInt8) (offset : Nat) : longLength buf offset < 2 ^ 32 := by
  have h1 := byteAt_lt buf (offset + 1)
  have h2 := byteAt_lt buf (offset + 2)
  have h3 := byteAt_lt buf (offset + 3)
  have h4 := byteAt_lt buf (offset + 4)
  unfold longLength
  omega

theorem further_iff (hoffset : offset < buf.length)
    (h : lengthAt buf offset = some (len, headerBytes)) :
    0 < headerBytes + len ↔ ¬Backward buf offset := by
  obtain ⟨hthere, hpos, ⟨hlow, hlen⟩ | ⟨hhigh, hbytes, hlen⟩⟩ := lengthAt_cases hoffset h
  · refine iff_of_true (by omega) fun hback => ?_
    have hfirst := hback.2.1
    omega
  · subst hbytes
    have hlt := longLength_lt buf offset
    rw [Backward]
    by_cases hsign : longLength buf offset < 2 ^ 31
    · rw [int32_of_lt hsign] at hlen
      omega
    · rw [int32_of_le (by omega) hlt] at hlen
      omega

namespace Scan

variable {σ : Type} {deliver : σ → Sentence → σ} {receiver : σ} {s s' : Scan σ}

theorem turn_eq_some (h : turn buf deliver s = some s') :
    ∃ word, readWordAt buf s.offset = some (word, s'.offset) := by
  unfold turn at h
  split at h
  · exact nomatch h
  · rename_i next hread
    obtain rfl := Option.some.inj h
    exact ⟨[], hread⟩
  · rename_i word next _ hread
    obtain rfl := Option.some.inj h
    exact ⟨word, hread⟩

theorem turn_isSome (deliver : σ → Sentence → σ) {word : Word} {next : Offset}
    (h : readWordAt buf s.offset = some (word, next)) :
    ∃ s', turn buf deliver s = some s' ∧ s'.offset = next := by
  unfold turn
  rw [h]
  cases word with
  | nil => exact ⟨_, rfl, rfl⟩
  | cons c word => exact ⟨_, rfl, rfl⟩

theorem readWordAt_eq_some {word : Word} {next : Offset}
    (h : readWordAt buf (some (offset : Int)) = some (word, next)) :
    offset < buf.length ∧ ∃ len headerBytes, lengthAt buf offset = some (len, headerBytes) ∧
      next = some (offset + headerBytes + len) ∧ (offset : Int) + headerBytes + len ≤ buf.length := by
  simp only [readWordAt, Int.toNat_natCast] at h
  split_ifs at h with hend hneg
  · omega
  · cases hlength : lengthAt buf offset with
    | none =>
      rw [hlength] at h
      exact nomatch h
    | some read =>
      obtain ⟨len, headerBytes⟩ := read
      rw [hlength] at h
      dsimp only at h
      split_ifs at h with hshort
      simp only [Option.some.injEq, Prod.mk.injEq] at h
      exact ⟨by omega, len, headerBytes, rfl, h.2.symm, by omega⟩

theorem readWordAt_backward (hback : Backward buf offset) : ∃ word len,
    lengthAt buf offset = some (len, 5) ∧
      readWordAt buf (some (offset : Int)) = some (word, some (offset + 5 + len)) := by
  obtain ⟨hthere, hhigh, hlow, hle⟩ := hback
  have hnot := first_below_five _ (byteAt_lt buf offset)
  have hlength : lengthAt buf offset = some (int32 (longLength buf offset), 5) := by
    unfold lengthAt longLength
    dsimp only
    rw [if_neg (by omega), if_neg (by omega), if_neg (by omega), if_neg (by omega), if_neg (by omega),
      shift_or_three _ (byteAt_lt _ _) (byteAt_lt _ _) (byteAt_lt _ _)]
  have hsigned := int32_of_le hlow (longLength_lt buf offset)
  refine ⟨Utf8.decode (slice buf (some (offset + 5))
    (some (offset + 5 + int32 (longLength buf offset)))), _, hlength, ?_⟩
  simp only [readWordAt, Int.toNat_natCast, hlength]
  rw [if_neg (by omega), if_neg (by omega), if_neg (by omega)]
  rfl

/-- The offset of a loop without headers that lead back is at the beginning of a word. -/
def Placed (buf : List UInt8) (s : Scan σ) : Prop :=
  ∃ offset : Nat, s.offset = some (offset : Int) ∧ offset ≤ buf.length ∧ Boundary buf offset

theorem Placed.turn (hforward : ∀ offset, Boundary buf offset → ¬Backward buf offset)
    (h : Placed buf s) (hturn : turn buf deliver s = some s') :
    Placed buf s' ∧ ∀ offset : Nat, s.offset = some (offset : Int) →
      ∃ next : Nat, s'.offset = some (next : Int) ∧ offset < next := by
  obtain ⟨offset, hoffset, -, hboundary⟩ := h
  obtain ⟨word, hread⟩ := turn_eq_some hturn
  rw [hoffset] at hread
  obtain ⟨hinside, len, headerBytes, hlength, hnext, hend⟩ := readWordAt_eq_some hread
  have hfurther := (further_iff hinside hlength).mpr (hforward offset hboundary)
  obtain ⟨next, hbehind⟩ := Int.eq_ofNat_of_zero_le
    (show 0 ≤ (offset : Int) + headerBytes + len by omega)
  rw [hbehind] at hnext
  refine ⟨⟨next, hnext, by omega, .next hboundary hinside hlength hbehind.symm (by omega) (by omega)⟩,
    fun other hother => ⟨next, hnext, ?_⟩⟩
  have hsame := Option.some.inj (hoffset.symm.trans hother)
  omega

/-- Bytes that are left behind the offset. -/
def left (buf : List UInt8) (s : Scan σ) : Nat :=
  match s.offset with
  | none => 0
  | some offset => buf.length - offset.toNat

theorem advances_of_forward (hforward : ∀ offset, Boundary buf offset → ¬Backward buf offset)
    (deliver : σ → Sentence → σ) (receiver : σ) : Advances buf deliver receiver := by
  have hnew : Placed buf (new receiver) := ⟨0, rfl, Nat.zero_le _, .start⟩
  refine ⟨Loop.ends_of_measure (left buf) (fun s t h hturn => ⟨(h.turn hforward hturn).1, ?_⟩) hnew,
    fun s hreached => ?_⟩
  · obtain ⟨hplaced, hless⟩ := h.turn hforward hturn
    obtain ⟨offset, hoffset, -, -⟩ := h
    obtain ⟨next, hnext, hlt⟩ := hless offset hoffset
    obtain ⟨next', hnext', hle, -⟩ := hplaced
    have hsame := Option.some.inj (hnext.symm.trans hnext')
    simp only [left, hoffset, hnext, Int.toNat_natCast]
    omega
  · have hplaced := hreached.kept (fun _ _ h hturn => (h.turn hforward hturn).1) hnew
    obtain ⟨offset, hoffset, hle, -⟩ := id hplaced
    exact ⟨offset, hoffset, hle, fun s' hturn => (hplaced.turn hforward hturn).2 offset hoffset⟩

theorem reached_boundary (deliver : σ → Sentence → σ) (receiver : σ) (hboundary : Boundary buf offset) :
    ∃ s, Loop.Reached (turn buf deliver) (new receiver) s ∧ s.offset = some (offset : Int) := by
  induction hboundary with
  | start => exact ⟨new receiver, .start, rfl⟩
  | @next offset headerBytes len behind _ hinside hlength hbehind _ hend ih =>
    obtain ⟨s, hreached, hoffset⟩ := ih
    have hread : readWordAt buf s.offset = some (Utf8.decode (slice buf
        (some (offset + headerBytes)) (some (offset + headerBytes + len))),
        some (behind : Int)) := by
      simp only [hoffset, readWordAt, Int.toNat_natCast, hlength]
      rw [if_neg (by omega), if_neg (by omega), if_neg (by omega), hbehind]
    obtain ⟨s', hturn, hnext⟩ := turn_isSome deliver hread
    exact ⟨s', .next hreached hturn, hnext⟩

theorem forward_of_advances (h : Advances buf deliver receiver) (hboundary : Boundary buf offset) :
    ¬Backward buf offset := by
  intro hback
  obtain ⟨s, hreached, hoffset⟩ := reached_boundary deliver receiver hboundary
  obtain ⟨word, len, hlength, hread⟩ := readWordAt_backward hback
  rw [← hoffset] at hread
  obtain ⟨s', hturn, hnext⟩ := turn_isSome deliver hread
  obtain ⟨place, hplace, -, hmoves⟩ := h.2 s hreached
  obtain ⟨next, hbehind, hlt⟩ := hmoves s' hturn
  have hinside : offset < buf.length := by have := hback.1; omega
  have hstays := mt (further_iff hinside hlength).mp (not_not_intro hback)
  have hsame := Option.some.inj (hoffset.symm.trans hplace)
  have hgoes := Option.some.inj (hnext.symm.trans hbehind)
  omega

end Scan

section Agreement

end Agreement

/-- The loops advance and end exactly where no word has a header that leads back. -/
theorem parse_advances_iff (buf : List UInt8) :
    (Scan.Advances buf Scan.push [] ↔ ∀ offset, Boundary buf offset → ¬Backward buf offset) ∧
      ∀ (c : Client) (chunk : List UInt8), c.buf ++ chunk = buf →
        (Scan.Advances buf Client.deliver { c with buf } ↔
          ∀ offset, Boundary buf offset → ¬Backward buf offset) :=
  ⟨⟨fun h _ hboundary => Scan.forward_of_advances h hboundary,
      fun h => Scan.advances_of_forward h _ _⟩,
    fun _ _ _ => ⟨fun h _ hboundary => Scan.forward_of_advances h hboundary,
      fun h => Scan.advances_of_forward h _ _⟩⟩

/-- Five bytes behind which the length is -5. -/
def stuck : List UInt8 := [0xf0, 0xff, 0xff, 0xff, 0xfb]

/-- At a length of -5 the loop reads one empty word after another, and never comes to an end. -/
theorem parse_stuck : ¬(∀ buf, Scan.Advances buf Scan.push []) ∧
    ¬Loop.Ends (Scan.turn stuck Scan.push) (Scan.new []) := by
  have hread : readWordAt stuck (some 0) = some ([], some 0) := by decide
  have hstays : ∀ s s' : Scan (List Sentence), s.offset = some 0 →
      Scan.turn stuck Scan.push s = some s' → s'.offset = some 0 := by
    intro s s' hoffset hturn
    obtain ⟨word, hword⟩ := Scan.turn_eq_some hturn
    rw [hoffset, hread] at hword
    exact (congrArg Prod.snd (Option.some.inj hword)).symm
  have hends : ¬Loop.Ends (Scan.turn stuck Scan.push) (Scan.new []) := by
    rintro ⟨fuel, hsome⟩
    obtain ⟨s, hlast⟩ := Option.isSome_iff_exists.mp hsome
    obtain ⟨hreached, hnone⟩ := Loop.reached_last hlast
    have hoffset : s.offset = some 0 := hreached.kept (I := fun s => s.offset = some 0) hstays rfl
    obtain ⟨s', hturn, -⟩ := Scan.turn_isSome Scan.push (hoffset ▸ hread)
    exact nomatch hnone.symm.trans hturn
  exact ⟨fun h => hends (h stuck).1, hends⟩

end FireIsp.Routeros
