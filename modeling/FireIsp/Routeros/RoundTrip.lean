import FireIsp.Routeros.Client

/-!
# Sentences are read back

A word is read back from what it is encoded to, and from no part of it; so is a sentence, and so are
any number of them, in whatever chunks they come in.
-/

namespace FireIsp.Routeros

/-- A word that can be sent. -/
def Sendable (word : Word) : Prop := word ≠ [] ∧ (Utf8.encode word).length < 2 ^ 31

instance : DecidablePred Sendable := fun _ => inferInstanceAs (Decidable (_ ∧ _))

theorem join_byte (n : Nat) : (n >>> 8) <<< 8 ||| (n &&& 0xff) = n := by
  have hlow : n &&& 0xff = n % 2 ^ 8 := Nat.and_two_pow_sub_one_eq_mod n 8
  have hlt : n % 2 ^ 8 < 2 ^ 8 := Nat.mod_lt _ (by decide)
  rw [hlow, Nat.shiftRight_eq_div_pow, Nat.shiftLeft_eq, Nat.mul_comm,
    ← Nat.two_pow_add_eq_or_of_lt hlt]
  exact Nat.div_add_mod n (2 ^ 8)

theorem join_bytes (n : Nat) :
    (n >>> 16) <<< 16 ||| (n >>> 8 &&& 0xff) <<< 8 ||| (n &&& 0xff) = n := by
  have hupper : (n >>> 16) <<< 16 ||| (n >>> 8 &&& 0xff) <<< 8 = (n >>> 8) <<< 8 := by
    have hjoin := congrArg (· <<< 8) (join_byte (n >>> 8))
    simp only [Nat.shiftLeft_or_distrib, ← Nat.shiftLeft_add, ← Nat.shiftRight_add] at hjoin
    exact hjoin
  rw [hupper, join_byte]

theorem join_triple (n : Nat) :
    (n >>> 24) <<< 24 ||| (n >>> 16 &&& 0xff) <<< 16 ||| (n >>> 8 &&& 0xff) <<< 8 ||| (n &&& 0xff) =
      n := by
  have hupper : (n >>> 24) <<< 24 ||| (n >>> 16 &&& 0xff) <<< 16 ||| (n >>> 8 &&& 0xff) <<< 8 =
      (n >>> 8) <<< 8 := by
    have hjoin := congrArg (· <<< 8) (join_bytes (n >>> 8))
    simp only [Nat.shiftLeft_or_distrib, ← Nat.shiftLeft_add, ← Nat.shiftRight_add] at hjoin
    exact hjoin
  rw [hupper, join_byte]

theorem toNat_byteOf {n : Nat} (h : n < 256) : (byteOf n).toNat = n := by
  unfold byteOf
  rw [UInt8.toNat_ofNat']
  exact Nat.mod_eq_of_lt h

theorem toNat_last (n : Nat) : (byteOf (n &&& 0xff)).toNat = n &&& 0xff :=
  toNat_byteOf (Nat.lt_succ_of_le Nat.and_le_right)

theorem first_of_two : ∀ n < 64, n ||| 0x80 < 256 ∧ (n ||| 0x80) &&& 0x80 ≠ 0 ∧
    (n ||| 0x80) &&& 0xc0 = 0x80 ∧ (n ||| 0x80) &&& 0x3f = n := by decide

theorem first_of_three : ∀ n < 32, n ||| 0xc0 < 256 ∧ (n ||| 0xc0) &&& 0x80 ≠ 0 ∧
    (n ||| 0xc0) &&& 0xc0 ≠ 0x80 ∧ (n ||| 0xc0) &&& 0xe0 = 0xc0 ∧ (n ||| 0xc0) &&& 0x1f = n := by
  decide

theorem first_of_four : ∀ n < 16, n ||| 0xe0 < 256 ∧ (n ||| 0xe0) &&& 0x80 ≠ 0 ∧
    (n ||| 0xe0) &&& 0xc0 ≠ 0x80 ∧ (n ||| 0xe0) &&& 0xe0 ≠ 0xc0 ∧ (n ||| 0xe0) &&& 0xf0 = 0xe0 ∧
    (n ||| 0xe0) &&& 0x0f = n := by decide

theorem first_of_one : ∀ n < 128, n &&& 0x80 = 0 := by decide

theorem readLength_encodeLength {len : Nat} (h : len < 2 ^ 31) (rest : List UInt8) :
    readLength (encodeLength len ++ rest) = some (len, rest) := by
  unfold encodeLength
  split_ifs with h1 h2 h3 h4
  · have hone := first_of_one len h1
    simp only [List.cons_append, List.nil_append, readLength, toNat_byteOf (by omega : len < 256),
      hone, if_true]
  · obtain ⟨hlt, h80, hc0, h3f⟩ := first_of_two (len >>> 8)
      (by rw [Nat.shiftRight_eq_div_pow]; omega)
    simp only [List.cons_append, List.nil_append, readLength, toNat_byteOf hlt, toNat_last, h80, hc0,
      h3f, if_true, if_false, join_byte]
  · obtain ⟨hlt, h80, hc0, he0, h1f⟩ := first_of_three (len >>> 16)
      (by rw [Nat.shiftRight_eq_div_pow]; omega)
    simp only [List.cons_append, List.nil_append, readLength, toNat_byteOf hlt, toNat_last, h80, hc0,
      he0, h1f, if_true, if_false, join_bytes]
  · obtain ⟨hlt, h80, hc0, he0, hf0, h0f⟩ := first_of_four (len >>> 24)
      (by rw [Nat.shiftRight_eq_div_pow]; omega)
    simp only [List.cons_append, List.nil_append, readLength, toNat_byteOf hlt, toNat_last, h80, hc0,
      he0, hf0, h0f, if_true, if_false, join_triple]
  · have hupper : len >>> 24 &&& 0xff = len >>> 24 := by
      have hlt : len >>> 24 < 2 ^ 8 := by
        rw [Nat.shiftRight_eq_div_pow]
        omega
      exact (Nat.and_two_pow_sub_one_eq_mod _ 8).trans (Nat.mod_eq_of_lt hlt)
    have hbyte : (0xf0 : UInt8).toNat = 0xf0 := rfl
    simp only [List.cons_append, List.nil_append, readLength, toNat_last, hbyte, Nat.reduceAnd,
      Nat.reduceEqDiff, if_false]
    rw [hupper, join_triple]

variable {bytes more rest : List UInt8}

theorem readLength_append {len : Nat} (h : readLength bytes = some (len, rest)) :
    readLength (bytes ++ more) = some (len, rest ++ more) := by
  unfold readLength at h ⊢
  cases bytes with
  | nil => exact nomatch h
  | cons b0 tail =>
    rw [List.cons_append]
    dsimp only at h ⊢
    split_ifs at h ⊢ <;>
      first
      | (cases h; rfl)
      | (split at h
         · cases h
           rfl
         · exact nomatch h)

variable {word : Word}

theorem readWord_append (h : readWord bytes = .word word rest) :
    readWord (bytes ++ more) = .word word (rest ++ more) := by
  unfold readWord at h ⊢
  cases hlength : readLength bytes with
  | none =>
    rw [hlength] at h
    cases h
  | some read =>
    obtain ⟨len, tail⟩ := read
    rw [hlength] at h
    rw [readLength_append hlength]
    dsimp only at h ⊢
    split_ifs at h with hsigned hshort
    have hle : len ≤ tail.length := Nat.not_lt.mp hshort
    obtain ⟨rfl, rfl⟩ := Read.word.inj h
    rw [if_neg hsigned, if_neg (by rw [List.length_append]; omega),
      List.take_append_of_le_length hle, List.drop_append_of_le_length hle]

theorem astray_append (h : readWord bytes = .astray) :
    readWord (bytes ++ more) = .astray := by
  unfold readWord at h ⊢
  cases hlength : readLength bytes with
  | none =>
    rw [hlength] at h
    cases h
  | some read =>
    obtain ⟨len, tail⟩ := read
    rw [hlength] at h
    rw [readLength_append hlength]
    dsimp only at h ⊢
    split_ifs at h with hsigned
    exact if_pos hsigned

theorem length_of_readWord (h : readWord bytes = .word word rest) : rest.length < bytes.length := by
  have hlength : ∀ len tail, readLength bytes = some (len, tail) → tail.length < bytes.length := by
    intro len tail hread
    unfold readLength at hread
    cases bytes with
    | nil => cases hread
    | cons b0 after =>
      dsimp only at hread
      split_ifs at hread <;>
        first
        | (cases hread; exact Nat.lt_succ_self _)
        | (split at hread
           · cases hread
             simp only [List.length_cons]
             omega
           · cases hread)
  unfold readWord at h
  cases hread : readLength bytes with
  | none =>
    rw [hread] at h
    cases h
  | some read =>
    obtain ⟨len, tail⟩ := read
    rw [hread] at h
    dsimp only at h
    split_ifs at h
    obtain ⟨-, rfl⟩ := Read.word.inj h
    have hlt := hlength len tail hread
    rw [List.length_drop]
    omega

theorem readWord_encodeWord (h : Sendable word) (rest : List UInt8) :
    readWord (encodeWord word ++ rest) = .word word rest := by
  unfold readWord encodeWord
  rw [List.append_assoc, readLength_encodeLength h.2]
  dsimp only
  rw [if_neg (Nat.not_le.mpr h.2), if_neg (by rw [List.length_append]; omega), List.take_left,
    List.drop_left, Utf8.decode_encode]

theorem readWord_part (h : Sendable word) (hparts : encodeWord word = bytes ++ more)
    (hmore : more ≠ []) : readWord bytes = .short := by
  have hword := readWord_encodeWord h []
  rw [List.append_nil, hparts] at hword
  cases hread : readWord bytes with
  | short => rfl
  | word read rest =>
    have happend : readWord (bytes ++ more) = .word read (rest ++ more) := readWord_append hread
    have hlonger := happend.symm.trans hword
    exact absurd (List.append_eq_nil_iff.mp (Read.word.inj hlonger).2).2 hmore
  | astray =>
    have hastray : readWord (bytes ++ more) = .astray := astray_append hread
    exact nomatch hastray.symm.trans hword

theorem encodeWord_ne_nil (h : Sendable word) : encodeWord word ≠ [] :=
  List.append_ne_nil_of_right_ne_nil _ (Utf8.encode_ne_nil h.1)

theorem encodeSentence_ne_nil (words : Sentence) : encodeSentence words ≠ [] :=
  List.append_ne_nil_of_right_ne_nil _ (List.cons_ne_nil _ _)

variable {fuel : Nat} {start : List UInt8} {sentence : Sentence}

theorem scan_fuel {fuel' : Nat} (h : bytes.length < fuel) (h' : bytes.length < fuel') :
    scan fuel start sentence bytes = scan fuel' start sentence bytes := by
  induction fuel generalizing fuel' start bytes sentence with
  | zero => exact absurd h (Nat.not_lt_zero _)
  | succ fuel ih =>
    cases fuel' with
    | zero => exact absurd h' (Nat.not_lt_zero _)
    | succ fuel' =>
      unfold scan
      cases hread : readWord bytes with
      | short => rfl
      | astray => rfl
      | word word rest =>
        have hless := length_of_readWord hread
        cases word with
        | nil => exact congrArg (Option.map _) (ih (by omega) (by omega))
        | cons c word => exact ih (by omega) (by omega)

theorem scan_part {words : Sentence} (hwords : ∀ word ∈ words, Sendable word)
    (hfuel : bytes.length < fuel) (hparts : encodeSentence words = bytes ++ more)
    (hmore : more ≠ []) :
    scan fuel start sentence bytes = some ([], start) := by
  induction words generalizing fuel sentence bytes with
  | nil =>
    obtain ⟨fuel, rfl⟩ := Nat.exists_eq_succ_of_ne_zero (Nat.ne_of_gt (Nat.zero_lt_of_lt hfuel))
    cases bytes with
    | nil => rfl
    | cons b bytes =>
      obtain ⟨-, htail⟩ := List.cons.inj hparts
      exact absurd (List.append_eq_nil_iff.mp htail.symm).2 hmore
  | cons word words ih =>
    obtain ⟨fuel, rfl⟩ := Nat.exists_eq_succ_of_ne_zero (Nat.ne_of_gt (Nat.zero_lt_of_lt hfuel))
    have hword := hwords word List.mem_cons_self
    have hparts' : encodeWord word ++ encodeSentence words = bytes ++ more := by
      rw [← hparts]
      unfold encodeSentence
      rw [List.flatMap_cons, List.append_assoc]
    unfold scan
    by_cases hwhole : encodeWord word <+: bytes
    · obtain ⟨after, rfl⟩ := hwhole
      rw [List.append_assoc] at hparts'
      rw [readWord_encodeWord hword]
      obtain ⟨c, word', rfl⟩ := List.exists_cons_of_ne_nil hword.1
      refine ih (fun w hw => hwords w (List.mem_cons_of_mem _ hw)) ?_
        (List.append_cancel_left hparts')
      have hpos := List.length_pos_of_ne_nil (encodeWord_ne_nil hword)
      rw [List.length_append] at hfuel
      omega
    · have hpart : bytes <+: encodeWord word :=
        (List.prefix_or_prefix_of_prefix ⟨more, hparts'.symm⟩ ⟨_, rfl⟩).resolve_right hwhole
      obtain ⟨missing, hcut⟩ := hpart
      rw [readWord_part hword hcut.symm]
      rintro rfl
      exact hwhole ⟨[], by rw [List.append_nil, ← hcut, List.append_nil]⟩

theorem scan_encodeSentence {words : Sentence} (hwords : ∀ word ∈ words, Sendable word)
    (hfuel : (encodeSentence words ++ rest).length < fuel) :
    scan fuel start sentence (encodeSentence words ++ rest) =
      (parseSentences rest).map fun (sentences, remaining) =>
        ((sentence ++ words) :: sentences, remaining) := by
  induction words generalizing fuel sentence with
  | nil =>
    obtain ⟨fuel, rfl⟩ := Nat.exists_eq_succ_of_ne_zero (Nat.ne_of_gt (Nat.zero_lt_of_lt hfuel))
    rw [List.append_nil]
    exact congrArg (Option.map _) (scan_fuel (Nat.lt_of_succ_lt_succ hfuel) (Nat.lt_succ_self _))
  | cons word words ih =>
    obtain ⟨fuel, rfl⟩ := Nat.exists_eq_succ_of_ne_zero (Nat.ne_of_gt (Nat.zero_lt_of_lt hfuel))
    have hword := hwords word List.mem_cons_self
    have hparts : encodeSentence (word :: words) ++ rest =
        encodeWord word ++ (encodeSentence words ++ rest) := by
      simp only [encodeSentence, List.flatMap_cons, List.append_assoc]
    rw [hparts] at hfuel ⊢
    unfold scan
    rw [readWord_encodeWord hword]
    obtain ⟨c, word', rfl⟩ := List.exists_cons_of_ne_nil hword.1
    dsimp only
    rw [ih (fun w hw => hwords w (List.mem_cons_of_mem _ hw)), List.append_assoc]
    · rfl
    · have hpos := List.length_pos_of_ne_nil (encodeWord_ne_nil hword)
      rw [List.length_append] at hfuel
      omega

/-- The sentences that are wholly contained in some bytes, and what is behind them. -/
def contained : List Sentence → List UInt8 → List Sentence × List UInt8
  | [], bytes => ([], bytes)
  | words :: sentences, bytes =>
    if encodeSentence words <+: bytes then
      let (whole, rest) := contained sentences (bytes.drop (encodeSentence words).length)
      (words :: whole, rest)
    else ([], bytes)

theorem contained_append (words : Sentence) (sentences : List Sentence) (bytes : List UInt8) :
    contained (words :: sentences) (encodeSentence words ++ bytes) =
      (words :: (contained sentences bytes).1, (contained sentences bytes).2) := by
  rw [contained, if_pos (List.prefix_append _ _), List.drop_left]

theorem contained_all (sentences : List Sentence) :
    contained sentences (sentences.flatMap encodeSentence) = (sentences, []) := by
  induction sentences with
  | nil => rfl
  | cons words sentences ih => rw [List.flatMap_cons, contained_append, ih]

theorem contained_cut (sentences : List Sentence) (bytes more : List UInt8) :
    ∃ rest : List Sentence, sentences = (contained sentences bytes).1 ++ rest ∧
      contained rest (contained sentences bytes).2 = ([], (contained sentences bytes).2) ∧
      contained sentences (bytes ++ more) =
        ((contained sentences bytes).1 ++ (contained rest ((contained sentences bytes).2 ++ more)).1,
          (contained rest ((contained sentences bytes).2 ++ more)).2) := by
  induction sentences generalizing bytes with
  | nil => exact ⟨[], rfl, rfl, rfl⟩
  | cons words sentences ih =>
    by_cases hwhole : encodeSentence words <+: bytes
    · obtain ⟨after, rfl⟩ := hwhole
      obtain ⟨rest, hsplit, hnone, hlater⟩ := ih after
      rw [List.append_assoc, contained_append, contained_append]
      refine ⟨rest, ?_, hnone, ?_⟩
      · exact congrArg (words :: ·) hsplit
      · rw [hlater]
        rfl
    · have hnone : contained (words :: sentences) bytes = ([], bytes) := by
        unfold contained
        rw [if_neg hwhole]
      rw [hnone]
      exact ⟨words :: sentences, rfl, hnone, rfl⟩

theorem bytes_of_contained (sentences : List Sentence) (bytes : List UInt8) :
    bytes = (contained sentences bytes).1.flatMap encodeSentence ++ (contained sentences bytes).2 := by
  induction sentences generalizing bytes with
  | nil => rfl
  | cons words sentences ih =>
    by_cases hwhole : encodeSentence words <+: bytes
    · obtain ⟨after, rfl⟩ := hwhole
      rw [contained_append, List.flatMap_cons, List.append_assoc, ← ih after]
    · have hnone : contained (words :: sentences) bytes = ([], bytes) := by
        unfold contained
        rw [if_neg hwhole]
      rw [hnone]
      rfl

theorem parseSentences_cut {sentences : List Sentence}
    (hsend : ∀ words ∈ sentences, ∀ word ∈ words, Sendable word)
    (h : bytes <+: sentences.flatMap encodeSentence) :
    parseSentences bytes = some (contained sentences bytes) := by
  induction sentences generalizing bytes with
  | nil =>
    obtain rfl := List.prefix_nil.mp h
    rfl
  | cons words sentences ih =>
    have hwords := hsend words List.mem_cons_self
    rw [List.flatMap_cons] at h
    by_cases hwhole : encodeSentence words <+: bytes
    · obtain ⟨after, rfl⟩ := hwhole
      have hafter : after <+: sentences.flatMap encodeSentence :=
        (List.prefix_append_right_inj _).mp h
      unfold parseSentences
      rw [scan_encodeSentence hwords (Nat.lt_succ_self _),
        ih (fun w hw => hsend w (List.mem_cons_of_mem _ hw)) hafter, contained_append]
      rfl
    · have hpart : bytes <+: encodeSentence words :=
        (List.prefix_or_prefix_of_prefix h (List.prefix_append _ _)).resolve_right hwhole
      obtain ⟨missing, hcut⟩ := hpart
      unfold parseSentences contained
      rw [if_neg hwhole]
      refine scan_part hwords (Nat.lt_succ_self _) hcut.symm ?_
      rintro rfl
      exact hwhole ⟨[], by rw [List.append_nil, ← hcut, List.append_nil]⟩

theorem receive_chunks {sentences : List Sentence}
    (hsend : ∀ words ∈ sentences, ∀ word ∈ words, Sendable word) {buf : List UInt8}
    (hbuf : contained sentences buf = ([], buf)) {chunks : List (List UInt8)}
    (h : buf ++ chunks.flatten <+: sentences.flatMap encodeSentence) :
    receive buf chunks = some (contained sentences (buf ++ chunks.flatten)) := by
  induction chunks generalizing sentences buf with
  | nil =>
    rw [List.flatten_nil, List.append_nil, hbuf]
    rfl
  | cons chunk chunks ih =>
    rw [List.flatten_cons, ← List.append_assoc] at h ⊢
    obtain ⟨rest, hsplit, hnone, hlater⟩ :=
      contained_cut sentences (buf ++ chunk) chunks.flatten
    unfold receive
    rw [parseSentences_cut hsend ((List.prefix_append _ _).trans h), hlater]
    have hbytes := bytes_of_contained sentences (buf ++ chunk)
    generalize contained sentences (buf ++ chunk) = cut at hsplit hnone hbytes ⊢
    obtain ⟨whole, left⟩ := cut
    have hrest : left ++ chunks.flatten <+: rest.flatMap encodeSentence := by
      rw [hbytes, hsplit, List.flatMap_append, List.append_assoc] at h
      exact (List.prefix_append_right_inj _).mp h
    have hsend' : ∀ words ∈ rest, ∀ word ∈ words, Sendable word := fun words hwords =>
      hsend words (hsplit ▸ List.mem_append_right _ hwords)
    exact congrArg (Option.map _) (ih hsend' hnone hrest)

/-- However bytes are cut, the chunks are read as their sentences. -/
theorem receive_encoded (sentences : List Sentence)
    (hsend : ∀ words ∈ sentences, ∀ word ∈ words, Sendable word) (chunks : List (List UInt8)) :
    (chunks.flatten = sentences.flatMap encodeSentence → receive [] chunks = some (sentences, [])) ∧
      (chunks.flatten <+: sentences.flatMap encodeSentence →
        receive [] chunks = some (contained sentences chunks.flatten)) := by
  have hempty : contained sentences [] = ([], []) := by
    cases sentences with
    | nil => rfl
    | cons words sentences =>
      unfold contained
      exact if_neg fun h => encodeSentence_ne_nil words (List.prefix_nil.mp h)
  have hpart : chunks.flatten <+: sentences.flatMap encodeSentence →
      receive [] chunks = some (contained sentences chunks.flatten) := fun h =>
    receive_chunks hsend hempty h
  refine ⟨fun h => ?_, hpart⟩
  rw [hpart (h ▸ List.prefix_rfl), h, contained_all]

/-- Two sentences. -/
def sampleSentences : List Sentence := [[['!', 'r', 'e'], ['=', 'é']], [['!', 'd', 'o', 'n', 'e']]]

/-- They are read in chunks that cut a length, a character and a sentence. -/
theorem receive_encoded_sample :
    receive [] [[3, 33, 114], [101, 3, 61, 195], [169, 0, 5], [33, 100, 111, 110, 101, 0]] =
        some (sampleSentences, []) ∧
      receive [] [[3, 33, 114], [101, 3, 61, 195], [169, 0, 5]] = some ([[['!', 'r', 'e'], ['=', 'é']]], [5]) :=
  ⟨(receive_encoded sampleSentences (by decide) _).1 (by decide),
    ((receive_encoded sampleSentences (by decide) _).2 (by decide)).trans (by decide)⟩

end FireIsp.Routeros
