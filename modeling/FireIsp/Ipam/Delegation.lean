import FireIsp.Ipam.AddressText

/-!
# Delegated prefixes

The search takes the first block of the pool that the tests find free. The tests look at the first
address of a block and at its text, so a block may be found free although an excluded range starts
inside it, or a live assignment that is written another way has addresses of it. Exactly then the
prefix assigned may not be exclusive.
-/

namespace FireIsp.Ipam

open Ipv6 Fallible

def Assignment.Denotes (row : Assignment) (p : Prefix) : Prop :=
  DenotesWith (row.prefixLen.getD 128) row.ipAddress p

/-- The row is of a prefix that shares no address with an exclusion or live assignment. -/
def Exclusive (store : Store) (pool : Pool) (network : Prefix) (row : Assignment) : Prop :=
  ∃ delegated, row.Denotes delegated ∧ network.Contains delegated ∧
    (∀ ranges ∈ pool.excludedRanges, ∀ entry ∈ excludedEntries ranges, ∀ range,
      DenotesWith 128 entry range → ¬delegated.Meets range) ∧
    ∀ other ∈ store.rows, other.live → ∀ range, other.Denotes range → ¬delegated.Meets range

/-- An exclusion or a live assignment has addresses of the block, or starts in it. -/
def Disputed (store : Store) (pool : Pool) (block : Prefix) : Prop :=
  (∃ ranges ∈ pool.excludedRanges, ∃ entry ∈ excludedEntries ranges, ∃ range,
    DenotesWith 128 entry range ∧
      (block.start < range.start ∧ range.start < block.start + block.size ∨
        '.' ∈ entry ∧ block.Meets range)) ∨
    ∃ other ∈ store.rows, other.live ∧ ∃ range, other.Denotes range ∧ block.Meets range

/-- A disputed block found free comes after a free one, or is stored already. -/
def Undisputed (collate : List Char → List Char) (store : Store) (pool : Pool)
    (network : Prefix) : Prop :=
  ∀ len ∈ pool.defaultPrefixLen, len ≠ 0 → ∀ (hlen : len ≤ 128) (index : Nat)
    (hfit : (index + 1) * 2 ^ (128 - len) ≤ network.size),
    isFree store pool len (network.block len index hlen hfit).start →
    Disputed store pool (network.block len index hlen hfit) →
    (∃ earlier < index, isFree store pool len (network.start + earlier * 2 ^ (128 - len) : Nat)) ∨
      isStored collate store (candidate (network.block len index hlen hfit).start len)

theorem nextFree_eq_some {free : Int → Bool} {size broadcastBig : Int}
    {count : Nat} {prefixStart found : Int}
    (hfits : ∀ index < count, prefixStart + index * size + size - 1 ≤ broadcastBig) :
    nextFree free size broadcastBig count prefixStart = some found ↔
      ∃ index < count, found = prefixStart + index * size ∧ free found = true ∧
        ∀ earlier < index, free (prefixStart + earlier * size) = false := by
  induction count generalizing prefixStart with
  | zero => simp [nextFree]
  | succ count ih =>
    have hfirst : prefixStart + size - 1 ≤ broadcastBig := by
      have hzero := hfits 0 (Nat.succ_pos count)
      simpa using hzero
    have hnext : ∀ index : Nat, prefixStart + size + index * size =
        prefixStart + (index + 1 : Nat) * size := by
      intro index
      push_cast
      ring
    have hrest := ih fun index hindex => by
      rw [hnext]
      exact hfits (index + 1) (Nat.succ_lt_succ hindex)
    unfold nextFree
    rw [if_pos hfirst]
    cases hfree : free prefixStart with
    | true =>
      simp only [if_true, Option.some.injEq]
      constructor
      · rintro rfl
        exact ⟨0, Nat.succ_pos count, by simp, hfree, fun _ h => absurd h (Nat.not_lt_zero _)⟩
      · rintro ⟨index, -, rfl, -, hearlier⟩
        cases index with
        | zero => simp
        | succ index =>
          have hzero := hearlier 0 (Nat.succ_pos index)
          simp [hfree] at hzero
    | false =>
      simp only [Bool.false_eq_true, if_false]
      rw [hrest]
      constructor
      · rintro ⟨index, hindex, rfl, hfound, hearlier⟩
        refine ⟨index + 1, Nat.succ_lt_succ hindex, hnext index, hfound, fun earlier h => ?_⟩
        cases earlier with
        | zero => simpa using hfree
        | succ earlier =>
          rw [← hnext]
          exact hearlier earlier (Nat.lt_of_succ_lt_succ h)
      · rintro ⟨index, hindex, rfl, hfound, hearlier⟩
        cases index with
        | zero => simp [hfree] at hfound
        | succ index =>
          refine ⟨index, Nat.lt_of_succ_lt_succ hindex, (hnext index).symm, hfound,
            fun earlier h => ?_⟩
          rw [hnext]
          exact hearlier (earlier + 1) (Nat.succ_lt_succ h)

variable {entry : List Char}

theorem entryExcludes_iff {range : Prefix} (hdot : '.' ∉ entry) (h : DenotesWith 128 entry range)
    (address : Nat) :
    entryExcludes address entry = true ↔ range.Covers address := by
  obtain ⟨form, ⟨rfl, hlen, rfl⟩ | ⟨len, rfl, hlen, rfl⟩⟩ := h
  · have hquad : form.quad = none := by
      by_contra hne
      exact hdot (dot_mem_text hne)
    unfold entryExcludes
    rw [if_neg (slash_not_mem_text form), ipv6ToBigInt_text hquad]
    simp only [Option.any_some, decide_eq_true_eq, Prefix.Covers, Prefix.size, Form.toPrefix,
      Prefix.of, Nat.sub_self, Nat.pow_zero, Nat.div_one, Nat.mul_one]
    omega
  · have hquad : form.quad = none := by
      by_contra hne
      exact hdot (List.mem_append_left _ (dot_mem_text hne))
    have hslash : '/' ∈ form.cidr len := List.mem_append_right _ List.mem_cons_self
    have hpos := (form.toPrefix len hlen).size_pos
    unfold entryExcludes
    rw [if_pos hslash, parseRange_cidr hquad hlen]
    simp only [Option.any_some, decide_eq_true_eq, Prefix.Covers]
    omega

variable {len : Nat}

theorem entryExcludes_of_free {store : Store} {pool : Pool} {address : Int}
    (h : isFree store pool len address = true) {ranges : List Char}
    (hranges : ranges ∈ pool.excludedRanges) (hentry : entry ∈ excludedEntries ranges) :
    entryExcludes address entry = false := by
  simp only [isFree, Bool.and_eq_true, Bool.not_eq_true', decide_eq_false_iff_not] at h
  have hexcluded := h.1.1
  unfold isIpv6Excluded at hexcluded
  rw [hranges] at hexcluded
  exact Bool.eq_false_iff.mpr fun hcovers =>
    Bool.eq_false_iff.mp hexcluded (List.any_eq_true.mpr ⟨entry, hentry, hcovers⟩)

theorem inside_of_meets {block range : Prefix} (hdenotes : DenotesWith 128 entry range)
    (hmeets : block.Meets range) (hfree : entryExcludes block.start entry = false) :
    block.start < range.start ∧ range.start < block.start + block.size ∨
      '.' ∈ entry ∧ block.Meets range := by
  by_cases hdot : '.' ∈ entry
  · exact Or.inr ⟨hdot, hmeets⟩
  · have hnot : ¬range.Covers block.start := fun hcovers => by
      rw [(entryExcludes_iff hdot hdenotes block.start).mpr hcovers] at hfree
      cases hfree
    rcases Prefix.meets_iff.mp hmeets with hstart | hstart
    · have hne : range.start ≠ block.start := fun e => hnot (e ▸ range.covers_start)
      have hlow := hstart.1
      exact Or.inl ⟨by omega, hstart.2⟩
    · exact absurd hstart hnot

variable {collate : List Char → List Char} {store : Store} {pool : Pool} {subscriber : Subscriber}

structure Parsed (pool : Pool) (network : Prefix) (len : Nat) : Prop where
  range : parseIpv6Pool pool = some ⟨network.start, network.start + network.size - 1⟩
  length : pool.defaultPrefixLen = some len
  length_ne : len ≠ 0

variable {network : Prefix}

theorem Parsed.length_le (h : Parsed pool network len) :
    len ≤ 128 := pool.defaultPrefixLen_le len h.length

theorem blockSize_eq (hlen : len ≤ 128) :
    blockSize len = ((2 ^ (128 - len) : Nat) : Int) := by
  have hsub : (128 : Int) - len = ((128 - len : Nat) : Int) := by omega
  unfold blockSize
  rw [hsub, shiftLeft_one]

theorem search_eq_some (free : Int → Bool) (network : Prefix) (hlen : len ≤ 128) (found : Int) :
    nextFree free (blockSize len) (network.start + network.size - 1)
        (blockCount ⟨network.start, network.start + network.size - 1⟩ (blockSize len))
        network.start = some found ↔
      ∃ index, ∃ hfit : (index + 1) * 2 ^ (128 - len) ≤ network.size,
        found = (network.block len index hlen hfit).start ∧ free found = true ∧
          ∀ earlier < index,
            free (network.start + earlier * 2 ^ (128 - len) : Nat) = false := by
  have hpos : 0 < 2 ^ (128 - len) := Nat.two_pow_pos _
  have hcount : blockCount ⟨network.start, network.start + network.size - 1⟩ (blockSize len) =
      network.size / 2 ^ (128 - len) := by
    have hsub : (network.start : Int) + network.size - 1 + 1 - network.start =
        ((network.size : Nat) : Int) := by omega
    unfold blockCount
    rw [blockSize_eq hlen, hsub]
    rfl
  have hfit : ∀ index, index < network.size / 2 ^ (128 - len) ↔
      (index + 1) * 2 ^ (128 - len) ≤ network.size := fun index =>
    Nat.le_div_iff_mul_le hpos
  have hcast : ∀ index : Nat, (network.start : Int) + index * blockSize len =
      ((network.start + index * 2 ^ (128 - len) : Nat) : Int) := by
    intro index
    rw [blockSize_eq hlen]
    push_cast
    rfl
  have hfits : ∀ index < network.size / 2 ^ (128 - len),
      (network.start : Int) + index * blockSize len + blockSize len - 1 ≤
        network.start + network.size - 1 := by
    intro index hindex
    have hle := (hfit index).mp hindex
    rw [Nat.add_mul, Nat.one_mul] at hle
    rw [hcast, blockSize_eq hlen]
    omega
  rw [hcount, nextFree_eq_some hfits]
  constructor
  · rintro ⟨index, hindex, rfl, hfree, hearlier⟩
    refine ⟨index, (hfit index).mp hindex, hcast index, hfree, fun earlier h => ?_⟩
    rw [← hcast]
    exact hearlier earlier h
  · rintro ⟨index, hindex, rfl, hfree, hearlier⟩
    refine ⟨index, (hfit index).mpr hindex, (hcast index).symm, hfree, fun earlier h => ?_⟩
    rw [hcast]
    exact hearlier earlier h

variable {row : Assignment} {after : Store}

theorem assign_ok_iff (h : Parsed pool network len) :
    assignNextFreeIpv6Prefix collate store pool subscriber = .ok (row, after) ↔
      ∃ index, ∃ hfit : (index + 1) * 2 ^ (128 - len) ≤ network.size,
        isFree store pool len (network.block len index h.length_le hfit).start = true ∧
        (∀ earlier < index,
          isFree store pool len (network.start + earlier * 2 ^ (128 - len) : Nat) = false) ∧
        isStored collate store
          (candidate (network.block len index h.length_le hfit).start len) = false ∧
        row = newAssignment store pool subscriber
          (candidate (network.block len index h.length_le hfit).start len) ∧
        after = ⟨store.nextId + 1, store.rows ++ [row]⟩ := by
  have hsearch := search_eq_some (isFree store pool len) network h.length_le
  unfold assignNextFreeIpv6Prefix
  rw [h.range, h.length]
  simp only [refuseIf, if_neg h.length_ne, pure_bind]
  constructor
  · intro hassign
    split at hassign
    · rename_i found hfound
      obtain ⟨index, hfit, rfl, hfree, hearlier⟩ := (hsearch found).mp hfound
      obtain ⟨_, hstored, hassign⟩ := ok_of_bind hassign
      cases hassign
      exact ⟨index, hfit, hfree, hearlier, Bool.eq_false_iff.mpr (refuseIf_ok hstored), rfl, rfl⟩
    · cases hassign
  · rintro ⟨index, hfit, hfree, hearlier, hstored, rfl, rfl⟩
    have hfound := (hsearch _).mpr ⟨index, hfit, rfl, hfree, hearlier⟩
    rw [hfound]
    simp only [hstored]
    rfl

theorem candidate_cidr (block : Prefix) :
    ∃ form : Form, form.quad = none ∧ candidate block.start block.len = form.cidr block.len ∧
      form.toPrefix block.len block.len_le = block := by
  obtain ⟨form, hquad, htext, hvalue⟩ := bigIntToIpv6_text block.start_lt
  refine ⟨form, hquad, ?_, ?_⟩
  · unfold candidate Form.cidr
    rw [htext]
  · have hstart : form.value / 2 ^ (128 - block.len) * 2 ^ (128 - block.len) = block.start := by
      rw [hvalue]
      exact Nat.div_mul_cancel block.aligned
    obtain ⟨start, len, start_lt, len_le, aligned⟩ := block
    simp only [Form.toPrefix, Prefix.of, hstart]

theorem newAssignment_denotes {block delegated : Prefix} :
    (newAssignment store pool subscriber (candidate block.start block.len)).Denotes delegated ↔
      delegated = block := by
  obtain ⟨form, hquad, htext, hprefix⟩ := candidate_cidr block
  unfold Assignment.Denotes newAssignment
  rw [htext]
  constructor
  · intro h
    rw [denotesWith_cidr hquad block.len_le h, hprefix]
  · rintro rfl
    exact ⟨form, Or.inr ⟨_, rfl, delegated.len_le, hprefix.symm⟩⟩

theorem length_of_assign
    (h : assignNextFreeIpv6Prefix collate store pool subscriber = .ok (row, after)) :
    ∃ len, pool.defaultPrefixLen = some len ∧ len ≠ 0 := by
  unfold assignNextFreeIpv6Prefix at h
  split at h
  · split at h
    · rename_i len hlen
      obtain ⟨_, hne, -⟩ := ok_of_bind h
      exact ⟨len, hlen, refuseIf_ok hne⟩
    · cases h
  · cases h

theorem exclusive_of_undisputed (h : Parsed pool network len)
    (hundisputed : Undisputed collate store pool network)
    (hassign : assignNextFreeIpv6Prefix collate store pool subscriber = .ok (row, after)) :
    Exclusive store pool network row := by
  obtain ⟨index, hfit, hfree, hearlier, hstored, rfl, -⟩ := (assign_ok_iff h).mp hassign
  have hnot : ¬Disputed store pool (network.block len index h.length_le hfit) := by
    intro hdisputed
    rcases hundisputed len h.length h.length_ne h.length_le index hfit hfree hdisputed with
      ⟨earlier, hlt, hfirst⟩ | hsame
    · rw [hearlier earlier hlt] at hfirst
      cases hfirst
    · rw [hstored] at hsame
      cases hsame
  refine ⟨network.block len index h.length_le hfit, newAssignment_denotes.mpr rfl,
    network.contains_block h.length_le hfit, ?_, ?_⟩
  · intro ranges hranges entry hentry range hrange hmeets
    have hexcluded := entryExcludes_of_free hfree hranges hentry
    exact hnot (Or.inl ⟨ranges, hranges, entry, hentry, range, hrange,
      inside_of_meets hrange hmeets hexcluded⟩)
  · intro other hother hlive range hrange hmeets
    exact hnot (Or.inr ⟨other, hother, hlive, range, hrange, hmeets⟩)

theorem undisputed_of_exclusive
    (hrange : parseIpv6Pool pool = some ⟨network.start, network.start + network.size - 1⟩)
    (hall : ∀ row after,
      assignNextFreeIpv6Prefix collate store pool subscriber = .ok (row, after) →
        Exclusive store pool network row) :
    Undisputed collate store pool network := by
  intro len hdefault hne hlen index hfit hfree hdisputed
  have h : Parsed pool network len := ⟨hrange, hdefault, hne⟩
  by_contra hnot
  obtain ⟨hfirst, hstored⟩ := not_or.mp hnot
  obtain ⟨delegated, hdenotes, -, hexcluded, hothers⟩ := hall _ _ ((assign_ok_iff h).mpr
    ⟨index, hfit, hfree, fun earlier hlt => Bool.eq_false_iff.mpr fun hfree' =>
      hfirst ⟨earlier, hlt, hfree'⟩, Bool.eq_false_iff.mpr hstored, rfl, rfl⟩)
  obtain rfl := newAssignment_denotes.mp hdenotes
  rcases hdisputed with ⟨ranges, hranges, entry, hentry, range, hrange', hinside⟩ |
    ⟨other, hother, hlive, range, hrange', hmeets⟩
  · refine hexcluded ranges hranges entry hentry range hrange' ?_
    rcases hinside with ⟨hlow, hhigh⟩ | ⟨-, hmeets⟩
    · exact Prefix.meets_iff.mpr (Or.inl ⟨Nat.le_of_lt hlow, hhigh⟩)
    · exact hmeets
  · exact hothers other hother hlive range hrange' hmeets

/-- `2001:db8::`. -/
def documentationForm : Form where
  left := [⟨['2', '0', '0', '1'], by decide, by decide, List.all_eq_true.mp rfl⟩,
    ⟨['d', 'b', '8'], by decide, by decide, List.all_eq_true.mp rfl⟩]
  right := some []
  quad := none
  size := by decide

/-- `2001:db8:0:1::`. -/
def managementForm : Form where
  left := [⟨['2', '0', '0', '1'], by decide, by decide, List.all_eq_true.mp rfl⟩,
    ⟨['d', 'b', '8'], by decide, by decide, List.all_eq_true.mp rfl⟩,
    ⟨['0'], by decide, by decide, List.all_eq_true.mp rfl⟩,
    ⟨['1'], by decide, by decide, List.all_eq_true.mp rfl⟩]
  right := some []
  quad := none
  size := by decide

/-- A pool `2001:db8::/32` of prefixes of 48 bits. -/
def documentationPool (excludedRanges : Option (List Char)) : Pool where
  id := 5
  organizationId := some 1
  network := documentationForm.cidr 32
  defaultPrefixLen := some 48
  excludedRanges := excludedRanges
  defaultPrefixLen_le := by
    intro len hlen
    cases hlen
    decide

end FireIsp.Ipam
