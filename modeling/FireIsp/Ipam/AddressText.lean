import FireIsp.Ipam.PoolAssignment

/-!
# Texts of addresses

What `ipv6ToBigInt`, `bigIntToIpv6` and the parsing of ranges make of the texts of addresses: an
address written in hexadecimal groups is read as its number, a number is written as its address,
and the range of a prefix is read as its first and last address.
-/

namespace FireIsp.Ipam

open Ipv6

theorem splitPairs_ne_nil (text : List Char) : splitPairs text ≠ [] := by
  induction text using splitPairs.induct with
  | case1 => simp [splitPairs]
  | case2 rest ih => simp [splitPairs]
  | case3 c rest hc ih =>
    rw [splitPairs.eq_3 c rest hc]
    cases hrest : splitPairs rest with
    | nil => exact absurd hrest ih
    | cons part parts => simp [prepend]

theorem prepend_nil (text : List Char) : prepend [] (splitPairs text) = splitPairs text := by
  cases h : splitPairs text with
  | nil => exact absurd h (splitPairs_ne_nil text)
  | cons part parts => rfl

theorem prepend_prepend (a b : List Char) (parts : List (List Char)) :
    prepend a (prepend b parts) = prepend (a ++ b) parts := by
  cases parts with
  | nil => rfl
  | cons part parts => simp only [prepend, List.append_assoc]

theorem splitPairs_append {group : List Char} (h : ':' ∉ group) (rest : List Char) :
    splitPairs (group ++ rest) = prepend group (splitPairs rest) := by
  induction group with
  | nil => exact (prepend_nil rest).symm
  | cons c group ih =>
    have hc : c ≠ ':' := fun e => h (by simp [e])
    have hgroup : ':' ∉ group := fun e => h (List.mem_cons_of_mem c e)
    rw [List.cons_append, splitPairs.eq_3 c _ fun _ e => absurd e.symm (by simp [hc.symm]),
      ih hgroup, prepend_prepend]
    rfl

/-- Groups of an address: not empty, and without colons. -/
def Groups (groups : List (List Char)) : Prop :=
  ∀ group ∈ groups, group ≠ [] ∧ ':' ∉ group

variable {groups : List (List Char)}

theorem splitPairs_groups (hne : groups ≠ []) (h : Groups groups) (tail : List Char) :
    splitPairs ([':'].intercalate groups ++ tail) =
      prepend ([':'].intercalate groups) (splitPairs tail) := by
  induction groups with
  | nil => exact absurd rfl hne
  | cons group groups ih =>
    have hgroup := h group List.mem_cons_self
    cases groups with
    | nil =>
      rw [List.intercalate_singleton]
      exact splitPairs_append hgroup.2 tail
    | cons next groups =>
      have hrest : Groups (next :: groups) := fun g hg => h g (List.mem_cons_of_mem group hg)
      obtain ⟨hnext, hcolon⟩ := hrest next List.mem_cons_self
      obtain ⟨c, digits, rfl⟩ := List.exists_cons_of_ne_nil hnext
      have hc : c ≠ ':' := fun e => hcolon (by simp [e])
      -- the colon between two groups is followed by the first digit of the second
      have hhead : ∃ rest, [':'].intercalate ((c :: digits) :: groups) ++ tail = c :: rest := by
        cases groups with
        | nil => exact ⟨digits ++ tail, by simp⟩
        | cons third groups => exact ⟨_, by rw [List.intercalate_cons_cons]; rfl⟩
      obtain ⟨rest, hhead⟩ := hhead
      have hpair : splitPairs (':' :: c :: rest) = prepend [':'] (splitPairs (c :: rest)) :=
        splitPairs.eq_3 ':' (c :: rest) fun _ _ e => hc (List.cons.inj e).1
      rw [List.intercalate_cons_cons, List.append_assoc, List.append_assoc,
        splitPairs_append hgroup.2, List.singleton_append, hhead, hpair, ← hhead,
        ih (List.cons_ne_nil _ _) hrest, prepend_prepend, prepend_prepend]

theorem mem_quadText {quad : Quad} {c : Char} (h : c ∈ quadText quad) :
    c = '.' ∨ Numeral.isDigit 16 c = true := by
  have hdigit : ∀ octet : Fin 256, ∀ c ∈ Nat.toDigits 10 octet.val,
      Numeral.isDigit 16 c = true := by
    intro octet c hc
    obtain ⟨value, hvalue, hlt⟩ :=
      Numeral.isDigit_spec (Numeral.isDigit_toDigits (by decide) (by decide) octet.val c hc)
    rw [Numeral.isDigit, hvalue]
    exact decide_eq_true (by omega)
  simp only [quadText, List.map_cons, List.map_nil, List.intercalate_cons_cons,
    List.intercalate_singleton, List.mem_append, List.mem_singleton] at h
  rcases h with (h | h) | (h | h) | (h | h) | h
  · exact Or.inr (hdigit _ c h)
  · exact Or.inl h
  · exact Or.inr (hdigit _ c h)
  · exact Or.inl h
  · exact Or.inr (hdigit _ c h)
  · exact Or.inl h
  · exact Or.inr (hdigit _ c h)

def pieces (groups : List Hextet) (quad : Option Quad) : List (List Char) :=
  groups.map Hextet.digits ++ quad.toList.map quadText

theorem groups_pieces (groups : List Hextet) (quad : Option Quad) : Groups (pieces groups quad) := by
  have hhex : ∀ c, Numeral.isDigit 16 c = true → c ≠ ':' := by
    intro c hc
    obtain ⟨value, hvalue, -⟩ := Numeral.isDigit_spec hc
    exact (Numeral.hexDigit_spec hvalue).2.2.2.2.2.2.1
  intro piece hpiece
  rcases List.mem_append.mp hpiece with hpiece | hpiece
  · obtain ⟨group, -, rfl⟩ := List.mem_map.mp hpiece
    exact ⟨group.nonempty, fun hcolon => hhex _ (group.hex ':' hcolon) rfl⟩
  · obtain ⟨quad, -, rfl⟩ := List.mem_map.mp hpiece
    refine ⟨by simp [quadText], fun hcolon => ?_⟩
    rcases mem_quadText hcolon with hdot | hdigit
    · cases hdot
    · exact hhex _ hdigit rfl

theorem halfGroups_groups (hgroups : Groups groups) :
    halfGroups ([':'].intercalate groups) = groups := by
  unfold halfGroups
  cases groups with
  | nil => rfl
  | cons group rest =>
    have hfirst := (hgroups group List.mem_cons_self).1
    have hne : ([':'].intercalate (group :: rest)).isEmpty = false := by
      cases rest with
      | nil => simpa using hfirst
      | cons next rest =>
        rw [List.intercalate_cons_cons]
        simp [hfirst]
    rw [hne]
    exact List.splitOn_intercalate ':' (fun digits hdigits => (hgroups digits hdigits).2)
      (List.cons_ne_nil _ _)

/-- Texts of the groups of an address. -/
def expanded (form : Form) : List (List Char) :=
  match form.right with
  | none => pieces form.left form.quad
  | some right =>
    form.left.map Hextet.digits ++
      List.replicate (8 - form.left.length - (pieces right form.quad).length) ['0', '0', '0', '0'] ++
      pieces right form.quad

theorem expandedGroups_text (form : Form) : expandedGroups form.text = some (expanded form) := by
  have hpairs : ∀ (groups : List Hextet) (quad : Option Quad) (tail : List Char),
      splitPairs (Form.groupsText groups quad ++ tail) =
        prepend (Form.groupsText groups quad) (splitPairs tail) := by
    intro groups quad tail
    unfold Form.groupsText
    cases hpieces : groups.map Hextet.digits ++ quad.toList.map quadText with
    | nil => exact (prepend_nil tail).symm
    | cons piece rest =>
      exact splitPairs_groups (List.cons_ne_nil _ _) (hpieces ▸ groups_pieces groups quad) tail
  have hhalf : ∀ (groups : List Hextet) (quad : Option Quad),
      halfGroups (Form.groupsText groups quad) = pieces groups quad := fun groups quad =>
    halfGroups_groups (groups_pieces groups quad)
  have hquad := fun quad : Option Quad => (by cases quad <;> simp : quad.toList.length ≤ 1)
  obtain ⟨left, right, quad, size⟩ := form
  cases right with
  | none =>
    have hne : pieces left quad ≠ [] := by
      rintro heq
      have hlength := congrArg List.length heq
      simp only [pieces, List.length_append, List.length_map, List.length_nil] at hlength
      simp only at size
      omega
    have hsplit := hpairs left quad []
    rw [List.append_nil] at hsplit
    unfold expandedGroups
    simp only [Form.text, hsplit, splitPairs, prepend, List.append_nil, expanded]
    exact congrArg some (List.splitOn_intercalate ':' (fun digits hdigits =>
      (groups_pieces left quad digits hdigits).2) hne)
  | some right =>
    have htext : Form.text ⟨left, some right, quad, size⟩ = Form.groupsText left none ++
        (':' :: ':' :: (Form.groupsText right quad ++ [])) := by
      simp [Form.text]
    have hleft : pieces left none = left.map Hextet.digits := List.append_nil _
    unfold expandedGroups
    rw [htext, hpairs, splitPairs.eq_2, hpairs]
    simp only [splitPairs, prepend, List.append_nil, hhalf, hleft, expanded, List.length_map]
    refine if_pos ?_
    have := hquad quad
    simp only [pieces, List.length_append, List.length_map]
    simp only at size
    omega

variable {form : Form}

theorem lor_shiftLeft (value : Nat) {bits low : Nat} (h : low < 2 ^ bits) :
    Int.lor (((value : Nat) : Int) <<< ((bits : Nat) : Int)) (low : Int) =
      ((value * 2 ^ bits + low : Nat) : Int) := by
  rw [Int.shiftLeft_natCast]
  change ((value <<< bits ||| low : Nat) : Int) = _
  rw [← Nat.shiftLeft_add_eq_or_of_lt h, Nat.shiftLeft_eq]

theorem addGroup_digits (acc : Nat) {digits : List Char} (hne : digits ≠ [])
    (hshort : digits.length ≤ 4) (hhex : ∀ c ∈ digits, Numeral.isDigit 16 c = true) :
    addGroup acc digits = some ((acc * 65536 + Numeral.digitsValue 16 digits : Nat) : Int) := by
  have hlt : Numeral.digitsValue 16 digits < 2 ^ 16 :=
    calc Numeral.digitsValue 16 digits < 16 ^ digits.length := Numeral.digitsValue_lt hhex
      _ ≤ 16 ^ 4 := Nat.pow_le_pow_right (by decide) hshort
      _ = 2 ^ 16 := by decide
  have hnumber : Numeral.digitsValue 16 digits < 2 ^ 53 := Nat.lt_trans hlt (by decide)
  have hempty : digits.isEmpty = false := by simpa using hne
  unfold addGroup
  rw [hempty, if_neg Bool.false_ne_true, Numeral.parseInt_digits hne hhex hnumber]
  exact congrArg some (lor_shiftLeft acc hlt)

theorem foldlM_addGroup (h : ∀ digits ∈ groups, digits ≠ [] ∧ digits.length ≤ 4 ∧
      ∀ c ∈ digits, Numeral.isDigit 16 c = true) (acc : Nat) :
    groups.foldlM addGroup (acc : Int) =
      some (((groups.map (Numeral.digitsValue 16)).foldl
        (fun value word => value * 65536 + word) acc : Nat) : Int) := by
  induction groups generalizing acc with
  | nil => rfl
  | cons digits groups ih =>
    obtain ⟨hne, hshort, hhex⟩ := h digits List.mem_cons_self
    rw [List.foldlM_cons, addGroup_digits acc hne hshort hhex]
    exact ih (fun d hd => h d (List.mem_cons_of_mem digits hd)) _

theorem ipv6ToBigInt_text (hquad : form.quad = none) :
    ipv6ToBigInt form.text = some (form.value : Int) := by
  have hzeros : Numeral.digitsValue 16 ['0', '0', '0', '0'] = 0 := by decide
  have hgroups : ∀ groups : List Hextet, ∀ digits ∈ groups.map Hextet.digits, digits ≠ [] ∧
      digits.length ≤ 4 ∧ ∀ c ∈ digits, Numeral.isDigit 16 c = true := by
    intro groups digits hdigits
    obtain ⟨group, -, rfl⟩ := List.mem_map.mp hdigits
    exact ⟨group.nonempty, group.short, group.hex⟩
  have hexpanded : (∀ digits ∈ expanded form, digits ≠ [] ∧ digits.length ≤ 4 ∧
      ∀ c ∈ digits, Numeral.isDigit 16 c = true) ∧
      (expanded form).map (Numeral.digitsValue 16) = form.words := by
    have hpieces : ∀ groups, pieces groups none = groups.map Hextet.digits := fun groups =>
      List.append_nil _
    unfold expanded Form.words
    simp only [hquad, hpieces, List.length_map]
    cases form.right with
    | none =>
      refine ⟨hgroups form.left, ?_⟩
      simp only [List.map_map, Option.toList_none, List.flatMap_nil, List.append_nil]
      rfl
    | some right =>
      constructor
      · intro digits hdigits
        simp only [List.mem_append] at hdigits
        rcases hdigits with (hdigits | hdigits) | hdigits
        · exact hgroups form.left digits hdigits
        · rw [List.eq_of_mem_replicate hdigits]
          exact ⟨by decide, by decide, List.all_eq_true.mp rfl⟩
        · exact hgroups right digits hdigits
      · simp only [List.map_append, List.map_map, List.map_replicate, hzeros, Option.toList_none,
          List.flatMap_nil, List.append_nil, List.length_nil, Nat.sub_zero]
        rfl
  unfold ipv6ToBigInt
  rw [expandedGroups_text]
  change (expanded form).foldlM addGroup ((0 : Nat) : Int) = _
  rw [foldlM_addGroup hexpanded.1, hexpanded.2]
  rfl

theorem shiftLeft_one (bits : Nat) : (1 : Int) <<< (bits : Int) = ((2 ^ bits : Nat) : Int) := by
  have hshift := Int.shiftLeft_natCast 1 bits
  rw [Nat.one_shiftLeft] at hshift
  exact hshift

theorem shiftLeft_one_sub (bits : Nat) :
    ((1 : Int) <<< (bits : Int)) - 1 = ((2 ^ bits - 1 : Nat) : Int) := by
  have hpos : 0 < 2 ^ bits := Nat.two_pow_pos bits
  rw [shiftLeft_one]
  omega

theorem land_networkMask {address hostBits : Nat} (haddress : address < 2 ^ 128) :
    Int.land (address : Int) (networkMask hostBits) =
      ((address / 2 ^ hostBits * 2 ^ hostBits : Nat) : Int) := by
  unfold networkMask
  split_ifs with hall
  · have hall' : hostBits = 128 := by omega
    have hzero : address / 2 ^ hostBits = 0 := Nat.div_eq_of_lt (by rw [hall']; exact haddress)
    rw [hzero, Nat.zero_mul]
    change ((address &&& 0 : Nat) : Int) = _
    rw [Nat.and_zero]
  · have hmask : ∀ a b : Nat, Int.land (address : Int) (Int.land (Int.lnot (b : Int)) (a : Int)) =
        ((address &&& Nat.ldiff a b : Nat) : Int) := fun a b => rfl
    have hspace : ((128 : Nat) : Int) = 128 := rfl
    rw [← hspace, shiftLeft_one_sub hostBits, shiftLeft_one_sub 128, hmask]
    congr 1
    apply Nat.eq_of_testBit_eq
    intro i
    rw [Nat.testBit_and, Nat.testBit_ldiff, Nat.testBit_two_pow_sub_one,
      Nat.testBit_two_pow_sub_one, Nat.testBit_mul_two_pow, Nat.testBit_div_two_pow]
    by_cases hi : i < hostBits
    · have hnot : ¬hostBits ≤ i := by omega
      simp [hi, hnot]
    · have hle : hostBits ≤ i := by omega
      rw [Nat.sub_add_cancel hle]
      by_cases hi' : i < 128
      · simp [hi, hle, hi']
      · have hbit : address.testBit i = false :=
          Nat.testBit_lt_two_pow (Nat.lt_of_lt_of_le haddress
            (Nat.pow_le_pow_right (by decide) (by omega)))
        simp [hbit]

variable {c : Char}

theorem mem_intercalate (h : c ∈ [':'].intercalate groups) :
    c = ':' ∨ ∃ group ∈ groups, c ∈ group := by
  induction groups with
  | nil => cases h
  | cons group groups ih =>
    cases groups with
    | nil => exact Or.inr ⟨group, List.mem_cons_self, by simpa using h⟩
    | cons next groups =>
      rw [List.intercalate_cons_cons, List.mem_append, List.mem_append,
        List.mem_singleton] at h
      rcases h with (h | h) | h
      · exact Or.inr ⟨group, List.mem_cons_self, h⟩
      · exact Or.inl h
      · rcases ih h with h | ⟨other, hother, hc⟩
        · exact Or.inl h
        · exact Or.inr ⟨other, List.mem_cons_of_mem group hother, hc⟩

theorem mem_text (h : c ∈ form.text) :
    c = ':' ∨ Numeral.isDigit 16 c = true ∨ form.quad ≠ none ∧ c = '.' := by
  have hgroups : ∀ groups : List Hextet, ∀ quad : Option Quad, c ∈ Form.groupsText groups quad →
      c = ':' ∨ Numeral.isDigit 16 c = true ∨ quad ≠ none ∧ c = '.' := by
    intro groups quad hc
    unfold Form.groupsText at hc
    rcases mem_intercalate hc with hc | ⟨digits, hdigits, hmem⟩
    · exact Or.inl hc
    · rcases List.mem_append.mp hdigits with hdigits | hdigits
      · obtain ⟨group, -, rfl⟩ := List.mem_map.mp hdigits
        exact Or.inr (Or.inl (group.hex c hmem))
      · cases quad with
        | none => cases hdigits
        | some quad =>
          simp only [Option.toList_some, List.map_cons, List.map_nil,
            List.mem_singleton] at hdigits
          rw [hdigits] at hmem
          rcases mem_quadText hmem with hc | hc
          · exact Or.inr (Or.inr ⟨by simp, hc⟩)
          · exact Or.inr (Or.inl hc)
  unfold Form.text at h
  cases hright : form.right with
  | none =>
    rw [hright] at h
    exact hgroups form.left form.quad h
  | some right =>
    rw [hright] at h
    simp only [List.mem_append, List.mem_cons, List.not_mem_nil, or_false, or_self] at h
    rcases h with (h | h) | h
    · rcases hgroups form.left none h with h | h | ⟨h, -⟩
      · exact Or.inl h
      · exact Or.inr (Or.inl h)
      · exact absurd rfl h
    · exact Or.inl h
    · exact hgroups right form.quad h

theorem dot_mem_text (hquad : form.quad ≠ none) : '.' ∈ form.text := by
  obtain ⟨quad, hquad⟩ := Option.ne_none_iff_exists'.mp hquad
  have hdot : '.' ∈ quadText quad := by simp [quadText]
  have hgroups : ∀ groups : List Hextet, '.' ∈ Form.groupsText groups (some quad) := by
    intro groups
    unfold Form.groupsText
    induction groups with
    | nil => simpa using hdot
    | cons group groups ih =>
      cases hrest : groups.map Hextet.digits ++ (some quad).toList.map quadText with
      | nil => simp at hrest
      | cons next rest =>
        rw [hrest] at ih
        rw [List.map_cons, List.cons_append, hrest, List.intercalate_cons_cons]
        exact List.mem_append_right _ ih
  unfold Form.text
  cases form.right with
  | none =>
    rw [hquad]
    exact hgroups form.left
  | some right =>
    rw [hquad]
    exact List.mem_append_right _ (hgroups right)

theorem trim_of_no_space {text : List Char} (h : ∀ c ∈ text, Text.isSpace c = false) :
    trim text = text := by
  have hdrop : ∀ text : List Char, (∀ c ∈ text, Text.isSpace c = false) →
      text.dropWhile Text.isSpace = text := by
    intro text h
    cases text with
    | nil => rfl
    | cons c text =>
      rw [List.dropWhile_cons, h c List.mem_cons_self]
      rfl
  unfold trim
  rw [hdrop text h, hdrop text.reverse fun c hc => h c (List.mem_reverse.mp hc),
    List.reverse_reverse]

theorem plain_of_mem_text (h : c ∈ form.text) :
    Text.isSpace c = false ∧ c ≠ '/' := by
  rcases mem_text h with rfl | hdigit | ⟨-, rfl⟩
  · decide
  · obtain ⟨value, hvalue, -⟩ := Numeral.isDigit_spec hdigit
    have hspec := Numeral.hexDigit_spec hvalue
    exact ⟨hspec.2.1, hspec.2.2.2.2.2.2.2⟩
  · decide

theorem slash_not_mem_text (form : Form) : '/' ∉ form.text := fun h =>
  (plain_of_mem_text h).2 rfl

theorem slash_not_mem_numeral (n : Nat) : '/' ∉ Nat.toDigits 10 n := by
  intro h
  obtain ⟨value, hvalue, -⟩ :=
    Numeral.isDigit_spec (Numeral.isDigit_toDigits (by decide) (by decide) n '/' h)
  cases hvalue

theorem parseInt_numeral {n : Nat} (h : n < 2 ^ 53) :
    Numeral.parseInt 10 (Nat.toDigits 10 n) = some (n : Int) := by
  have hvalue : Numeral.digitsValue 10 (Nat.toDigits 10 n) = n :=
    Numeral.digitsValue_toDigits (by decide) (by decide) n
  rw [Numeral.parseInt_digits Nat.toDigits_ne_nil
    (Numeral.isDigit_toDigits (by decide) (by decide) n) (by rw [hvalue]; exact h), hvalue]

theorem parseRange_cidr (hquad : form.quad = none) {len : Nat} (hlen : len ≤ 128) :
    parseRange (form.cidr len) =
      some ⟨(form.toPrefix len hlen).start,
        (form.toPrefix len hlen).start + (form.toPrefix len hlen).size - 1⟩ := by
  have hsplit : (form.cidr len).splitOn '/' = [form.text, Nat.toDigits 10 len] := by
    unfold Form.cidr
    rw [List.splitOn_append_cons_self_of_not_mem (slash_not_mem_text form),
      List.splitOn_eq_singleton (slash_not_mem_numeral len)]
  have htrim : trim form.text = form.text :=
    trim_of_no_space fun c hc => (plain_of_mem_text hc).1
  have hnumber : len < 2 ^ 53 := Nat.lt_of_le_of_lt hlen (by decide)
  have hhost : (128 : Int) - (len : Int) = ((128 - len : Nat) : Int) := by omega
  unfold parseRange
  rw [hsplit]
  simp only [parseInt_numeral hnumber, htrim, ipv6ToBigInt_text hquad, hhost,
    land_networkMask form.value_lt, Option.bind_eq_bind, Option.bind_some, Option.pure_def]
  have hsize : ((1 : Int) <<< ((128 - len : Nat) : Int)) - 1 = ((2 ^ (128 - len) - 1 : Nat) : Int) :=
    shiftLeft_one_sub (128 - len)
  have hend := lor_shiftLeft (form.value / 2 ^ (128 - len))
    (Nat.sub_lt (Nat.two_pow_pos (128 - len)) Nat.one_pos)
  rw [Int.shiftLeft_natCast, Nat.shiftLeft_eq] at hend
  rw [hsize, hend]
  have hpos := Nat.two_pow_pos (128 - len)
  simp only [Form.toPrefix, Prefix.of, Prefix.size, Option.some.injEq, Range.mk.injEq, true_and]
  omega

theorem exists_hextet {word : Nat} (h : word < 65536) :
    ∃ group : Hextet, group.digits = padStart (Nat.toDigits 16 word) ∧ group.value = word := by
  have hlength : (Nat.toDigits 16 word).length ≤ 4 :=
    (Nat.length_toDigits_le_iff (by decide) (by decide)).mpr h
  refine ⟨⟨padStart (Nat.toDigits 16 word), ?_, ?_, ?_⟩, rfl, ?_⟩
  · simp [padStart, Nat.toDigits_ne_nil]
  · simp only [padStart, List.length_append, List.length_replicate]
    omega
  · intro c hc
    rcases List.mem_append.mp hc with hc | hc
    · rw [List.eq_of_mem_replicate hc]
      decide
    · exact Numeral.isDigit_toDigits (by decide) (by decide) word c hc
  · simp only [Hextet.value, padStart, Numeral.digitsValue_zeros]
    exact Numeral.digitsValue_toDigits (by decide) (by decide) word

theorem hexGroups_spec (count n : Nat) :
    ∃ groups : List Hextet, hexGroups count n = groups.map Hextet.digits ∧
      groups.length = count ∧ Form.wordsValue (groups.map Hextet.value) = n % 65536 ^ count := by
  induction count generalizing n with
  | zero => exact ⟨[], rfl, rfl, by simp [Form.wordsValue, Nat.mod_one]⟩
  | succ count ih =>
    obtain ⟨groups, hgroups, hlength, hvalue⟩ := ih (n / 65536)
    obtain ⟨group, hdigits, hword⟩ := exists_hextet (Nat.mod_lt n (by decide : 0 < 65536))
    refine ⟨groups ++ [group], ?_, by simp [hlength], ?_⟩
    · have hshift : ((n : Nat) : Int) >>> (16 : Int) = ((n / 65536 : Nat) : Int) := by
        have hnat := Int.shiftRight_natCast n 16
        rw [Nat.shiftRight_eq_div_pow] at hnat
        exact hnat
      have hmask : (Int.land ((n : Nat) : Int) 0xffff).toNat = n % 65536 := by
        change (((n &&& 0xffff : Nat) : Int)).toNat = _
        rw [Int.toNat_natCast]
        exact Nat.and_two_pow_sub_one_eq_mod n 16
      unfold hexGroups
      rw [hshift, hgroups, hmask, List.map_append, List.map_singleton, hdigits]
    · have hconcat : Form.wordsValue ((groups ++ [group]).map Hextet.value) =
          Form.wordsValue (groups.map Hextet.value) * 65536 + group.value := by
        simp [Form.wordsValue]
      rw [hconcat, hvalue, hword, Nat.pow_succ, Nat.mul_comm (65536 ^ count) 65536,
        Nat.mod_mul, Nat.mul_comm, Nat.add_comm]

theorem bigIntToIpv6_text {n : Nat} (h : n < 2 ^ 128) :
    ∃ form : Form, form.quad = none ∧ bigIntToIpv6 n = form.text ∧ form.value = n := by
  obtain ⟨groups, hgroups, hlength, hvalue⟩ := hexGroups_spec 8 n
  refine ⟨⟨groups, none, none, by simpa using hlength⟩, rfl, ?_, ?_⟩
  · unfold bigIntToIpv6
    rw [hgroups]
    simp [Form.text, Form.groupsText]
  · have hmod : n % 65536 ^ 8 = n := Nat.mod_eq_of_lt h
    rw [← hmod, ← hvalue]
    simp [Form.value, Form.words]

/-- The text is an address, of length `len`, or a prefix with its own length. -/
def DenotesWith (len : Nat) (text : List Char) (p : Prefix) : Prop :=
  ∃ form : Form, (text = form.text ∧ ∃ hlen, p = form.toPrefix len hlen) ∨
    ∃ len', text = form.cidr len' ∧ ∃ hlen, p = form.toPrefix len' hlen

theorem denotesWith_cidr (hquad : form.quad = none) {len : Nat} (hlen : len ≤ 128) {default : Nat}
    {p : Prefix} (h : DenotesWith default (form.cidr len) p) :
    p = form.toPrefix len hlen := by
  have hslash : '/' ∈ form.cidr len := List.mem_append_right _ List.mem_cons_self
  obtain ⟨other, ⟨htext, -⟩ | ⟨len', htext, hlen', rfl⟩⟩ := h
  · rw [htext] at hslash
    exact absurd hslash (slash_not_mem_text other)
  · have hsplit := congrArg (List.splitOn '/') htext
    unfold Form.cidr at hsplit
    rw [List.splitOn_append_cons_self_of_not_mem (slash_not_mem_text form),
      List.splitOn_append_cons_self_of_not_mem (slash_not_mem_text other),
      List.splitOn_eq_singleton (slash_not_mem_numeral len),
      List.splitOn_eq_singleton (slash_not_mem_numeral len')] at hsplit
    simp only [List.cons.injEq, and_true] at hsplit
    obtain ⟨htext', hdigits⟩ := hsplit
    have hlen'' : len = len' := by
      have hnumber := congrArg (Numeral.digitsValue 10) hdigits
      rwa [Numeral.digitsValue_toDigits (by decide) (by decide),
        Numeral.digitsValue_toDigits (by decide) (by decide)] at hnumber
    have hquad' : other.quad = none := by
      by_contra hne
      have hdot := dot_mem_text hne
      rw [← htext'] at hdot
      rcases mem_text hdot with hc | hc | ⟨hc, -⟩
      · cases hc
      · cases hc
      · exact hc hquad
    have hvalue := ipv6ToBigInt_text hquad
    rw [htext', ipv6ToBigInt_text hquad'] at hvalue
    have hsame : other.value = form.value := by simpa using hvalue
    subst hlen''
    simp only [Form.toPrefix, hsame]

end FireIsp.Ipam
