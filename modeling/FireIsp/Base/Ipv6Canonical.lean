import FireIsp.Base.Ipv6

/-!
# Canonical texts of IPv6 addresses

Groups without leading zeros, and `::` for the first of the longest runs of zeros, when that is
longer than one group. An address has one such text.
-/

namespace Ipv6

/-- `n` elements from position `i` on are `a`. -/
def Run {α : Type} (a : α) (xs : List α) (i n : Nat) : Prop := ∀ k < n, xs[i + k]? = some a

/-- Digits of a number, as many as are asked for, the highest one first. -/
def bigEndian (base : Nat) : Nat → Nat → List Nat
  | 0, _ => []
  | count + 1, n => bigEndian base count (n / base) ++ [n % base]

/-- Groups joined by colons. -/
def join (words : List Nat) : List Char := [':'].intercalate (words.map (Nat.toDigits 16))

/-- Canonical text of the address with some groups. -/
inductive CanonicalText (words : List Nat) : List Char → Prop
  | plain (short : ∀ i n, Run 0 words i n → n ≤ 1) : CanonicalText words (join words)
  | compressed (i n : Nat) (long : 1 < n) (run : Run 0 words i n)
      (longest : ∀ j m, Run 0 words j m → m < n ∨ m = n ∧ i ≤ j) :
      CanonicalText words (join (words.take i) ++ [':', ':'] ++ join (words.drop (i + n)))

section Run

variable {α : Type} {a : α} {xs : List α} {i n : Nat}

theorem Run.le (h : Run a xs i n) (hn : 0 < n) : i + n ≤ xs.length := by
  have hlast := (List.getElem?_eq_some_iff.mp (h (n - 1) (by omega))).1
  omega

theorem Run.split (h : Run a xs i n) (hn : 0 < n) :
    xs = xs.take i ++ List.replicate n a ++ xs.drop (i + n) := by
  have hle := h.le hn
  have hmid : (xs.drop i).take n = List.replicate n a := by
    refine List.eq_replicate_iff.mpr ⟨by rw [List.length_take, List.length_drop]; omega, ?_⟩
    intro x hx
    obtain ⟨k, hk, rfl⟩ := List.mem_iff_getElem.mp hx
    have hkn : k < n := by
      rw [List.length_take] at hk
      omega
    have hget := h k hkn
    rw [List.getElem_take, List.getElem_drop]
    exact (List.getElem?_eq_some_iff.mp hget).2
  rw [← hmid, ← List.drop_drop, List.append_assoc, List.take_append_drop, List.take_append_drop]

theorem Run.of_takeWhile [DecidableEq α] (a : α) (xs : List α) (i : Nat) :
    Run a xs i ((xs.drop i).takeWhile (· = a)).length ∧
      ∀ j n, i ≤ j → j ≤ i + ((xs.drop i).takeWhile (· = a)).length → Run a xs j n →
        j + n ≤ i + ((xs.drop i).takeWhile (· = a)).length := by
  have hcount : ∀ xs : List α, (∀ k < (xs.takeWhile (· = a)).length, xs[k]? = some a) ∧
      xs[(xs.takeWhile (· = a)).length]? ≠ some a := by
    intro xs
    induction xs with
    | nil => exact ⟨fun k hk => absurd hk (Nat.not_lt_zero k), by simp⟩
    | cons x xs ih =>
      by_cases hx : x = a
      · rw [List.takeWhile_cons_of_pos (by simp [hx]), List.length_cons]
        refine ⟨fun k hk => ?_, ih.2⟩
        cases k with
        | zero => rw [hx]; rfl
        | succ k => exact ih.1 k (by omega)
      · rw [List.takeWhile_cons_of_neg (by simp [hx])]
        exact ⟨fun k hk => absurd hk (Nat.not_lt_zero k), by simp [hx]⟩
  obtain ⟨hin, hend⟩ := hcount (xs.drop i)
  refine ⟨fun k hk => List.getElem?_drop ▸ hin k hk, ?_⟩
  intro j n hij hj hrun
  by_contra hpast
  have hget := hrun (i + ((xs.drop i).takeWhile (· = a)).length - j) (by omega)
  rw [Nat.add_sub_cancel' hj, ← List.getElem?_drop] at hget
  exact hend hget

end Run

section BigEndian

variable (base : Nat)

@[simp] theorem length_bigEndian (count n : Nat) : (bigEndian base count n).length = count := by
  induction count generalizing n with
  | zero => rfl
  | succ count ih => rw [bigEndian, List.length_append, ih, List.length_singleton]

variable {base}

theorem lt_of_mem_bigEndian (hbase : 0 < base) {count n digit : Nat}
    (h : digit ∈ bigEndian base count n) : digit < base := by
  induction count generalizing n with
  | zero => cases h
  | succ count ih =>
    rcases List.mem_append.mp h with h | h
    · exact ih h
    · rw [List.mem_singleton.mp h]
      exact Nat.mod_lt n hbase

theorem bigEndian_mul_pow (hbase : 0 < base) (count m n : Nat) :
    bigEndian base (count + m) (n * base ^ m) = bigEndian base count n ++ List.replicate m 0 := by
  induction m with
  | zero => simp
  | succ m ih =>
    rw [← Nat.add_assoc, bigEndian, Nat.pow_succ, ← Nat.mul_assoc, Nat.mul_div_cancel _ hbase,
      Nat.mul_mod_left, ih, List.replicate_succ', List.append_assoc]

end BigEndian

namespace Form

theorem wordsValue_bigEndian (count : Nat) {n : Nat} (h : n < 65536 ^ count) :
    wordsValue (bigEndian 65536 count n) = n := by
  induction count generalizing n with
  | zero => exact (Nat.lt_one_iff.mp h).symm
  | succ count ih =>
    have hhigh := ih (n := n / 65536) (by rw [Nat.pow_succ] at h; omega)
    unfold wordsValue at hhigh ⊢
    rw [bigEndian, List.foldl_append, hhigh]
    exact Nat.div_add_mod' n 65536

end Form

namespace CanonicalText

variable {words : List Nat}

theorem unique {s t : List Char} (hs : CanonicalText words s) (ht : CanonicalText words t) :
    s = t := by
  cases hs with
  | plain short =>
    cases ht with
    | plain => rfl
    | compressed i n long run => exact absurd (short i n run) (by omega)
  | compressed i n long run longest =>
    cases ht with
    | plain short => exact absurd (short i n run) (by omega)
    | compressed j m long' run' longest' =>
      have hfirst := longest j m run'
      have hsecond := longest' i n run
      obtain ⟨rfl, rfl⟩ : i = j ∧ n = m := by omega
      rfl

/-- A group without leading zeros. -/
def hextet (word : Nat) (h : word < 65536) : Hextet where
  digits := Nat.toDigits 16 word
  nonempty := Nat.toDigits_ne_nil
  short := (Nat.length_toDigits_le_iff (by decide) (by decide)).mpr h
  hex := Numeral.isDigit_toDigits (by decide) (by decide) word

theorem exists_hextets {words : List Nat} (h : ∀ word ∈ words, word < 65536) :
    ∃ groups : List Hextet, groups.map Hextet.digits = words.map (Nat.toDigits 16) ∧
      groups.map Hextet.value = words := by
  induction words with
  | nil => exact ⟨[], rfl, rfl⟩
  | cons word words ih =>
    obtain ⟨groups, hdigits, hvalues⟩ := ih fun w hw => h w (List.mem_cons_of_mem word hw)
    have hvalue : (hextet word (h word List.mem_cons_self)).value = word :=
      Numeral.digitsValue_toDigits (by decide) (by decide) word
    refine ⟨hextet word (h word List.mem_cons_self) :: groups, ?_, ?_⟩
    · rw [List.map_cons, List.map_cons, hdigits]
      rfl
    · rw [List.map_cons, hvalue, hvalues]

theorem exists_form {text : List Char} (h : CanonicalText words text)
    (hlength : words.length = 8) (hlt : ∀ word ∈ words, word < 65536) :
    ∃ form : Form, form.quad = none ∧ form.text = text ∧ form.words = words := by
  cases h with
  | plain =>
    obtain ⟨groups, hdigits, hvalues⟩ := exists_hextets hlt
    have hsize : groups.length = 8 := by rw [← hlength, ← hvalues, List.length_map]
    refine ⟨⟨groups, none, none, hsize⟩, rfl, ?_, ?_⟩
    · simp [Form.text, Form.groupsText, join, hdigits]
    · simp [Form.words, hvalues]
  | compressed i n long run =>
    obtain ⟨left, hleft, hleft'⟩ := @exists_hextets (words.take i) fun word hword =>
      hlt word (List.mem_of_mem_take hword)
    obtain ⟨right, hright, hright'⟩ := @exists_hextets (words.drop (i + n)) fun word hword =>
      hlt word (List.mem_of_mem_drop hword)
    have hle := run.le (by omega)
    rw [hlength] at hle
    have hsizes : left.length = i ∧ right.length = 8 - (i + n) := by
      have hl := congrArg List.length hleft'
      have hr := congrArg List.length hright'
      rw [List.length_map] at hl hr
      rw [List.length_take] at hl
      rw [List.length_drop] at hr
      omega
    have hsize : left.length + right.length + 2 * (none : Option Quad).toList.length ≤ 7 := by
      change left.length + right.length + 0 ≤ 7
      omega
    refine ⟨⟨left, some right, none, hsize⟩, rfl, ?_, ?_⟩
    · simp [Form.text, Form.groupsText, join, hleft, hright]
    · have hrun : 8 - left.length - right.length = n := by omega
      have hsplit := run.split (by omega)
      simp only [Form.words, hleft', hright', Option.toList_none, List.flatMap_nil,
        List.length_nil, Nat.sub_zero, List.append_nil, hrun]
      exact hsplit.symm

end CanonicalText

end Ipv6
