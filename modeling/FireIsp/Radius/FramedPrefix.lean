import FireIsp.Base.Ipv6Canonical
import FireIsp.Ipam.AddressText
import FireIsp.Radius.Codec
import FireIsp.Radius.Observe

/-!
# Delegated prefixes

`getIpv6Prefix`: the prefix in an attribute of a packet, and the text that is stored for it.
-/

namespace FireIsp.Radius

open Ipv6

def framedIpv6Prefix : UInt8 := 97

def getAttr (attributes : List Attribute) (type : UInt8) : Option (List UInt8) :=
  (attributes.find? fun x => x.type == type).map Attribute.value

def addressGroups : List UInt8 → List (List Char)
  | high :: low :: rest =>
    Nat.toDigits 16 (Bytes.readUInt16 [high, low]) :: addressGroups rest
  | _ => []

/-- The loop over the groups: `bestStart` and `bestLength`. -/
def bestRun (groups : List (List Char)) : Nat → Nat → Int × Nat → Int × Nat
  | 0, _, best => best
  | fuel + 1, start, best =>
    if start < groups.length then
      if groups[start]? ≠ some ['0'] then bestRun groups fuel (start + 1) best
      else
        let length := ((groups.drop start).takeWhile (· = ['0'])).length
        bestRun groups fuel (start + length) (if best.2 < length then (start, length) else best)
    else best

def formatted (groups : List (List Char)) : List Char :=
  let best := bestRun groups groups.length 0 (-1, 0)
  if 1 < best.2 then
    [':'].intercalate (groups.take best.1.toNat) ++ [':', ':'] ++
      [':'].intercalate (groups.drop (best.1.toNat + best.2))
  else [':'].intercalate groups

def getIpv6Prefix (attributes : List Attribute) (type : UInt8) : Except String (Option String) :=
  match getAttr attributes type with
  | none => .ok none
  | some (reserved :: length :: bits) =>
    let prefixLength := length.toNat
    let remainingBits := prefixLength % 8
    if reserved ≠ 0 then .error "Malformed Framed-IPv6-Prefix reserved byte"
    else if 128 < prefixLength ∨ bits.length ≠ (prefixLength + 7) / 8 then
      .error "Malformed Framed-IPv6-Prefix length"
    else if remainingBits ≠ 0 ∧ bits ≠ [] ∧
        (bits.getLastD 0).toNat &&& (2 ^ (8 - remainingBits) - 1) ≠ 0 then
      .error "Malformed Framed-IPv6-Prefix host bits"
    else
      let address := Bytes.copy (bits.take 16) (List.replicate 16 0) 0
      .ok (some (String.ofList (formatted (addressGroups address)) ++ "/" ++
        toString prefixLength))
  | some _ => .error "Malformed Framed-IPv6-Prefix attribute"

def prefixAttribute (p : Prefix) (bytes : Nat) : List UInt8 :=
  0 :: UInt8.ofNat p.len :: ((bigEndian 256 16 p.start).take bytes).map UInt8.ofNat

/-- The eight groups of an address. -/
abbrev addressWords (address : Nat) : List Nat := bigEndian 65536 8 address

section Format

variable {groups : List (List Char)} {start : Nat} {best : Int × Nat}

/-- The best run among those that begin before some position. -/
structure Scanned (groups : List (List Char)) (start : Nat) (best : Int × Nat) : Prop where
  run : Run ['0'] groups best.1.toNat best.2
  before : best.1.toNat ≤ start
  longest : ∀ j n, 0 < n → j < start → Run ['0'] groups j n →
    n < best.2 ∨ n = best.2 ∧ best.1.toNat ≤ j

theorem Scanned.skip (h : Scanned groups start best) (hgroup : groups[start]? ≠ some ['0']) :
    Scanned groups (start + 1) best := by
  refine ⟨h.run, Nat.le_succ_of_le h.before, ?_⟩
  intro j n hn hj hrun
  by_cases hstart : j = start
  · rw [hstart] at hrun
    exact absurd (hrun 0 hn) hgroup
  · exact h.longest j n hn (by omega) hrun

theorem Scanned.over (h : Scanned groups start best) {length : Nat}
    (hlength : length = ((groups.drop start).takeWhile (· = ['0'])).length) :
    Scanned groups (start + length) (if best.2 < length then ((start : Int), length) else best) := by
  have hrun := Run.of_takeWhile ['0'] groups start
  rw [← hlength] at hrun
  have hbefore := h.before
  refine ⟨?_, ?_, ?_⟩
  · split_ifs
    · exact hrun.1
    · exact h.run
  · split_ifs
    · exact Nat.le_add_right start length
    · exact Nat.le_trans hbefore (Nat.le_add_right start length)
  · intro j n hn hj hrun'
    have hearly : j < start → n < best.2 ∨ n = best.2 ∧ best.1.toNat ≤ j := fun hlt =>
      h.longest j n hn hlt hrun'
    have hlate : start ≤ j → j + n ≤ start + length := fun hle =>
      hrun.2 j n hle (Nat.le_of_lt hj) hrun'
    split_ifs with hlonger
    · simp only [Int.toNat_natCast]
      omega
    · omega

theorem bestRun_spec {fuel : Nat} (h : Scanned groups start best)
    (hfuel : groups.length ≤ start + fuel) :
    ∃ stop, groups.length ≤ stop ∧ Scanned groups stop (bestRun groups fuel start best) := by
  induction fuel generalizing start best with
  | zero => exact ⟨start, hfuel, h⟩
  | succ fuel ih =>
    unfold bestRun
    split_ifs with hlt hgroup
    · exact ih (h.skip hgroup) (by omega)
    · refine ih (h.over rfl) ?_
      have hzero := not_not.mp hgroup
      have hone : 0 < ((groups.drop start).takeWhile (· = ['0'])).length := by
        rw [List.drop_eq_getElem_cons hlt, List.takeWhile_cons_of_pos]
        · exact Nat.succ_pos _
        · exact decide_eq_true (List.getElem?_eq_some_iff.mp hzero).2
      omega
    · exact ⟨start, by omega, h⟩

end Format

theorem run_toDigits {words : List Nat} {i n : Nat} :
    Run ['0'] (words.map (Nat.toDigits 16)) i n ↔ Run 0 words i n := by
  have hdigits : ∀ word, Nat.toDigits 16 word = ['0'] ↔ word = 0 := by
    intro word
    constructor
    · intro h
      have hvalue := Numeral.digitsValue_toDigits (by decide) (by decide : 16 ≤ 16) word
      rw [h] at hvalue
      exact hvalue.symm
    · rintro rfl
      rfl
  simp only [Run, List.getElem?_map, Option.map_eq_some_iff, hdigits, exists_eq_right]

theorem canonicalText_formatted (words : List Nat) :
    CanonicalText words (formatted (words.map (Nat.toDigits 16))) := by
  have hstart : Scanned (words.map (Nat.toDigits 16)) 0 (-1, 0) :=
    ⟨fun k hk => absurd hk (Nat.not_lt_zero k), Nat.le_refl 0,
      fun j n _ hj => absurd hj (Nat.not_lt_zero j)⟩
  obtain ⟨stop, hstop, hbest⟩ := bestRun_spec hstart (Nat.le_of_eq (Nat.zero_add _).symm)
  unfold formatted
  generalize bestRun (words.map (Nat.toDigits 16)) _ 0 (-1, 0) = best at hbest ⊢
  have hlongest : ∀ j n, 0 < n → Run 0 words j n →
      n < best.2 ∨ n = best.2 ∧ best.1.toNat ≤ j := by
    intro j n hn hrun
    have hle := hrun.le hn
    rw [List.length_map] at hstop
    exact hbest.longest j n hn (by omega) (run_toDigits.mpr hrun)
  change CanonicalText words (if 1 < best.2 then _ else _)
  split_ifs with hlong
  · rw [← List.map_take, ← List.map_drop]
    refine .compressed _ _ hlong (run_toDigits.mp hbest.run) ?_
    intro j m hrun
    by_cases hm : 0 < m
    · exact hlongest j m hm hrun
    · omega
  · refine .plain ?_
    intro i n hrun
    by_cases hn : 0 < n
    · have hbound := hlongest i n hn hrun
      omega
    · omega

theorem addressGroups_bigEndian (count n : Nat) :
    addressGroups ((bigEndian 256 (2 * count) n).map UInt8.ofNat) =
      (bigEndian 65536 count n).map (Nat.toDigits 16) := by
  have happend : ∀ (count : Nat) (bytes : List UInt8) (high low : UInt8),
      bytes.length = 2 * count → addressGroups (bytes ++ [high, low]) =
        addressGroups bytes ++ [Nat.toDigits 16 (Bytes.readUInt16 [high, low])] := by
    intro count
    induction count with
    | zero =>
      intro bytes high low hlength
      rw [List.eq_nil_of_length_eq_zero hlength]
      rfl
    | succ count ih =>
      intro bytes high low hlength
      match bytes, hlength with
      | first :: second :: rest, hlength =>
        have hrest := ih rest high low (by simp only [List.length_cons] at hlength; omega)
        simp only [List.cons_append, addressGroups, hrest]
  induction count generalizing n with
  | zero => rfl
  | succ count ih =>
    have hbytes : bigEndian 256 (2 * (count + 1)) n =
        bigEndian 256 (2 * count) (n / 65536) ++ [n / 256 % 256, n % 256] := by
      rw [Nat.mul_succ, bigEndian, bigEndian, Nat.div_div_eq_div_mul, List.append_assoc]
      rfl
    have hword : Bytes.readUInt16 [UInt8.ofNat (n / 256 % 256), UInt8.ofNat (n % 256)] =
        n % 65536 := by
      simp only [Bytes.readUInt16, UInt8.toNat_ofNat']
      omega
    rw [hbytes, List.map_append, List.map_cons, List.map_singleton,
      happend count _ _ _ (by rw [List.length_map, length_bigEndian]), ih, hword, bigEndian,
      List.map_append, List.map_singleton]

theorem bytes_exact (p : Prefix) {count : Nat} (hcount : count = (p.len + 7) / 8) :
    ∃ n, (bigEndian 256 16 p.start).take count = bigEndian 256 count n ∧
      bigEndian 256 16 p.start = bigEndian 256 count n ++ List.replicate (16 - count) 0 ∧
      (p.len % 8 ≠ 0 → n % 256 % 2 ^ (8 - p.len % 8) = 0) := by
  have hlen := p.len_le
  have hrest : 128 - p.len = (count * 8 - p.len) + 8 * (16 - count) := by omega
  obtain ⟨q, hq⟩ := p.aligned
  have hstart : p.start = q * 2 ^ (count * 8 - p.len) * 256 ^ (16 - count) := by
    rw [hq, hrest, Nat.pow_add, Nat.pow_mul]
    ring
  have hbytes : bigEndian 256 16 p.start =
      bigEndian 256 count (q * 2 ^ (count * 8 - p.len)) ++ List.replicate (16 - count) 0 := by
    have h := @bigEndian_mul_pow 256 (by decide) count (16 - count)
      (q * 2 ^ (count * 8 - p.len))
    rwa [Nat.add_sub_cancel' (by omega), ← hstart] at h
  refine ⟨q * 2 ^ (count * 8 - p.len), ?_, hbytes, fun hbits => ?_⟩
  · rw [hbytes, List.take_left' (length_bigEndian 256 count _)]
  · have hexp : 8 - p.len % 8 = count * 8 - p.len := by omega
    rw [hexp, Nat.mod_mod_of_dvd]
    · exact Nat.mul_mod_left _ _
    · exact Nat.pow_dvd_pow 2 (by omega : count * 8 - p.len ≤ 8)

theorem toNat_ofNat_len (p : Prefix) : (UInt8.ofNat p.len).toNat = p.len := by
  have hlen := p.len_le
  rw [UInt8.toNat_ofNat']
  omega

theorem getIpv6Prefix_prefixAttribute (p : Prefix) {attributes : List Attribute} {type : UInt8}
    {count : Nat} (hlow : (p.len + 7) / 8 ≤ count) (hhigh : count ≤ 16)
    (h : getAttr attributes type = some (prefixAttribute p count)) :
    getIpv6Prefix attributes type =
      if count = (p.len + 7) / 8 then
        .ok (some (String.ofList (formatted ((addressWords p.start).map (Nat.toDigits 16))) ++ "/" ++
          toString p.len))
      else .error "Malformed Framed-IPv6-Prefix length" := by
  have hlen := p.len_le
  have hlength : (((bigEndian 256 16 p.start).take count).map UInt8.ofNat).length = count := by
    rw [List.length_map, List.length_take, length_bigEndian]
    omega
  unfold getIpv6Prefix
  rw [h]
  simp only [prefixAttribute, toNat_ofNat_len, hlength, ne_eq, not_true_eq_false, if_false]
  by_cases hexact : count = (p.len + 7) / 8
  · obtain ⟨n, htake, hbytes, hbits⟩ := bytes_exact p hexact
    have hmask : ¬(¬p.len % 8 = 0 ∧
        ¬((bigEndian 256 16 p.start).take count).map UInt8.ofNat = [] ∧
        ¬((((bigEndian 256 16 p.start).take count).map UInt8.ofNat).getLastD 0).toNat &&&
          (2 ^ (8 - p.len % 8) - 1) = 0) := by
      rintro ⟨hremaining, -, hlast⟩
      obtain ⟨bytes, rfl⟩ := Nat.exists_eq_succ_of_ne_zero (show count ≠ 0 by omega)
      rw [htake, bigEndian, List.map_append, List.map_singleton, List.getLastD_concat,
        UInt8.toNat_ofNat', Nat.and_two_pow_sub_one_eq_mod] at hlast
      have hzero := hbits hremaining
      rw [Nat.mod_mod] at hlast
      exact hlast hzero
    have hcopy : Bytes.copy ((((bigEndian 256 16 p.start).take count).map UInt8.ofNat).take 16)
        (List.replicate 16 0) 0 = (bigEndian 256 (2 * 8) p.start).map UInt8.ofNat := by
      rw [List.take_of_length_le (hlength.trans_le hhigh), htake, hbytes, List.map_append,
        List.map_replicate]
      have hsource : ((bigEndian 256 count n).map UInt8.ofNat).length = count := by
        rw [List.length_map, length_bigEndian]
      rw [Bytes.copy, List.take_zero, List.nil_append, List.length_replicate, hsource,
        List.take_of_length_le (hsource.trans_le hhigh), List.drop_replicate, Nat.zero_add]
      rfl
    rw [if_neg (by omega), if_neg hmask, if_pos hexact, hcopy, addressGroups_bigEndian]
  · rw [if_pos (Or.inr hexact), if_neg hexact]

theorem canonicalIpv6Prefix_text (env : Env) (form : Form) {len : Nat} (hlen : len ≤ 128) :
    env.canonicalIpv6Prefix (String.ofList form.text ++ "/" ++ toString len) =
      (env.canonicalIpv6 (String.ofList form.text)).map fun host => host ++ "/" ++ toString len := by
  have hdigits : ∀ len < 129, (Nat.toDigits 10 len).all Char.isDigit = true ∧
      (Nat.toDigits 10 len).length ≤ 3 ∧ Text.digitsValue (Nat.toDigits 10 len) = len := by
    decide
  have htext : (String.ofList form.text ++ "/" ++ toString len : String) =
      String.ofList (form.text ++ '/' :: Nat.toDigits 10 len) := by
    have hdecimal : (toString len).toList = Nat.toDigits 10 len := String.toList_ofList
    rw [← String.toList_inj, String.toList_append, String.toList_append, String.toList_ofList,
      String.toList_ofList, String.toList_ofList, hdecimal, List.append_assoc]
    rfl
  have hspace : ∀ c ∈ form.text ++ '/' :: Nat.toDigits 10 len, Text.isSpace c = false := by
    intro c hc
    rcases List.mem_append.mp hc with hc | hc
    · exact (Ipam.plain_of_mem_text hc).1
    · rcases List.mem_cons.mp hc with rfl | hc
      · decide
      · obtain ⟨value, hvalue, -⟩ :=
          Numeral.isDigit_spec (Numeral.isDigit_toDigits (by decide) (by decide) len c hc)
        exact (Numeral.hexDigit_spec hvalue).2.1
  have htrimmed : Text.trimmed (String.ofList (form.text ++ '/' :: Nat.toDigits 10 len)) =
      form.text ++ '/' :: Nat.toDigits 10 len :=
    Text.trimmed_of_ends (fun c hc => hspace c (List.mem_of_mem_head? hc))
      fun c hc => hspace c (List.mem_of_getLast? hc)
  have hplain : ∀ c ∈ (Nat.toDigits 10 len).reverse, decide (c ≠ '/') = true := by
    intro c hc
    refine decide_eq_true fun hslash => ?_
    rw [hslash] at hc
    exact Ipam.slash_not_mem_numeral len (List.mem_reverse.mp hc)
  obtain ⟨hall, hshort, hvalue⟩ := hdigits len (by omega)
  have hnumeral : Text.isDigits (Nat.toDigits 10 len) = true := by
    simp [Text.isDigits, hall, Nat.toDigits_ne_nil]
  have hreverse : (form.text ++ '/' :: Nat.toDigits 10 len).reverse =
      (Nat.toDigits 10 len).reverse ++ '/' :: form.text.reverse := by
    rw [List.reverse_append, List.reverse_cons, List.append_assoc]
    rfl
  unfold Env.canonicalIpv6Prefix
  rw [htext, htrimmed, hreverse]
  simp only [List.takeWhile_append_of_pos hplain, List.dropWhile_append_of_pos hplain]
  simp [hnumeral, hshort, hvalue, hlen]

/-- A fitting attribute becomes the canonical text of its prefix; a longer one is malformed. -/
theorem getIpv6Prefix_spec (env : Env)
    (hisIP : ∀ form : Form, form.quad = none → env.isIP (String.ofList form.text) = 6)
    (hurlHost : ∀ form : Form, form.quad = none →
      ∃ text, CanonicalText (addressWords form.value) text ∧
        env.urlHost (String.ofList form.text) = some (String.ofList text))
    (p : Prefix) :
    ∃ address, (∀ text, CanonicalText (addressWords p.start) text ↔ text = address) ∧
      let text := String.ofList address ++ "/" ++ toString p.len
      env.canonicalIpv6Prefix text = some text ∧
        ∀ (attributes : List Attribute) (type : UInt8) (count : Nat),
          (p.len + 7) / 8 ≤ count → count ≤ 16 →
            getAttr attributes type = some (prefixAttribute p count) →
              getIpv6Prefix attributes type = if count = (p.len + 7) / 8 then .ok (some text)
                else .error "Malformed Framed-IPv6-Prefix length" := by
  have hcanonical := canonicalText_formatted (addressWords p.start)
  refine ⟨_, fun text => ⟨fun h => h.unique hcanonical, fun h => h ▸ hcanonical⟩, ?_,
    fun attributes type count hlow hhigh h => getIpv6Prefix_prefixAttribute p hlow hhigh h⟩
  obtain ⟨form, hquad, htext, hwords⟩ := hcanonical.exists_form (length_bigEndian 65536 8 p.start)
    fun word hword => lt_of_mem_bigEndian (by decide) hword
  have hvalue : form.value = p.start := by
    rw [Form.value, hwords]
    exact Form.wordsValue_bigEndian 8 p.start_lt
  obtain ⟨host, hhost, hurl⟩ := hurlHost form hquad
  rw [hvalue] at hhost
  rw [← htext, canonicalIpv6Prefix_text env form p.len_le, Env.canonicalIpv6,
    if_pos (hisIP form hquad), hurl, hhost.unique hcanonical, ← htext]
  rfl

/-- A runtime that reads addresses with the code of the pools. -/
def poolRuntime : Env where
  isIP value := if (Ipam.ipv6ToBigInt value.toList).isSome then 6 else 0
  urlHost value := (Ipam.ipv6ToBigInt value.toList).map fun address =>
    String.ofList (formatted ((addressWords address.toNat).map (Nat.toDigits 16)))
  collate := id
  tieOrder := id
  maxClockSkewSeconds := 0
  sessionLivenessMinutes := 0

/-- 2001:db8::/32 -/
def documentation : Prefix := .of (0x20010db8 * 2 ^ 96) 32 (by decide) (by decide)

theorem getIpv6Prefix_spec_documentation :
    ∃ address, (∀ text, CanonicalText (addressWords documentation.start) text ↔ text = address) ∧
      let text := String.ofList address ++ "/" ++ toString documentation.len
      poolRuntime.canonicalIpv6Prefix text = some text ∧
        ∀ (attributes : List Attribute) (type : UInt8) (count : Nat), 4 ≤ count → count ≤ 16 →
          getAttr attributes type = some (prefixAttribute documentation count) →
            getIpv6Prefix attributes type = if count = 4 then .ok (some text)
              else .error "Malformed Framed-IPv6-Prefix length" := by
  refine getIpv6Prefix_spec poolRuntime (fun form hquad => ?_) (fun form hquad => ?_) documentation
  · simp only [poolRuntime, String.toList_ofList, Ipam.ipv6ToBigInt_text hquad, Option.isSome_some,
      if_true]
  · refine ⟨_, canonicalText_formatted (addressWords form.value), ?_⟩
    simp only [poolRuntime, String.toList_ofList, Ipam.ipv6ToBigInt_text hquad, Option.map_some,
      Int.toNat_natCast]

theorem not_accepted_documentation :
    ¬∀ (p : Prefix) (count : Nat), (p.len + 7) / 8 ≤ count → count ≤ 16 →
      ∃ text, getIpv6Prefix [⟨framedIpv6Prefix, prefixAttribute p count⟩] framedIpv6Prefix =
        .ok (some text) := by
  intro h
  obtain ⟨text, htext⟩ := h documentation 16 (by decide) (by decide)
  have herror : getIpv6Prefix [⟨framedIpv6Prefix, prefixAttribute documentation 16⟩]
      framedIpv6Prefix = .error "Malformed Framed-IPv6-Prefix length" := by decide
  rw [herror] at htext
  cases htext

end FireIsp.Radius
