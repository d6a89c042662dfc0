import FireIsp.Base.Table
import FireIsp.Base.Text

/-!
# Region tax rules

The region rule for the postal code of a client: `normalizePostalCode` reads the code from free text,
`postalSpecMatch` finds the width of the narrowest entry of a rule that matches it, and
`resolveRegionRate` takes the narrowest rule. Texts are lists of characters.
-/

namespace FireIsp.Tax

/-- `/\d/`. -/
def isDigit (c : Char) : Bool := Numeral.isDigit 10 c

/-- `str.match(/\d{5}/g)`. -/
def fiveDigits : List Char → List (List Char)
  | a :: b :: c :: d :: e :: rest =>
    if [a, b, c, d, e].all isDigit then [a, b, c, d, e] :: fiveDigits rest
    else fiveDigits (b :: c :: d :: e :: rest)
  | _ => []

/-- `/^\s*\d{5}\s*-\s*\d{4}\s*$/`. -/
def isZipPlusFour (str : List Char) : Bool :=
  let code := str.dropWhile Text.isSpace
  let dash := (code.drop 5).dropWhile Text.isSpace
  let four := dash.tail.dropWhile Text.isSpace
  decide ((code.take 5).length = 5 ∧ (four.take 4).length = 4 ∧ dash.head? = some '-') &&
    (code.take 5).all isDigit && (four.take 4).all isDigit && (four.drop 4).all Text.isSpace

/-- `text.trim()`. -/
def trim (text : List Char) : List Char :=
  ((text.dropWhile Text.isSpace).reverse.dropWhile Text.isSpace).reverse

/-- `normalizePostalCode`; `upper` is `toUpperCase` of a character. -/
def normalizePostalCode (upper : Char → List Char) (raw : List Char) : Option (List Char) :=
  let str := (trim raw).flatMap upper
  match fiveDigits str with
  | five :: others => if !others.isEmpty && !isZipPlusFour str then none else some five
  | [] =>
    let cleaned := str.filter fun c => isDigit c || c.isUpper
    if cleaned.length < 3 ∨ 10 < cleaned.length then none
    else if cleaned.any isDigit then some cleaned else none

/-- Comparison of texts. -/
def textLe : List Char → List Char → Bool
  | [], _ => true
  | _ :: _, [] => false
  | a :: as, b :: bs => decide (a.toNat < b.toNat) || decide (a = b) && textLe as bs

/-- An entry of `postal_codes`. -/
inductive Entry
  | range (a b : List Char) (digits : (a ++ b).all isDigit = true)
  | starts (start : List Char)
  | exact (code : List Char)
  deriving DecidableEq

def readEntry (upper : Char → List Char) (partRaw : List Char) : Option Entry :=
  let part := ((trim partRaw).flatMap upper).filter fun c => !Text.isSpace c
  let plain := if part.getLast? = some '*' then .starts part.dropLast else .exact part
  if part.isEmpty then none
  else
    match part.splitOn '-' with
    | [a, b] =>
      if h : a ≠ [] ∧ b ≠ [] ∧ (a ++ b).all isDigit = true then some (.range a b h.2.2)
      else some plain
    | _ => some plain

/-- `Number(text)` of a text of digits. -/
def value (digits : List Char) : Nat := Numeral.digitsValue 10 digits

def Entry.width (entry : Entry) (cp : List Char) : Option Nat :=
  match entry with
  | .range a b _ =>
    if a.length = b.length ∧ cp.length = a.length ∧ cp.all isDigit then
      let (lo, hi) := if value a ≤ value b then (a, b) else (b, a)
      if textLe lo cp && textLe cp hi then some (value hi - value lo + 1) else none
    else none
  | .starts start =>
    if start ≠ [] ∧ start <+: cp then some (10 ^ max 1 (10 - start.length)) else none
  | .exact code => if code = cp then some 1 else none

/-- `consider(width)`. -/
def consider (best : Option Nat) (width : Nat) : Option Nat :=
  if best.all fun least => decide (width < least) then some width else best

def entries (upper : Char → List Char) (spec : List Char) : List Entry :=
  (spec.splitOn ',').filterMap (readEntry upper)

def postalSpecMatch (upper : Char → List Char) (spec cp : List Char) : Option Nat :=
  if cp.isEmpty then none
  else (entries upper spec).foldl (fun best entry => (entry.width cp).elim best (consider best)) none

/-- Row of `tax_rules`. -/
structure Rule where
  id : Nat
  organizationId : Nat
  rate : Int
  postalCodes : Option (List Char)
  active : Bool
  deleted : Bool

/-- `winner`. -/
structure Winner where
  id : Nat
  rate : Int
  width : Nat
  deriving DecidableEq

def Rule.isRegion (rule : Rule) (orgId : Nat) : Bool :=
  decide (rule.organizationId = orgId) && rule.active && !rule.deleted && rule.postalCodes.isSome

def Rule.width (upper : Char → List Char) (rule : Rule) (cp : List Char) : Option Nat :=
  rule.postalCodes.bind fun spec => postalSpecMatch upper spec cp

/-- One turn of the loop over the rules. -/
def challenge (upper : Char → List Char) (cp : List Char) (winner : Option Winner) (rule : Rule) :
    Option Winner :=
  (rule.width upper cp).elim winner fun width =>
    if winner.all fun best => decide (width < best.width) then some ⟨rule.id, rule.rate, width⟩
    else winner

/-- `SELECT … ORDER BY id`. -/
def regionRules (rules : List Rule) (orgId : Nat) : List Rule :=
  (rules.filter (·.isRegion orgId)).mergeSort fun a b => decide (a.id ≤ b.id)

def resolveRegionRate (upper : Char → List Char) (rules : List Rule) (orgId : Nat)
    (rawZip : List Char) : Option Winner := do
  let cp ← normalizePostalCode upper rawZip
  (regionRules rules orgId).foldl (challenge upper cp) none

/-- What `normalizePostalCode` returns. -/
def IsCode (cp : List Char) : Prop :=
  3 ≤ cp.length ∧ cp.length ≤ 10 ∧ (cp.all fun c => isDigit c || c.isUpper) ∧ cp.any isDigit

instance : DecidablePred IsCode := fun _ => inferInstanceAs (Decidable (_ ∧ _ ∧ _ ∧ _))

variable {cp : List Char}

theorem IsCode.of_digits (hleast : 3 ≤ cp.length) (hmost : cp.length ≤ 10)
    (hdigits : cp.all isDigit) : IsCode cp := by
  refine ⟨hleast, hmost, ?_, ?_⟩
  · exact List.all_eq_true.mpr fun c hc => by rw [List.all_eq_true.mp hdigits c hc, Bool.true_or]
  · cases cp with
    | nil => cases hleast
    | cons c cp =>
      rw [List.all_cons, Bool.and_eq_true] at hdigits
      rw [List.any_cons, hdigits.1, Bool.true_or]

variable {upper : Char → List Char}

theorem isCode_of_normalize {raw : List Char} (h : normalizePostalCode upper raw = some cp) :
    IsCode cp := by
  have hfive : ∀ str, ∀ five ∈ fiveDigits str, five.length = 5 ∧ five.all isDigit := by
    intro str
    induction str using fiveDigits.induct with
    | case1 a b c d e rest hall ih =>
      rw [fiveDigits, if_pos hall]
      exact List.forall_mem_cons.mpr ⟨⟨rfl, hall⟩, ih⟩
    | case2 a b c d e rest hall ih =>
      rw [fiveDigits, if_neg hall]
      exact ih
    | case3 str hshort =>
      intro five hmem
      rw [fiveDigits.eq_2 str hshort] at hmem
      cases hmem
  unfold normalizePostalCode at h
  simp only at h
  split at h
  · rename_i five others hmatch
    obtain ⟨hlength, hdigits⟩ := hfive _ five (hmatch ▸ List.mem_cons_self)
    split_ifs at h
    cases h
    exact .of_digits (by omega) (by omega) hdigits
  · split_ifs at h with hlength hdigit
    cases h
    refine ⟨by omega, by omega, ?_, hdigit⟩
    exact List.all_eq_true.mpr fun c hc => (List.mem_filter.mp hc).2

theorem value_cons {c : Char} {digits : List Char} (h : isDigit c = true) :
    ∃ d < 10, c.toNat = d + 48 ∧ value (c :: digits) = d * 10 ^ digits.length + value digits := by
  obtain ⟨d, hd, hlt⟩ := Numeral.isDigit_spec h
  refine ⟨d, hlt, ?_, ?_⟩
  · unfold Numeral.hexDigit at hd
    split_ifs at hd <;> cases hd <;> omega
  · have hvalue := Numeral.digitsValue_append 10 [c] digits
    simpa [Numeral.digitsValue, value, hd] using hvalue

theorem textLe_iff {as bs : List Char} (ha : as.all isDigit) (hb : bs.all isDigit)
    (hlength : as.length = bs.length) : textLe as bs = true ↔ value as ≤ value bs := by
  induction as generalizing bs with
  | nil =>
    cases bs with
    | nil => simp [textLe]
    | cons b bs => cases hlength
  | cons a as ih =>
    cases bs with
    | nil => cases hlength
    | cons b bs =>
      rw [List.all_cons, Bool.and_eq_true] at ha hb
      obtain ⟨d, -, hchar, hvalue⟩ := @value_cons a as ha.1
      obtain ⟨d', -, hchar', hvalue'⟩ := @value_cons b bs hb.1
      have hsame : as.length = bs.length := Nat.succ.inj hlength
      have hlt : value as < 10 ^ as.length := Numeral.digitsValue_lt (List.all_eq_true.mp ha.2)
      have hlt' : value bs < 10 ^ bs.length := Numeral.digitsValue_lt (List.all_eq_true.mp hb.2)
      simp only [textLe, Bool.or_eq_true, Bool.and_eq_true, decide_eq_true_eq, ih ha.2 hb.2 hsame]
      rw [hvalue, hvalue', ← hsame] at *
      have hinj : a = b ↔ d = d' := by
        rw [← Char.toNat_inj]
        omega
      rw [hinj]
      rcases Nat.lt_trichotomy d d' with hd | rfl | hd
      · have hmul := Nat.mul_le_mul_right (10 ^ as.length) hd
        rw [Nat.succ_mul] at hmul
        omega
      · omega
      · have hmul := Nat.mul_le_mul_right (10 ^ as.length) hd
        rw [Nat.succ_mul] at hmul
        omega

theorem textLe_antisymm {as bs : List Char} (h : textLe as bs) (h' : textLe bs as) :
    as = bs := by
  induction as generalizing bs with
  | nil =>
    cases bs with
    | nil => rfl
    | cons b bs => cases h'
  | cons a as ih =>
    cases bs with
    | nil => cases h
    | cons b bs =>
      simp only [textLe, Bool.or_eq_true, Bool.and_eq_true, decide_eq_true_eq] at h h'
      rcases h with hlt | ⟨rfl, hle⟩
      · rcases h' with hgt | ⟨rfl, -⟩ <;> omega
      · rw [ih hle (h'.resolve_left (Nat.lt_irrefl _)).2]

/-- Codes of a range. -/
def span (a b : List Char) : Nat := max (value a) (value b) - min (value a) (value b) + 1

/-- Every code of the first entry is one of the second, and the second has more. -/
def Entry.Within (e f : Entry) : Prop :=
  (∀ cp, IsCode cp → (e.width cp).isSome → (f.width cp).isSome) ∧
    ∃ cp, IsCode cp ∧ (f.width cp).isSome ∧ e.width cp = none

/-- Two prefixes of ten and nine characters, or a prefix and a range of equal width. -/
def Entry.Ties : Entry → Entry → Prop
  | .starts p, .starts q => p.length = 10 ∧ q.length = 9
  | .starts _, .range a b _ => span a b = 10
  | .range a b _, .starts q => q.length ≤ 9 ∧ span a b = 10 ^ (10 - q.length)
  | _, _ => False

/-- A prefix of ten characters within fewer than ten codes. -/
def Entry.Loses : Entry → Entry → Prop
  | .starts _, .range a b _ => span a b < 10
  | _, _ => False

variable {a b : List Char} {w : Nat}

theorem range_width {h : (a ++ b).all isDigit = true} :
    (Entry.range a b h).width cp = some w ↔ a.length = b.length ∧ cp.length = a.length ∧
      cp.all isDigit ∧ min (value a) (value b) ≤ value cp ∧ value cp ≤ max (value a) (value b) ∧
      span a b = w := by
  have hdigits := List.all_append ▸ h
  rw [Bool.and_eq_true] at hdigits
  unfold Entry.width span
  by_cases hfits : a.length = b.length ∧ cp.length = a.length ∧ cp.all isDigit
  · obtain ⟨hab, hcp, hall⟩ := hfits
    simp only [hab, hcp, hall, and_self, if_true, true_and]
    have hacp := textLe_iff hdigits.1 hall hcp.symm
    have hcpa := textLe_iff hall hdigits.1 hcp
    have hbcp := textLe_iff hdigits.2 hall (hab.symm.trans hcp.symm)
    have hcpb := textLe_iff hall hdigits.2 (hcp.trans hab)
    rcases Nat.lt_or_ge (value b) (value a) with hlt | hle
    · simp only [if_neg (Nat.not_le.mpr hlt), Bool.and_eq_true, hbcp, hcpa,
        Nat.min_eq_right hlt.le, Nat.max_eq_left hlt.le, Option.ite_none_right_eq_some,
        Option.some.injEq, and_assoc]
    · simp only [if_pos hle, Bool.and_eq_true, hacp, hcpb, Nat.min_eq_left hle,
        Nat.max_eq_right hle, Option.ite_none_right_eq_some, Option.some.injEq, and_assoc]
  · simp only [if_neg hfits]
    tauto

theorem starts_width {start : List Char} :
    (Entry.starts start).width cp = some w ↔
      start ≠ [] ∧ start <+: cp ∧ 10 ^ max 1 (10 - start.length) = w := by
  simp only [Entry.width, Option.ite_none_right_eq_some, Option.some.injEq, and_assoc]

theorem exact_width {code : List Char} :
    (Entry.exact code).width cp = some w ↔ code = cp ∧ 1 = w := by
  simp only [Entry.width, Option.ite_none_right_eq_some, Option.some.injEq]

theorem range_ends {h : (a ++ b).all isDigit = true} (hcode : IsCode cp)
    (hcp : (Entry.range a b h).width cp = some w) :
    (IsCode a ∧ ((Entry.range a b h).width a).isSome) ∧
      IsCode b ∧ ((Entry.range a b h).width b).isSome := by
  obtain ⟨hab, hlength, -⟩ := range_width.mp hcp
  have hdigits := List.all_append ▸ h
  rw [Bool.and_eq_true] at hdigits
  obtain ⟨hleast, hmost, -⟩ := hcode
  refine ⟨⟨.of_digits (by omega) (by omega) hdigits.1, Option.isSome_iff_exists.mpr ⟨span a b, ?_⟩⟩,
    .of_digits (by omega) (by omega) hdigits.2, Option.isSome_iff_exists.mpr ⟨span a b, ?_⟩⟩
  · exact range_width.mpr ⟨hab, rfl, hdigits.1, by omega, by omega, rfl⟩
  · exact range_width.mpr ⟨hab, hab.symm, hdigits.2, by omega, by omega, rfl⟩

theorem starts_within_range {start : List Char} {h : (a ++ b).all isDigit = true}
    (hcode : IsCode cp) (hcp : (Entry.starts start).width cp = some w) (hdigits : cp.all isDigit)
    (hsub : ∀ cp, IsCode cp → ((Entry.starts start).width cp).isSome →
      ((Entry.range a b h).width cp).isSome) : start.length = 10 := by
  obtain ⟨hne, hstart, -⟩ := starts_width.mp hcp
  obtain ⟨hleast, hmost, -⟩ := hcode
  have hlength := hstart.length_le
  by_contra hshort
  have hlettered : IsCode (cp.take 9 ++ ['A']) := by
    have hlength := List.length_take (i := 9) (l := cp)
    obtain ⟨-, -, hall, hdigit⟩ : IsCode (cp.take 9) := .of_digits (by omega) (by omega)
      (List.all_eq_true.mpr fun c hc => List.all_eq_true.mp hdigits c (List.mem_of_mem_take hc))
    refine ⟨?_, ?_, ?_, ?_⟩
    · rw [List.length_append, hlength, List.length_singleton]
      omega
    · rw [List.length_append, hlength, List.length_singleton]
      omega
    · rw [List.all_append, hall]
      rfl
    · rw [List.any_append, hdigit]
      rfl
  have hmatch : (Entry.starts start).width (cp.take 9 ++ ['A']) = some _ := starts_width.mpr
    ⟨hne, (List.prefix_take_iff.mpr ⟨hstart, by omega⟩).trans (List.prefix_append _ _), rfl⟩
  obtain ⟨w', hw'⟩ := Option.isSome_iff_exists.mp (hsub _ hlettered (by rw [hmatch]; rfl))
  obtain ⟨-, -, hall', -⟩ := range_width.mp hw'
  rw [List.all_append, Bool.and_eq_true] at hall'
  exact absurd hall'.2 (by decide)

theorem span_le {q : List Char} (hdigits : (a ++ b).all isDigit) (hab : a.length = b.length)
    (ha : q <+: a) (hb : q <+: b) : span a b ≤ 10 ^ (a.length - q.length) := by
  obtain ⟨a', rfl⟩ := ha
  obtain ⟨b', rfl⟩ := hb
  simp only [List.all_append, Bool.and_eq_true] at hdigits
  obtain ⟨⟨-, ha'⟩, -, hb'⟩ := hdigits
  have hlt : value a' < 10 ^ a'.length := Numeral.digitsValue_lt (List.all_eq_true.mp ha')
  have hlt' : value b' < 10 ^ b'.length := Numeral.digitsValue_lt (List.all_eq_true.mp hb')
  have hvalue := Numeral.digitsValue_append 10 q a'
  have hvalue' := Numeral.digitsValue_append 10 q b'
  simp only [List.length_append, Nat.add_left_cancel_iff] at hab
  rw [← hab] at hlt' hvalue'
  rw [List.length_append, Nat.add_sub_cancel_left]
  unfold span
  unfold value at *
  omega

theorem one_lt_ten : 1 < 10 := by decide

theorem Entry.Within.width {e f : Entry} {w' : Nat} (hcode : IsCode cp) (he : e.width cp = some w)
    (hf : f.width cp = some w') (h : e.Within f) :
    (w' < w ↔ e.Loses f) ∧ (w = w' ↔ e.Ties f) := by
  obtain ⟨hsub, other, hother, hmatch, hnot⟩ := h
  obtain ⟨_, hmatch⟩ := Option.isSome_iff_exists.mp hmatch
  cases f with
  | exact code =>
    obtain ⟨rfl, -⟩ := exact_width.mp hf
    obtain ⟨rfl, -⟩ := exact_width.mp hmatch
    rw [he] at hnot
    cases hnot
  | range c d hdigits =>
    obtain ⟨hcd, hlength, hall, hmin, hmax, hspan⟩ := range_width.mp hf
    obtain ⟨-, hlength', hall', hmin', hmax', -⟩ := range_width.mp hmatch
    cases e with
    | exact code =>
      obtain ⟨rfl, rfl⟩ := exact_width.mp he
      have hne : code ≠ other := by
        rintro rfl
        rw [he] at hnot
        cases hnot
      have hvalue : value code ≠ value other := fun heq => hne (textLe_antisymm
        ((textLe_iff hall hall' (hlength.trans hlength'.symm)).mpr heq.le)
        ((textLe_iff hall' hall (hlength'.trans hlength.symm)).mpr heq.ge))
      simp only [Entry.Loses, Entry.Ties, iff_false]
      unfold span at hspan
      omega
    | range a b hdigits' =>
      obtain ⟨hab, hsame, -, -, -, hspan'⟩ := range_width.mp he
      obtain ⟨⟨hacode, ha⟩, hbcode, hb⟩ := range_ends hcode he
      obtain ⟨_, ha⟩ := Option.isSome_iff_exists.mp (hsub a hacode ha)
      obtain ⟨_, hb⟩ := Option.isSome_iff_exists.mp (hsub b hbcode hb)
      obtain ⟨-, -, -, halow, hahigh, -⟩ := range_width.mp ha
      obtain ⟨-, -, -, hblow, hbhigh, -⟩ := range_width.mp hb
      have hout : ¬(min (value a) (value b) ≤ value other ∧ value other ≤ max (value a) (value b)) := by
        rintro ⟨hlow, hhigh⟩
        rw [range_width.mpr ⟨hab, hlength'.trans (hlength.symm.trans hsame), hall', hlow, hhigh,
          hspan'⟩] at hnot
        cases hnot
      simp only [Entry.Loses, Entry.Ties, iff_false]
      unfold span at hspan hspan'
      omega
    | starts p =>
      have hten := starts_within_range hcode he hall hsub
      obtain ⟨-, -, rfl⟩ := starts_width.mp he
      rw [Entry.Loses, Entry.Ties, hten, hspan]
      exact ⟨Iff.rfl, eq_comm⟩
  | starts q =>
    obtain ⟨hne, hq, rfl⟩ := starts_width.mp hf
    have hleast : 10 ≤ 10 ^ max 1 (10 - q.length) :=
      Nat.le_self_pow (Nat.one_le_iff_ne_zero.mp (Nat.le_max_left _ _)) 10
    cases e with
    | exact code =>
      obtain ⟨-, rfl⟩ := exact_width.mp he
      simp only [Entry.Loses, Entry.Ties, iff_false]
      omega
    | starts p =>
      obtain ⟨hp, hstart, rfl⟩ := starts_width.mp he
      have hshorter : q.length < p.length := by
        by_contra hlonger
        obtain ⟨-, hother', -⟩ := starts_width.mp hmatch
        rw [starts_width.mpr ⟨hp, (List.prefix_of_prefix_length_le hstart hq
          (Nat.le_of_not_lt hlonger)).trans hother', rfl⟩] at hnot
        cases hnot
      have hmost := hstart.length_le.trans hcode.2.1
      simp only [Entry.Loses, Entry.Ties, iff_false, Nat.pow_lt_pow_iff_right one_lt_ten,
        Nat.pow_right_inj one_lt_ten]
      omega
    | range a b hdigits =>
      obtain ⟨hab, hlength, -, -, -, rfl⟩ := range_width.mp he
      obtain ⟨⟨hacode, ha⟩, hbcode, hb⟩ := range_ends hcode he
      obtain ⟨_, ha⟩ := Option.isSome_iff_exists.mp (hsub a hacode ha)
      obtain ⟨_, hb⟩ := Option.isSome_iff_exists.mp (hsub b hbcode hb)
      have hspan := span_le hdigits hab (starts_width.mp ha).2.1 (starts_width.mp hb).2.1
      have hshort := (starts_width.mp ha).2.1.length_le
      have hmost := hacode.2.1
      have hmono := Nat.pow_le_pow_right (Nat.zero_lt_of_lt one_lt_ten)
        (Nat.sub_le_sub_right hmost q.length)
      simp only [Entry.Loses, Entry.Ties, iff_false]
      rcases Nat.lt_or_ge 9 q.length with hten | hnine
      · rw [Nat.sub_eq_zero_of_le (by omega)] at hspan
        omega
      · rw [Nat.max_eq_right (by omega)]
        omega

/-- Winner of the rules seen so far: none of them is narrower, and of its width none has a lower id. -/
def Leads (upper : Char → List Char) (cp : List Char) (seen : List Rule) : Option Winner → Prop
  | none => ∀ rule ∈ seen, rule.width upper cp = none
  | some best => (∃ rule ∈ seen, rule.width upper cp = some best.width ∧ rule.id = best.id) ∧
    ∀ rule ∈ seen, ∀ width, rule.width upper cp = some width →
      best.width < width ∨ best.width = width ∧ best.id ≤ rule.id

theorem Leads.challenge {seen : List Rule} {winner : Option Winner} {rule : Rule}
    (h : Leads upper cp seen winner) (hid : ∀ before ∈ seen, before.id ≤ rule.id) :
    Leads upper cp (seen ++ [rule]) (challenge upper cp winner rule) := by
  unfold FireIsp.Tax.challenge
  cases hwidth : rule.width upper cp with
  | none =>
    cases winner with
    | none => exact List.forall_mem_append.mpr ⟨h, List.forall_mem_singleton.mpr hwidth⟩
    | some best =>
      obtain ⟨⟨first, hmem, hbest⟩, hleast⟩ := h
      refine ⟨⟨first, List.mem_append_left _ hmem, hbest⟩, List.forall_mem_append.mpr ⟨hleast, ?_⟩⟩
      refine List.forall_mem_singleton.mpr fun width hsome => ?_
      rw [hwidth] at hsome
      cases hsome
  | some width =>
    have hlast : rule ∈ seen ++ [rule] := List.mem_append_right _ List.mem_cons_self
    have hself : ∀ other, rule.width upper cp = some other → width = other := fun other hother =>
      Option.some.inj (hwidth.symm.trans hother)
    cases winner with
    | none =>
      refine ⟨⟨rule, hlast, hwidth, rfl⟩, List.forall_mem_append.mpr ⟨fun before hmem other hother => ?_,
        List.forall_mem_singleton.mpr fun other hother => Or.inr ⟨hself other hother, Nat.le_refl _⟩⟩⟩
      rw [h before hmem] at hother
      cases hother
    | some best =>
      obtain ⟨⟨first, hmem, hbest, hfirst⟩, hleast⟩ := h
      simp only [Option.elim_some, Option.all_some, decide_eq_true_eq]
      split
      · refine ⟨⟨rule, hlast, hwidth, rfl⟩, List.forall_mem_append.mpr ⟨fun before hmem other hother =>
          ?_, List.forall_mem_singleton.mpr fun other hother =>
            Or.inr ⟨hself other hother, Nat.le_refl _⟩⟩⟩
        have := hleast before hmem other hother
        dsimp only
        omega
      · refine ⟨⟨first, List.mem_append_left _ hmem, hbest, hfirst⟩, List.forall_mem_append.mpr
          ⟨hleast, List.forall_mem_singleton.mpr fun other hother => ?_⟩⟩
        have := hself other hother
        have := hid first hmem
        omega

theorem leads_foldl (upper : Char → List Char) (cp : List Char) (rules : List Rule)
    (hsorted : rules.Pairwise fun a b => a.id ≤ b.id) :
    Leads upper cp rules (rules.foldl (challenge upper cp) none) := by
  induction rules using List.reverseRecOn with
  | nil => exact fun rule hmem => absurd hmem List.not_mem_nil
  | append_singleton seen rule ih =>
    obtain ⟨hseen, -, hid⟩ := List.pairwise_append.mp hsorted
    rw [List.foldl_append]
    exact (ih hseen).challenge fun before hmem => hid before hmem rule List.mem_cons_self

theorem leads_resolve (rules : List Rule) (orgId : Nat) {rawZip : List Char}
    (h : normalizePostalCode upper rawZip = some cp) :
    Leads upper cp (regionRules rules orgId) (resolveRegionRate upper rules orgId rawZip) := by
  unfold resolveRegionRate
  rw [h]
  refine leads_foldl upper cp _ ((List.pairwise_mergeSort ?_ ?_ _).imp of_decide_eq_true)
  · intro a b c hab hbc
    exact decide_eq_true ((of_decide_eq_true hab).trans (of_decide_eq_true hbc))
  · intro a b
    rw [Bool.or_eq_true, decide_eq_true_eq, decide_eq_true_eq]
    exact Nat.le_total a.id b.id

/-- The entry of a rule whose width counts. -/
def Rule.Matching (upper : Char → List Char) (rule : Rule) (cp : List Char) (entry : Entry) : Prop :=
  entry.width cp = rule.width upper cp ∧ (entry.width cp).isSome ∧
    ∃ spec, rule.postalCodes = some spec ∧ entry ∈ entries upper spec

/-- The second rule is never chosen exactly when the first does not lose, nor lose a tie. -/
theorem resolveRegionRate_spec {upper : Char → List Char} {orgId : Nat} {rawZip cp : List Char}
    {first second : Rule} {e f : Entry} (hcp : normalizePostalCode upper rawZip = some cp)
    (hfirst : first.isRegion orgId) (hsecond : second.isRegion orgId) (hne : first.id ≠ second.id)
    (he : first.Matching upper cp e) (hf : second.Matching upper cp f) (hwithin : e.Within f) :
    (∀ rules : List Rule, (rules.map (·.id)).Nodup → first ∈ rules → second ∈ rules →
        ∀ winner, resolveRegionRate upper rules orgId rawZip = some winner → winner.id ≠ second.id) ↔
      ¬e.Loses f ∧ (first.id < second.id ∨ ¬e.Ties f) := by
  obtain ⟨w, hw⟩ := Option.isSome_iff_exists.mp he.2.1
  obtain ⟨w', hw'⟩ := Option.isSome_iff_exists.mp hf.2.1
  obtain ⟨hloses, hties⟩ := hwithin.width (isCode_of_normalize hcp) hw hw'
  have hwidth := he.1.symm.trans hw
  have hwidth' := hf.1.symm.trans hw'
  have hsorted : ∀ (rules : List Rule) rule, rule ∈ regionRules rules orgId ↔
      rule ∈ rules ∧ rule.isRegion orgId := fun rules rule => by
    rw [regionRules, List.mem_mergeSort, List.mem_filter]
  rw [← hloses, ← hties]
  constructor
  · intro hnever
    have hnodup : ([first, second].map (·.id)).Nodup := by simpa using hne
    have hleads := leads_resolve [first, second] orgId hcp
    specialize hnever [first, second] hnodup List.mem_cons_self
      (List.mem_cons_of_mem _ List.mem_cons_self)
    cases hresult : resolveRegionRate upper [first, second] orgId rawZip with
    | none =>
      rw [hresult] at hleads
      have := hleads first ((hsorted _ _).mpr ⟨List.mem_cons_self, hfirst⟩)
      rw [hwidth] at this
      cases this
    | some winner =>
      rw [hresult] at hleads
      obtain ⟨⟨rule, hmem, hbest, hid⟩, hleast⟩ := hleads
      have hless := hleast second
        ((hsorted _ _).mpr ⟨List.mem_cons_of_mem _ List.mem_cons_self, hsecond⟩) w' hwidth'
      have hother := hnever winner hresult
      rcases List.mem_cons.mp ((hsorted _ _).mp hmem).1 with rfl | hmem
      · have := Option.some.inj (hwidth.symm.trans hbest)
        omega
      · rw [List.mem_singleton.mp hmem] at hid
        exact absurd hid.symm hother
  · rintro ⟨hwide, hid⟩ rules hnodup hmem hmem' winner hresult hchosen
    have hleads := leads_resolve rules orgId hcp
    rw [hresult] at hleads
    obtain ⟨⟨rule, hrule, hbest, hruleId⟩, hleast⟩ := hleads
    have hsame : rule = second := List.inj_on_of_nodup_map hnodup ((hsorted _ _).mp hrule).1 hmem'
      (hruleId.trans hchosen)
    rw [hsame, hwidth'] at hbest
    have := Option.some.inj hbest
    have hless := hleast first ((hsorted _ _).mpr ⟨hmem, hfirst⟩) w hwidth
    omega

/-- A rule of one organization. -/
def sampleRule (id : Nat) (postalCodes : List Char) : Rule :=
  ⟨id, 1, 8, some postalCodes, true, false⟩

theorem resolveRegionRate_sample :
    (∀ rules : List Rule, (rules.map (·.id)).Nodup → sampleRule 1 ['A', '1', '*'] ∈ rules →
      sampleRule 2 ['A', '*'] ∈ rules → ∀ winner,
        resolveRegionRate (fun c => [c]) rules 1 ['A', '1', '2'] = some winner → winner.id ≠ 2) ↔
      ¬(Entry.starts ['A', '1']).Loses (.starts ['A']) ∧
        (1 < 2 ∨ ¬(Entry.starts ['A', '1']).Ties (.starts ['A'])) := by
  refine @resolveRegionRate_spec _ 1 _ ['A', '1', '2'] (sampleRule 1 _) (sampleRule 2 _) _ _
    (by decide) (by decide) (by decide) (by decide)
    ⟨by decide, by decide, _, rfl, by decide⟩ ⟨by decide, by decide, _, rfl, by decide⟩
    ⟨?_, ['A', '2', '2'], by decide, by decide, by decide⟩
  intro cp _ hmatch
  obtain ⟨w, hw⟩ := Option.isSome_iff_exists.mp hmatch
  obtain ⟨-, hstart, -⟩ := starts_width.mp hw
  exact Option.isSome_iff_exists.mpr ⟨_, starts_width.mpr
    ⟨by decide, (List.prefix_append ['A'] ['1']).trans hstart, rfl⟩⟩

/-- A prefix of nine characters is chosen over the one of ten, on the lower id. -/
theorem ten_loses_to_nine : ¬∀ (upper : Char → List Char) (rules : List Rule) (orgId : Nat)
    (rawZip cp : List Char) (first second : Rule) (e f : Entry), (rules.map (·.id)).Nodup →
      normalizePostalCode upper rawZip = some cp → first ∈ rules → second ∈ rules →
      first.isRegion orgId → second.isRegion orgId →
      first.Matching upper cp e → second.Matching upper cp f → e.Within f →
        ∀ winner, resolveRegionRate upper rules orgId rawZip = some winner → winner.id ≠ second.id := by
  intro h
  let nine := ['A', '1', '2', '3', '4', '5', '6', '7', '8']
  let rules := [sampleRule 1 (nine ++ ['*']), sampleRule 2 (nine ++ ['9', '*'])]
  let rawZip := ['A', '1', '2', '3', ' ', '4', '5', '6', ' ', '7', '8', '9']
  have hsorted : regionRules rules 1 = rules := List.mergeSort_of_pairwise (by decide)
  have hchosen : resolveRegionRate (fun c => [c]) rules 1 rawZip = some ⟨1, 8, 10⟩ := by
    unfold resolveRegionRate
    rw [show normalizePostalCode _ rawZip = some (nine ++ ['9']) by decide]
    exact (congrArg (List.foldl _ none) hsorted).trans (by decide)
  refine h (fun c => [c]) rules 1 rawZip (nine ++ ['9']) (sampleRule 2 (nine ++ ['9', '*']))
    (sampleRule 1 (nine ++ ['*'])) (.starts (nine ++ ['9'])) (.starts nine) (by decide) (by decide)
    (List.mem_cons_of_mem _ List.mem_cons_self) List.mem_cons_self (by decide) (by decide)
    ⟨by decide, by decide, _, rfl, by decide⟩ ⟨by decide, by decide, _, rfl, by decide⟩
    ⟨?_, nine ++ ['8'], by decide, by decide, by decide⟩ _ hchosen rfl
  intro cp _ hmatch
  obtain ⟨w, hw⟩ := Option.isSome_iff_exists.mp hmatch
  obtain ⟨-, hstart, -⟩ := starts_width.mp hw
  exact Option.isSome_iff_exists.mpr ⟨_, starts_width.mpr
    ⟨by decide, (List.prefix_append nine ['9']).trans hstart, rfl⟩⟩

theorem challenge_foldl_rate {rules : List Rule} {start : Option Winner} {winner : Winner}
    (h : rules.foldl (challenge upper cp) start = some winner) :
    start = some winner ∨ ∃ rule ∈ rules, winner = ⟨rule.id, rule.rate, winner.width⟩ ∧
      rule.width upper cp = some winner.width := by
  induction rules generalizing start with
  | nil => exact .inl h
  | cons rule rules ih =>
    rcases ih h with hstart | ⟨other, hmem, hother⟩
    · unfold challenge at hstart
      cases hwidth : rule.width upper cp with
      | none =>
        rw [hwidth] at hstart
        exact .inl hstart
      | some width =>
        rw [hwidth, Option.elim_some] at hstart
        split_ifs at hstart
        · obtain rfl := Option.some.inj hstart
          exact .inr ⟨rule, List.mem_cons_self, rfl, hwidth⟩
        · exact .inl hstart
    · exact .inr ⟨other, List.mem_cons_of_mem rule hmem, hother⟩

/-- A rule of an organization that matches a code, and no other does more narrowly, or as narrowly
with a lower id. -/
def Rule.Least (upper : Char → List Char) (cp : List Char) (orgId : Nat) (rules : List Rule)
    (winner : Winner) : Prop :=
  (∃ rule ∈ rules, rule.isRegion orgId ∧ winner = ⟨rule.id, rule.rate, winner.width⟩ ∧
      rule.width upper cp = some winner.width) ∧
    ∀ rule ∈ rules, rule.isRegion orgId → ∀ width, rule.width upper cp = some width →
      winner.width < width ∨ winner.width = width ∧ winner.id ≤ rule.id

/-- The rule that is chosen is the least of those that match, whatever order they are stored in, and
none is chosen only if none matches. -/
theorem resolveRegionRate_least {rules stored : List Rule} (orgId : Nat) {rawZip : List Char}
    (hcp : normalizePostalCode upper rawZip = some cp) (hnodup : (rules.map (·.id)).Nodup)
    (hstored : stored.Perm rules) :
    (∀ winner, resolveRegionRate upper stored orgId rawZip = some winner ↔
      Rule.Least upper cp orgId rules winner) ∧
    (resolveRegionRate upper stored orgId rawZip = none ↔
      ∀ rule ∈ rules, rule.isRegion orgId → rule.width upper cp = none) := by
  have hregion : ∀ rule, rule ∈ regionRules stored orgId ↔ rule ∈ rules ∧ rule.isRegion orgId :=
    fun rule => by rw [regionRules, List.mem_mergeSort, List.mem_filter, hstored.mem_iff]
  have hleads := leads_resolve stored orgId hcp
  have hresolve : resolveRegionRate upper stored orgId rawZip =
      (regionRules stored orgId).foldl (challenge upper cp) none := by
    rw [resolveRegionRate, hcp]
    rfl
  have hleast : ∀ winner, resolveRegionRate upper stored orgId rawZip = some winner →
      Rule.Least upper cp orgId rules winner := by
    intro winner hwinner
    rw [hwinner] at hleads
    obtain ⟨rule, hmem, hrule⟩ :=
      (challenge_foldl_rate (hresolve.symm.trans hwinner)).resolve_left nofun
    refine ⟨⟨rule, ((hregion rule).mp hmem).1, ((hregion rule).mp hmem).2, hrule⟩, ?_⟩
    exact fun other hother hactive => hleads.2 other ((hregion other).mpr ⟨hother, hactive⟩)
  cases hresult : resolveRegionRate upper stored orgId rawZip with
  | none =>
    rw [hresult] at hleads
    have hnone : ∀ rule ∈ rules, rule.isRegion orgId → rule.width upper cp = none :=
      fun rule hmem hactive => hleads rule ((hregion rule).mpr ⟨hmem, hactive⟩)
    refine ⟨fun winner => iff_of_false nofun ?_, iff_of_true rfl hnone⟩
    rintro ⟨⟨rule, hmem, hactive, -, hwidth⟩, -⟩
    exact nomatch (hnone rule hmem hactive).symm.trans hwidth
  | some best =>
    obtain ⟨⟨first, hfirst, hactive, hbest, hwidth⟩, hbelow⟩ := hleast best hresult
    refine ⟨fun winner => ⟨fun h => hleast winner (hresult.trans h), ?_⟩, iff_of_false nofun
      fun hnone => nomatch (hnone first hfirst hactive).symm.trans hwidth⟩
    rintro ⟨⟨rule, hmem, hactive', hwinner, hwidth'⟩, hbelow'⟩
    have hle := hbelow rule hmem hactive' _ hwidth'
    have hge := hbelow' first hfirst hactive _ hwidth
    rw [hbest] at hle hge
    rw [hwinner] at hle hge
    have hid : first.id = rule.id := by simp only at hle hge; omega
    have hwide : best.width = winner.width := by simp only at hle hge; omega
    have hsame := List.inj_on_of_nodup_map hnodup hfirst hmem hid
    rw [hbest, hwinner, hsame, hwide]

/-- A wider rule is stored before the narrower one. -/
theorem resolveRegionRate_least_sample :
    let narrow := sampleRule 1 ['A', '1', '*']
    let wide := sampleRule 2 ['A', '*']
    ∀ winner, resolveRegionRate (fun c => [c]) [wide, narrow] 1 ['A', '1', '2'] = some winner ↔
      Rule.Least (fun c => [c]) ['A', '1', '2'] 1 [narrow, wide] winner :=
  (resolveRegionRate_least 1 (by decide) (by decide) (.swap _ _ [])).1

end FireIsp.Tax
