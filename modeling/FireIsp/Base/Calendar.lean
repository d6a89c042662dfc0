import Mathlib.Algebra.Ring.Int.Defs
import Mathlib.Data.List.Basic

/-!
# Calendar days of the host language

A date is a day number, counted from 1970-01-01 of the proleptic Gregorian calendar.  `setMonth`
and `setDate` carry excess months and days over, as the `Date` of the host language does.
-/

namespace Calendar

/-- A date by its parts. -/
structure Civil where
  year : Int
  month : Int
  day : Int

/-- Days from the first of March to the first of the month that is `month` months later. -/
def daysBefore (month : Int) : Int := (153 * month + 2) / 5

/-- `MakeDay`: months outside the year and days outside the month carry over. -/
def dayNumber (parts : Civil) : Int :=
  let month := parts.month % 12
  let year := parts.year + parts.month / 12 - if month < 2 then 1 else 0
  365 * year + year / 4 - year / 100 + year / 400 + daysBefore ((month + 10) % 12) + parts.day -
    719469

/-- Parts of a day number. -/
def civil (date : Int) : Civil :=
  let days := date + 719468
  let ofEra := days % 146097
  let yearOfEra := (ofEra - ofEra / 1460 + ofEra / 36524 - ofEra / 146096) / 365
  let ofYear := ofEra - (365 * yearOfEra + yearOfEra / 4 - yearOfEra / 100)
  let fromMarch := (5 * ofYear + 2) / 153
  let month := (fromMarch + 2) % 12
  ⟨yearOfEra + days / 146097 * 400 + if month < 2 then 1 else 0, month,
    ofYear - daysBefore fromMarch + 1⟩

/-- `date.setMonth(month)`. -/
def setMonth (date month : Int) : Int := dayNumber { civil date with month }

/-- `date.setDate(day)`. -/
def setDate (date day : Int) : Int := dayNumber { civil date with day }

/-- Decimal digits of a number, filled up with zeros on the left. -/
def padded (width n : Nat) : String :=
  String.ofList (List.replicate (width - (toString n).length) '0') ++ toString n

/-- `date.toISOString().slice(0, 10)`, for years of at most four digits. -/
def isoDate (date : Int) : String :=
  let parts := civil date
  padded 4 parts.year.toNat ++ "-" ++ padded 2 (parts.month + 1).toNat ++ "-" ++
    padded 2 parts.day.toNat

example : setMonth (dayNumber ⟨2028, 0, 31⟩) 1 = dayNumber ⟨2028, 2, 2⟩ := by decide

section Years

/-- Days before a year that begins in March. -/
def yearStart (year : Int) : Int := 365 * year + year / 4 - year / 100 + year / 400

theorem yearStart_succ (year : Int) :
    yearStart year + 365 ≤ yearStart (year + 1) ∧ yearStart (year + 1) ≤ yearStart year + 366 := by
  simp only [yearStart]
  omega

theorem era_parts {days : Int} (hlow : 0 ≤ days) (hhigh : days < 146097) :
    ∃ century cycle year day : Int,
      days = 36524 * century + 1461 * cycle + 365 * year + day ∧
      (0 ≤ century ∧ century ≤ 3) ∧ (0 ≤ cycle ∧ cycle ≤ 24) ∧ (0 ≤ year ∧ year ≤ 3) ∧
      (0 ≤ day ∧ day ≤ 365) ∧ (day = 365 → year = 3 ∧ (cycle < 24 ∨ century = 3)) := by
  let century := min 3 (days / 36524)
  let rest := days - 36524 * century
  have hcentury : 0 ≤ century ∧ century ≤ 3 := by omega
  have hrest : 0 ≤ rest ∧ rest ≤ 36524 ∧ (rest = 36524 → century = 3) := by omega
  exact ⟨century, rest / 1461, min 3 (rest % 1461 / 365),
    rest % 1461 - 365 * min 3 (rest % 1461 / 365), by omega, hcentury, by omega, by omega, by omega,
    by omega⟩

variable {century cycle year : Int}

theorem yearOfEra_eq {day days : Int}
    (hdays : days = 36524 * century + 1461 * cycle + 365 * year + day)
    (hcentury : 0 ≤ century ∧ century ≤ 3) (hcycle : 0 ≤ cycle ∧ cycle ≤ 24)
    (hyear : 0 ≤ year ∧ year ≤ 3) (hday : 0 ≤ day ∧ day ≤ 365)
    (hleap : day = 365 → year = 3 ∧ (cycle < 24 ∨ century = 3)) :
    (days - days / 1460 + days / 36524 - days / 146096) / 365 =
      100 * century + 4 * cycle + year := by
  have hmark : days / 36524 - days / 146096 = century := by
    have hrest : 1461 * cycle + 365 * year + day ≤ 36524 := by omega
    by_cases hlast : days = 146096
    · omega
    · have hwhole : days / 36524 = century := by omega
      omega
  -- the last days of a cycle are counted to the next one, which costs their year one day
  obtain ⟨late, hlate, hcycles⟩ : ∃ late : Int, (0 ≤ day - late ∧ day - late ≤ 364) ∧
      days / 1460 = 25 * century + cycle + late := by
    by_cases h : 24 * century + cycle + 365 * year + day < 1460
    · exact ⟨0, by omega, by omega⟩
    · exact ⟨1, by omega, by omega⟩
  omega

theorem yearStart_era (era : Int) (hcentury : 0 ≤ century ∧ century ≤ 3)
    (hcycle : 0 ≤ cycle ∧ cycle ≤ 24) (hyear : 0 ≤ year ∧ year ≤ 3) :
    yearStart (100 * century + 4 * cycle + year + era * 400) =
      146097 * era + 36524 * century + 1461 * cycle + 365 * year := by
  have hcycles : (100 * century + 4 * cycle + year + era * 400) / 4 =
      25 * century + cycle + 100 * era := by omega
  have hcenturies : (100 * century + 4 * cycle + year + era * 400) / 100 = century + 4 * era := by
    omega
  have heras : (100 * century + 4 * cycle + year + era * 400) / 400 = era := by omega
  rw [yearStart, hcycles, hcenturies, heras]
  omega

theorem yearStart_lt_succ {day : Int} (era : Int) (hcentury : 0 ≤ century ∧ century ≤ 3)
    (hcycle : 0 ≤ cycle ∧ cycle ≤ 24) (hyear : 0 ≤ year ∧ year ≤ 3) (hday : day ≤ 365)
    (hleap : day = 365 → year = 3 ∧ (cycle < 24 ∨ century = 3)) :
    yearStart (100 * century + 4 * cycle + year + era * 400) + day <
      yearStart (100 * century + 4 * cycle + year + era * 400 + 1) := by
  have hstart := yearStart_era era hcentury hcycle hyear
  have hsucc := yearStart_succ (100 * century + 4 * cycle + year + era * 400)
  by_cases hlast : day = 365
  · obtain ⟨rfl, hcycle' | rfl⟩ := hleap hlast
    · have hnext := @yearStart_era century (cycle + 1) 0 era hcentury (by omega) (by decide)
      have hsame : 100 * century + 4 * cycle + 3 + era * 400 + 1 =
          100 * century + 4 * (cycle + 1) + 0 + era * 400 := by omega
      rw [hsame]
      omega
    · by_cases hcycle' : cycle = 24
      · subst hcycle'
        have hnext := @yearStart_era 0 0 0 (era + 1) (by decide) (by decide) (by decide)
        have hsame : 100 * 3 + 4 * 24 + 3 + era * 400 + 1 =
            100 * 0 + 4 * 0 + 0 + (era + 1) * 400 := by omega
        rw [hsame]
        omega
      · have hnext := @yearStart_era 3 (cycle + 1) 0 era hcentury (by omega) (by decide)
        have hsame : 100 * 3 + 4 * cycle + 3 + era * 400 + 1 =
            100 * 3 + 4 * (cycle + 1) + 0 + era * 400 := by omega
        rw [hsame]
        omega
  · omega

theorem civil_eq (date : Int) : ∃ year ofYear : Int,
    date + 719468 = yearStart year + ofYear ∧ (0 ≤ ofYear ∧ ofYear ≤ 365) ∧
      yearStart year + ofYear < yearStart (year + 1) ∧
      civil date = ⟨year + if ((5 * ofYear + 2) / 153 + 2) % 12 < 2 then 1 else 0,
        ((5 * ofYear + 2) / 153 + 2) % 12, ofYear - daysBefore ((5 * ofYear + 2) / 153) + 1⟩ := by
  obtain ⟨century, cycle, year, day, hdays, hcentury, hcycle, hyear, hday, hleap⟩ :=
    era_parts (Int.emod_nonneg (date + 719468) (by decide))
      (Int.emod_lt_of_pos (date + 719468) (by decide))
  have hsplit := Int.mul_ediv_add_emod (date + 719468) 146097
  have hstart := yearStart_era ((date + 719468) / 146097) hcentury hcycle hyear
  have hdate : date + 719468 =
      yearStart (100 * century + 4 * cycle + year + (date + 719468) / 146097 * 400) + day := by
    rw [hstart]
    omega
  refine ⟨100 * century + 4 * cycle + year + (date + 719468) / 146097 * 400, day, hdate, hday,
    ?_, ?_⟩
  · exact yearStart_lt_succ _ hcentury hcycle hyear hday.2 hleap
  · have hofYear : (date + 719468) % 146097 - (365 * (100 * century + 4 * cycle + year) +
        (100 * century + 4 * cycle + year) / 4 - (100 * century + 4 * cycle + year) / 100) = day := by
      rw [hdays]
      clear hdays hsplit hdate
      omega
    simp only [civil, yearOfEra_eq hdays hcentury hcycle hyear hday hleap, hofYear]

theorem dayNumber_eq (year day : Int) {month : Int} (h : 0 ≤ month ∧ month ≤ 11) :
    dayNumber ⟨year, month, day⟩ = yearStart (year - if month < 2 then 1 else 0) +
      daysBefore ((month + 10) % 12) + day - 719469 := by
  have hmonth : month % 12 = month ∧ month / 12 = 0 := by omega
  simp only [dayNumber, hmonth, yearStart, add_zero]

theorem month_early {ofYear : Int} (h : 0 ≤ ofYear ∧ ofYear ≤ 365) :
    ((5 * ofYear + 2) / 153 + 2) % 12 < 2 ↔ 306 ≤ ofYear := by
  have hmonth : 0 ≤ (5 * ofYear + 2) / 153 ∧ (5 * ofYear + 2) / 153 ≤ 11 := by omega
  have hlate : 10 ≤ (5 * ofYear + 2) / 153 ↔ 306 ≤ ofYear := by omega
  rw [← hlate]
  generalize (5 * ofYear + 2) / 153 = fromMarch at hmonth
  omega

theorem civil_range (date : Int) : (0 ≤ (civil date).month ∧ (civil date).month ≤ 11) ∧
    1 ≤ (civil date).day ∧ (civil date).day ≤ 31 := by
  obtain ⟨year, ofYear, -, hday, -, hcivil⟩ := civil_eq date
  rw [hcivil]
  simp only [daysBefore]
  omega

theorem dayNumber_civil (date : Int) : dayNumber (civil date) = date := by
  obtain ⟨year, ofYear, hdate, hday, -, hcivil⟩ := civil_eq date
  have hrange := (civil_range date).1
  rw [hcivil] at hrange ⊢
  have hmonth : (((5 * ofYear + 2) / 153 + 2) % 12 + 10) % 12 = (5 * ofYear + 2) / 153 := by omega
  rw [dayNumber_eq _ _ hrange, add_sub_cancel_right, hmonth]
  omega

theorem civil_year (date : Int) : dayNumber ⟨(civil date).year, 0, 1⟩ ≤ date ∧
    date < dayNumber ⟨(civil date).year + 1, 0, 1⟩ := by
  obtain ⟨year, ofYear, hdate, hday, hnext, hcivil⟩ := civil_eq date
  rw [dayNumber_eq _ _ (by decide), dayNumber_eq _ _ (by decide), hcivil]
  have hstart := yearStart_succ (year - 1)
  rw [sub_add_cancel] at hstart
  have hfirst : (0 : Int) < 2 := by decide
  have hmonth := month_early hday
  simp only [daysBefore, if_pos hfirst]
  by_cases hlate : 306 ≤ ofYear
  · rw [if_pos (hmonth.mpr hlate), add_sub_cancel_right, add_sub_cancel_right]
    omega
  · rw [if_neg (mt hmonth.mp hlate), add_zero, add_sub_cancel_right]
    omega

theorem dayNumber_succ_year (year month day : Int) :
    dayNumber ⟨year, month, day⟩ + 365 ≤ dayNumber ⟨year + 1, month, day⟩ ∧
      dayNumber ⟨year + 1, month, day⟩ ≤ dayNumber ⟨year, month, day⟩ + 366 := by
  simp only [dayNumber]
  omega

theorem dayNumber_mono_year {other : Int} (h : year ≤ other) :
    dayNumber ⟨year, 0, 1⟩ ≤ dayNumber ⟨other, 0, 1⟩ := by
  rw [dayNumber_eq _ _ (by decide), dayNumber_eq _ _ (by decide)]
  simp only [yearStart]
  omega

theorem civil_year_near {date later : Int} (hle : date ≤ later) (hlt : later < date + 365) :
    (civil later).year = (civil date).year ∨ (civil later).year = (civil date).year + 1 := by
  have hdate := civil_year date
  have hlater := civil_year later
  have hnext := (dayNumber_succ_year ((civil date).year + 1) 0 1).1
  by_contra hother
  rcases Int.lt_or_le (civil later).year (civil date).year with hless | hmore
  · have hmono := dayNumber_mono_year (Int.add_one_le_of_lt hless)
    omega
  · have hmono : dayNumber ⟨(civil date).year + 1 + 1, 0, 1⟩ ≤ dayNumber ⟨(civil later).year, 0, 1⟩ :=
      dayNumber_mono_year (by omega)
    omega

theorem setDate_day (date days : Int) : setDate date ((civil date).day + days) = date + days := by
  have hdate := dayNumber_civil date
  simp only [dayNumber] at hdate
  simp only [setDate, dayNumber]
  omega

end Years

section Months

/-- Months since the beginning of year 0. -/
def monthIndex (date : Int) : Int := 12 * (civil date).year + (civil date).month

def firstDay (month : Int) : Int := dayNumber ⟨0, month, 1⟩

def daysIn (month : Int) : Int := firstDay (month + 1) - firstDay month

theorem firstDay_eq (year : Int) {fromMarch : Int} (h : 0 ≤ fromMarch ∧ fromMarch ≤ 11) :
    firstDay (12 * year + fromMarch + 2) = yearStart year + daysBefore fromMarch - 719468 := by
  have hmonth : ((12 * year + fromMarch + 2) % 12 + 10) % 12 = fromMarch := by omega
  have hyear : 0 + (12 * year + fromMarch + 2) / 12 -
      (if (12 * year + fromMarch + 2) % 12 < 2 then 1 else 0) = year := by
    split_ifs <;> omega
  simp only [firstDay, dayNumber, hmonth, hyear, yearStart]
  omega

theorem month_parts (month : Int) : ∃ year fromMarch : Int,
    month = 12 * year + fromMarch + 2 ∧ 0 ≤ fromMarch ∧ fromMarch ≤ 11 :=
  ⟨(month - 2) / 12, (month - 2) % 12, by omega⟩

theorem daysIn_range (month : Int) : 28 ≤ daysIn month ∧ daysIn month ≤ 31 := by
  obtain ⟨year, fromMarch, rfl, hlow, hhigh⟩ := month_parts month
  rw [daysIn, firstDay_eq year ⟨hlow, hhigh⟩]
  by_cases hlast : fromMarch = 11
  · subst hlast
    have hnext := @firstDay_eq (year + 1) 0 (by decide)
    have hsame : 12 * year + 11 + 2 + 1 = 12 * (year + 1) + 0 + 2 := by omega
    have hyear := yearStart_succ year
    rw [hsame, hnext]
    simp only [daysBefore]
    omega
  · have hnext := @firstDay_eq year (fromMarch + 1) (by omega)
    have hsame : 12 * year + fromMarch + 2 + 1 = 12 * year + (fromMarch + 1) + 2 := by omega
    rw [hsame, hnext]
    simp only [daysBefore]
    omega

theorem firstDay_mono {month later : Int} (h : month ≤ later) : firstDay month ≤ firstDay later := by
  obtain ⟨count, rfl⟩ := Int.le.dest h
  induction count with
  | zero => simp
  | succ count ih =>
    have hdays := (daysIn_range (month + count)).1
    have hsame : month + (count + 1 : Nat) = month + count + 1 := by omega
    rw [daysIn] at hdays
    rw [hsame]
    exact Int.le_trans (ih (Int.le.intro count rfl)) (by omega)

theorem date_eq (date : Int) : date = firstDay (monthIndex date) + (civil date).day - 1 := by
  have hnumber := dayNumber_civil date
  have hcarry : (12 * (civil date).year + (civil date).month) % 12 = (civil date).month % 12 ∧
      (12 * (civil date).year + (civil date).month) / 12 =
        (civil date).year + (civil date).month / 12 := by omega
  simp only [dayNumber] at hnumber
  simp only [firstDay, monthIndex, dayNumber, hcarry, zero_add]
  omega

theorem date_lt (date : Int) : date < firstDay (monthIndex date + 1) := by
  obtain ⟨year, ofYear, hdate, hday, hnext, hcivil⟩ := civil_eq date
  have hmonth : 0 ≤ (5 * ofYear + 2) / 153 ∧ (5 * ofYear + 2) / 153 ≤ 11 := by omega
  have hindex : monthIndex date = 12 * year + (5 * ofYear + 2) / 153 + 2 := by
    simp only [monthIndex, hcivil]
    generalize (5 * ofYear + 2) / 153 = fromMarch at hmonth
    split_ifs <;> omega
  rw [hindex]
  by_cases hlast : (5 * ofYear + 2) / 153 = 11
  · have hfirst := @firstDay_eq (year + 1) 0 (by decide)
    have hsame : 12 * year + (5 * ofYear + 2) / 153 + 2 + 1 = 12 * (year + 1) + 0 + 2 := by omega
    rw [hsame, hfirst]
    simp only [daysBefore]
    omega
  · have hfirst := @firstDay_eq year ((5 * ofYear + 2) / 153 + 1) (by omega)
    have hsame : 12 * year + (5 * ofYear + 2) / 153 + 2 + 1 =
        12 * year + ((5 * ofYear + 2) / 153 + 1) + 2 := by omega
    rw [hsame, hfirst]
    simp only [daysBefore]
    omega

theorem monthIndex_eq {date month : Int} (hlow : firstDay month ≤ date)
    (hhigh : date < firstDay (month + 1)) : monthIndex date = month := by
  have heq := date_eq date
  have hlt := date_lt date
  have hday := (civil_range date).2.1
  by_contra hne
  rcases Int.lt_or_gt_of_ne hne with hless | hmore
  · have hmono : firstDay (monthIndex date + 1) ≤ firstDay month := firstDay_mono (by omega)
    omega
  · have hmono : firstDay (month + 1) ≤ firstDay (monthIndex date) := firstDay_mono (by omega)
    omega

theorem monthIndex_mono {date later : Int} (h : date ≤ later) : monthIndex date ≤ monthIndex later := by
  have heq := date_eq date
  have hlt := date_lt later
  have hday := (civil_range date).2.1
  by_contra hless
  have hmono : firstDay (monthIndex later + 1) ≤ firstDay (monthIndex date) :=
    firstDay_mono (by omega)
  omega

theorem setMonth_add (date count : Int) : setMonth date ((civil date).month + count) =
    firstDay (monthIndex date + count) + (civil date).day - 1 := by
  have hcarry : (12 * (civil date).year + (civil date).month + count) % 12 =
        ((civil date).month + count) % 12 ∧
      (12 * (civil date).year + (civil date).month + count) / 12 =
        (civil date).year + ((civil date).month + count) / 12 := by omega
  simp only [setMonth, firstDay, monthIndex, dayNumber, hcarry, zero_add]
  omega

theorem monthIndex_setMonth_succ (date : Int) :
    monthIndex (setMonth date ((civil date).month + 1)) = monthIndex date + 1 ∧
        (civil (setMonth date ((civil date).month + 1))).day = (civil date).day ∧
        (civil date).day ≤ daysIn (monthIndex date + 1) ∨
      monthIndex (setMonth date ((civil date).month + 1)) = monthIndex date + 2 ∧
        daysIn (monthIndex date + 1) < (civil date).day := by
  have hnext := setMonth_add date 1
  have hday := (civil_range date).2
  have hdays := daysIn_range (monthIndex date + 1)
  have hdays' := daysIn_range (monthIndex date + 1 + 1)
  rw [daysIn] at hdays hdays' ⊢
  by_cases hfits : (civil date).day ≤
      firstDay (monthIndex date + 1 + 1) - firstDay (monthIndex date + 1)
  · have hmonth : monthIndex (setMonth date ((civil date).month + 1)) = monthIndex date + 1 :=
      monthIndex_eq (by omega) (by omega)
    have heq := date_eq (setMonth date ((civil date).month + 1))
    rw [hmonth] at heq
    exact .inl ⟨hmonth, by omega, hfits⟩
  · have hsame : monthIndex date + 2 = monthIndex date + 1 + 1 := by omega
    rw [hsame]
    exact .inr ⟨monthIndex_eq (by omega) (by omega), by omega⟩

end Months

end Calendar
