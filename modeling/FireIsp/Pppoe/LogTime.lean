import FireIsp.Base.Calendar
import FireIsp.Base.Text

/-!
# Times of a router's log

A log entry names its month, day and time, or its time only.  Year and day are those of the current time,
unless that puts the entry more than a day, or more than an hour, ahead of it.
-/

namespace FireIsp.Pppoe

/-- A string. -/
abbrev Text : Type := List Char

section Dates

/-- The farthest time of a date from the epoch, in milliseconds. -/
def maxTime : Int := 8640000000000000

/-- Milliseconds of a day. -/
def msPerDay : Int := 24 * 60 * 60 * 1000

/-- `TimeClip`; an invalid date has no time. -/
def timeClip (time : Int) : Option Int :=
  if -maxTime ≤ time ∧ time ≤ maxTime then some time else none

def makeTime (hours minutes seconds ms : Int) : Int :=
  hours * (60 * 60 * 1000) + minutes * (60 * 1000) + seconds * 1000 + ms

variable (zone : Int)

/-- The local day of a time; the zone is that many seconds ahead. -/
def localDay (time : Int) : Int := (time + 1000 * zone) / msPerDay

def timeInDay (time : Int) : Int := (time + 1000 * zone) % msPerDay

def atLocal (day time : Int) : Option Int := timeClip (day * msPerDay + time - 1000 * zone)

/-- `new Date(year, month, day, hours, minutes, seconds)`, where a year below 100 is one from 1900 on. -/
def newDate (year month day hours minutes seconds : Int) : Option Int :=
  atLocal zone
    (Calendar.dayNumber ⟨if 0 ≤ year ∧ year ≤ 99 then 1900 + year else year, month, day⟩)
    (makeTime hours minutes seconds 0)

/-- `date.getFullYear()` -/
def getFullYear (time : Int) : Int := (Calendar.civil (localDay zone time)).year

/-- `date.getDate()` -/
def getDate (time : Int) : Int := (Calendar.civil (localDay zone time)).day

/-- `date.setHours(hours, minutes, seconds, ms)` -/
def setHours (time hours minutes seconds ms : Int) : Option Int :=
  atLocal zone (localDay zone time) (makeTime hours minutes seconds ms)

/-- `date.setDate(day)` -/
def setDate (time day : Int) : Option Int :=
  atLocal zone (Calendar.setDate (localDay zone time) day) (timeInDay zone time)

/-- A date is later; an invalid one is not. -/
def isAfter (date : Option Int) (time : Int) : Bool := date.any fun own => decide (time < own)

end Dates

section Reading

/-- `MONTHS`, in their order. -/
def months : List Text :=
  ["jan".toList, "feb".toList, "mar".toList, "apr".toList, "may".toList, "jun".toList,
    "jul".toList, "aug".toList, "sep".toList, "oct".toList, "nov".toList, "dec".toList]

/-- From `least` to `most` digits, and what follows them. -/
def digits (least most : Nat) (text : Text) : Option (Nat × Text) :=
  let taken := (text.take most).takeWhile (Numeral.isDigit 10)
  if taken.length < least then none
  else some (Numeral.digitsValue 10 taken, text.drop taken.length)

/-- What follows a character. -/
def after (c : Char) : Text → Option Text
  | [] => none
  | d :: rest => if d = c then some rest else none

/-- A fraction of a second, or nothing. -/
def isFraction : Text → Bool
  | [] => true
  | c :: rest => c = '.' && !rest.isEmpty && rest.all (Numeral.isDigit 10)

/-- A time of the day that a text ends with. -/
structure Clock where
  hours : Nat
  minutes : Nat
  seconds : Nat

/-- `^(\d{1,2}):(\d{2}):(\d{2})(?:\.\d+)?$` -/
def timeOnly (text : Text) : Option Clock := do
  let (hours, rest) ← digits 1 2 text
  let rest ← after ':' rest
  let (minutes, rest) ← digits 2 2 rest
  let rest ← after ':' rest
  let (seconds, rest) ← digits 2 2 rest
  if isFraction rest then some ⟨hours, minutes, seconds⟩ else none

/-- A date with its time. -/
structure Stamp where
  month : Text
  day : Nat
  year : Option Nat
  clock : Clock

/-- `(?:\/(\d{4}))?` -/
def optionalYear (text : Text) : Option (Option Nat × Text) :=
  match after '/' text with
  | none => some (none, text)
  | some rest => (digits 4 4 rest).map fun (year, rest) => (some year, rest)

/-- `^([a-z]{3})\/(\d{1,2})(?:\/(\d{4}))?\s+(\d{1,2}):(\d{2}):(\d{2})(?:\.\d+)?$` -/
def monthDate (text : Text) : Option Stamp := do
  let month := text.take 3
  if month.length = 3 ∧ month.all Char.isAlpha then
    let rest ← after '/' (text.drop 3)
    let (day, rest) ← digits 1 2 rest
    let (year, rest) ← optionalYear rest
    if rest.head?.any Text.isSpace then
      let clock ← timeOnly (rest.dropWhile Text.isSpace)
      return ⟨month, day, year, clock⟩
    else none
  else none

/-- `raw.includes(' ') && !raw.includes('T') ? raw.replace(' ', 'T') : raw` -/
def isoText (raw : Text) : Text :=
  if ' ' ∈ raw ∧ 'T' ∉ raw then
    raw.takeWhile (fun c => c ≠ ' ') ++ 'T' :: (raw.dropWhile fun c => c ≠ ' ').tail
  else raw

/-- What is read; a date may be invalid. -/
inductive Value
  | date (time : Option Int)
  | text (text : Text)
  | other

variable (zone : Int)

/-- The date of a stamp; no result is `null`. -/
def stampDate (stamp : Stamp) (now : Int) : Option (Option Int) :=
  match months.idxOf? (stamp.month.map Char.toLower) with
  | none => none
  | some month =>
    let dateIn (year : Int) := newDate zone year month stamp.day stamp.clock.hours
      stamp.clock.minutes stamp.clock.seconds
    let explicitYear := stamp.year.filter fun year => year ≠ 0
    let year := (explicitYear.map Int.ofNat).getD (getFullYear zone now)
    let date := dateIn year
    let date :=
      if explicitYear.isNone && isAfter date (now + 24 * 60 * 60 * 1000) then dateIn (year - 1)
      else date
    date.map some

/-- The date of a time only, which may be invalid. -/
def clockDate (clock : Clock) (now : Int) : Option Int :=
  let date := setHours zone now clock.hours clock.minutes clock.seconds 0
  if isAfter date (now + 60 * 60 * 1000) then
    date.bind fun time => setDate zone time (getDate zone time - 1)
  else date

/-- `parseRouterLogTime`, with what `Date` makes of another text; no result is `null`. -/
def parseRouterLogTime (parseDate : Text → Option Int) (value : Value) (now : Int) :
    Option (Option Int) :=
  match value with
  | .date time => time.map some
  | .other => none
  | .text text =>
    let raw := Text.trimmed (String.ofList text)
    if raw = [] then none
    else
      match monthDate raw with
      | some stamp => stampDate zone stamp now
      | none =>
        match timeOnly raw with
        | some clock => some (clockDate zone clock now)
        | none => (parseDate (isoText raw)).map some

end Reading

section Writing

def two (n : Nat) : Text := [Nat.digitChar (n / 10), Nat.digitChar (n % 10)]

/-- How a log entry gives its time. -/
inductive Form
  | dated
  | timed

variable (zone : Int)

def wholeSecond (instant : Int) : Int := 1000 * (instant / 1000)

def clockOf (instant : Int) : Clock :=
  let seconds := (timeInDay zone instant / 1000).toNat
  ⟨seconds / 3600, seconds / 60 % 60, seconds % 60⟩

/-- The text of a time of the day. -/
def Clock.text (clock : Clock) : Text :=
  two clock.hours ++ ':' :: two clock.minutes ++ ':' :: two clock.seconds

/-- The text of an instant in the local calendar. -/
def Form.text (form : Form) (instant : Int) : Text :=
  match form with
  | .dated =>
    let day := Calendar.civil (localDay zone instant)
    (months[day.month.toNat]?).getD [] ++ '/' :: two day.day.toNat ++
      ' ' :: (clockOf zone instant).text
  | .timed => (clockOf zone instant).text

end Writing

section Reads

theorem digitChar_digit {n : Nat} (h : n < 10) :
    Numeral.hexDigit (Nat.digitChar n) = some n ∧
      Numeral.isDigit 10 (Nat.digitChar n) = true ∧
      Text.isSpace (Nat.digitChar n) = false ∧ (Nat.digitChar n).isAlpha = false := by
  revert n
  decide

theorem digits_two {n least : Nat} (rest : Text) (h : n < 100) (hleast : least ≤ 2) :
    digits least 2 (two n ++ rest) = some (n, rest) := by
  obtain ⟨htens, htens', -⟩ := digitChar_digit (n := n / 10) (by omega)
  obtain ⟨hones, hones', -⟩ := digitChar_digit (n := n % 10) (by omega)
  have htaken : ((two n ++ rest).take 2).takeWhile (Numeral.isDigit 10) = two n := by
    simp only [two, List.cons_append, List.take_succ_cons, List.take_zero,
      List.takeWhile_cons_of_pos htens', List.takeWhile_cons_of_pos hones', List.takeWhile_nil,
      List.nil_append]
  have hvalue : Numeral.digitsValue 10 (two n) = n := by
    simp only [Numeral.digitsValue, two, List.foldl_cons, List.foldl_nil, htens, hones,
      Option.getD_some]
    omega
  simp only [digits, htaken]
  rw [if_neg (by simpa [two] using hleast), hvalue]
  rfl

/-- A time of the day is in its ranges. -/
structure Clock.Valid (clock : Clock) : Prop where
  hours : clock.hours < 24
  minutes : clock.minutes < 60
  seconds : clock.seconds < 60

theorem after_self (c : Char) (rest : Text) : after c (c :: rest) = some rest := by
  rw [after, if_pos rfl]

variable {clock : Clock}

theorem timeOnly_text (h : clock.Valid) : timeOnly clock.text = some clock := by
  have hhours := @digits_two clock.hours 1 (':' :: two clock.minutes ++ ':' :: two clock.seconds)
    (h.hours.trans (by decide)) (by decide)
  have hminutes := @digits_two clock.minutes 2 (':' :: two clock.seconds)
    (h.minutes.trans (by decide)) (by decide)
  have hseconds := @digits_two clock.seconds 2 [] (h.seconds.trans (by decide)) (by decide)
  rw [List.append_nil] at hseconds
  rw [timeOnly, Clock.text, List.append_assoc, hhours]
  simp only [Option.bind_eq_bind, Option.bind_some, List.cons_append, after_self, hminutes,
    hseconds]
  rfl

variable {month : Nat}

theorem month_spec (h : month < 12) :
    ((months[month]?).getD []).length = 3 ∧
      ((months[month]?).getD []).all Char.isAlpha = true ∧
      months.idxOf? (((months[month]?).getD []).map Char.toLower) = some month := by
  revert month
  decide

theorem month_cons (h : month < 12) :
    ∃ c rest, (months[month]?).getD [] = c :: rest ∧ Text.isSpace c = false := by
  have hhead : ((months[month]?).getD []).head?.any (fun c => !Text.isSpace c) = true := by
    revert month
    decide
  cases hmonth : (months[month]?).getD [] with
  | nil =>
    rw [hmonth] at hhead
    cases hhead
  | cons c rest =>
    rw [hmonth] at hhead
    exact ⟨c, rest, rfl, by simpa using hhead⟩

theorem clock_ends (h : clock.Valid) : ∃ first middle last,
    clock.text = first :: middle ++ [last] ∧ Text.isSpace first = false ∧
      first.isAlpha = false ∧ Text.isSpace last = false := by
  have hhours := h.hours
  have hseconds := h.seconds
  obtain ⟨-, -, hspace, halpha⟩ := digitChar_digit (n := clock.hours / 10) (by omega)
  obtain ⟨-, -, hspace', -⟩ := digitChar_digit (n := clock.seconds % 10) (by omega)
  refine ⟨_, Nat.digitChar (clock.hours % 10) ::
    ':' :: two clock.minutes ++ [':', Nat.digitChar (clock.seconds / 10)], _, ?_, hspace, halpha,
    hspace'⟩
  simp only [Clock.text, two, List.cons_append, List.nil_append]

theorem monthDate_text {day : Nat} (hmonth : month < 12) (hday : day < 100) (h : clock.Valid) :
    monthDate ((months[month]?).getD [] ++ '/' :: two day ++ ' ' :: clock.text) =
      some ⟨(months[month]?).getD [], day, none, clock⟩ := by
  obtain ⟨hlength, halpha, -⟩ := month_spec hmonth
  obtain ⟨first, middle, last, hclock, hspace, -⟩ := clock_ends h
  have hdigits := @digits_two day 1 (' ' :: clock.text) hday (by decide)
  have hyear : optionalYear (' ' :: clock.text) = some (none, ' ' :: clock.text) := rfl
  have hspaces : (' ' :: clock.text).dropWhile Text.isSpace = clock.text := by
    rw [List.dropWhile_cons_of_pos (by decide), hclock, List.cons_append,
      List.dropWhile_cons_of_neg (by simp [hspace])]
  rw [monthDate, List.append_assoc, List.take_left' hlength, List.drop_left' hlength]
  simp only [hlength, halpha, and_self, if_true, List.cons_append, after_self, Option.bind_eq_bind,
    Option.bind_some, hdigits, hyear, hspaces, timeOnly_text h]
  rfl

theorem monthDate_clock (h : clock.Valid) : monthDate clock.text = none := by
  obtain ⟨first, middle, last, hclock, -, hfirst, -⟩ := clock_ends h
  rw [monthDate, if_neg]
  rintro ⟨-, halpha⟩
  rw [hclock, List.cons_append, List.take_succ_cons, List.all_cons, hfirst] at halpha
  cases halpha

theorem trimmed_clock (h : clock.Valid) (before : Text)
    (hbefore : ∀ c ∈ before.head?, Text.isSpace c = false) :
    Text.trimmed (String.ofList (before ++ clock.text)) = before ++ clock.text := by
  obtain ⟨first, middle, last, hclock, hfirst, -, hlast⟩ := clock_ends h
  refine Text.trimmed_of_ends (fun c hc => ?_) fun c hc => ?_
  · cases before with
    | nil =>
      rw [hclock] at hc
      obtain rfl := Option.some.inj hc
      exact hfirst
    | cons d before => exact hbefore c hc
  · rw [hclock, ← List.append_assoc, List.getLast?_concat] at hc
    obtain rfl := Option.some.inj hc
    exact hlast

end Reads

section Instants

variable {zone instant now : Int}

theorem local_split (zone time : Int) :
    localDay zone time * msPerDay + timeInDay zone time - 1000 * zone = time ∧
      0 ≤ timeInDay zone time ∧ timeInDay zone time < msPerDay := by
  simp only [localDay, timeInDay, msPerDay]
  omega

theorem clockOf_valid (zone instant : Int) : (clockOf zone instant).Valid := by
  obtain ⟨-, hlow, hhigh⟩ := local_split zone instant
  simp only [msPerDay] at hhigh
  have hseconds : (timeInDay zone instant / 1000).toNat < 86400 := by omega
  exact ⟨Nat.div_lt_of_lt_mul hseconds, Nat.mod_lt _ (by decide), Nat.mod_lt _ (by decide)⟩

theorem atLocal_clock (zone instant days : Int) :
    atLocal zone (localDay zone instant + days) (makeTime (clockOf zone instant).hours
      (clockOf zone instant).minutes (clockOf zone instant).seconds 0) =
        timeClip (wholeSecond instant + days * msPerDay) := by
  obtain ⟨htime, hlow, hhigh⟩ := local_split zone instant
  have hmake : makeTime (clockOf zone instant).hours (clockOf zone instant).minutes
      (clockOf zone instant).seconds 0 = 1000 * (timeInDay zone instant / 1000) := by
    simp only [makeTime, clockOf]
    omega
  rw [atLocal, hmake]
  congr 1
  simp only [wholeSecond, msPerDay] at htime ⊢
  omega

theorem setHours_clock {days : Int} (h : localDay zone now = localDay zone instant + days) :
    setHours zone now (clockOf zone instant).hours (clockOf zone instant).minutes
      (clockOf zone instant).seconds 0 = timeClip (wholeSecond instant + days * msPerDay) := by
  rw [setHours, h, atLocal_clock]

theorem setDate_days (zone time days : Int) :
    setDate zone time (getDate zone time + days) = timeClip (time + days * msPerDay) := by
  obtain ⟨htime, -, -⟩ := local_split zone time
  rw [setDate, getDate, Calendar.setDate_day, atLocal]
  congr 1
  simp only [msPerDay] at htime ⊢
  omega

theorem timeClip_of_le {time : Int} (hlow : -maxTime ≤ time) (hhigh : time ≤ maxTime) :
    timeClip time = some time := if_pos ⟨hlow, hhigh⟩

/-- How far back a form reaches. -/
def Form.span : Form → Int
  | .dated => 364 * msPerDay
  | .timed => 23 * 60 * 60 * 1000

/-- How far ahead a guess may be that is not of the same year, or of the same day. -/
def Form.ahead : Form → Int
  | .dated => 366 * msPerDay
  | .timed => msPerDay

/-- What a form leaves out is the same for two times. -/
def Form.Same (form : Form) (zone instant now : Int) : Prop :=
  match form with
  | .dated => getFullYear zone now = getFullYear zone instant
  | .timed => localDay zone now = localDay zone instant

/-- A year that `Date` takes for one from 1900 on. -/
def TwoDigits (year : Int) : Prop := 0 ≤ year ∧ year ≤ 99

/-- The whole second of an instant is within the reach of a form, and so are the dates that are tried. -/
structure Form.Recent (form : Form) (zone instant now : Int) : Prop where
  valid : -maxTime ≤ instant
  past : instant ≤ now
  current : now ≤ maxTime
  recent : now < wholeSecond instant + form.span
  years : form = .dated → ¬TwoDigits (getFullYear zone instant) ∧ ¬TwoDigits (getFullYear zone now)
  finish : form.Same zone instant now ∨ now + form.ahead ≤ maxTime

theorem wholeSecond_spec (instant : Int) :
    wholeSecond instant ≤ instant ∧ instant < wholeSecond instant + 1000 := by
  simp only [wholeSecond]
  omega

theorem wholeSecond_valid (h : -maxTime ≤ instant) : -maxTime ≤ wholeSecond instant := by
  simp only [wholeSecond, maxTime] at h ⊢
  omega

theorem isAfter_some (time other : Int) : isAfter (some time) other = decide (other < time) := rfl

theorem stampDate_text (h : Form.dated.Recent zone instant now) :
    stampDate zone ⟨(months[(Calendar.civil (localDay zone instant)).month.toNat]?).getD [],
      (Calendar.civil (localDay zone instant)).day.toNat, none, clockOf zone instant⟩ now =
        some (some (wholeSecond instant)) := by
  obtain ⟨hmonth, hday⟩ := Calendar.civil_range (localDay zone instant)
  have hmonth' : (Calendar.civil (localDay zone instant)).month.toNat < 12 := by omega
  obtain ⟨-, -, hindex⟩ := month_spec hmonth'
  obtain ⟨hwhole, hwhole'⟩ := wholeSecond_spec instant
  have hvalid := wholeSecond_valid h.valid
  have hrecent := h.recent
  have hfinish := h.finish
  have hpast := h.past
  obtain ⟨hyear, hyear'⟩ := h.years rfl
  simp only [Form.span, Form.ahead, Form.Same, getFullYear, msPerDay] at hrecent hfinish hyear hyear'
  -- what a year makes of the parts of the instant
  have hdate : ∀ year days, ¬TwoDigits year → Calendar.dayNumber ⟨year,
      (Calendar.civil (localDay zone instant)).month,
      (Calendar.civil (localDay zone instant)).day⟩ = localDay zone instant + days →
      newDate zone year (Calendar.civil (localDay zone instant)).month.toNat
        (Calendar.civil (localDay zone instant)).day.toNat (clockOf zone instant).hours
        (clockOf zone instant).minutes (clockOf zone instant).seconds =
          timeClip (wholeSecond instant + days * msPerDay) := by
    intro year days hyear hdays
    have hsmall : ¬(0 ≤ year ∧ year ≤ 99) := hyear
    rw [newDate, if_neg hsmall, Int.toNat_of_nonneg hmonth.1, Int.toNat_of_nonneg (by omega), hdays,
      atLocal_clock]
  have hown := hdate _ 0 hyear (by rw [add_zero]; exact Calendar.dayNumber_civil _)
  rw [zero_mul, add_zero, timeClip_of_le hvalid (hwhole.trans (hpast.trans h.current))] at hown
  have hnear : localDay zone instant ≤ localDay zone now ∧
      localDay zone now < localDay zone instant + 365 := by
    simp only [localDay, msPerDay]
    omega
  simp only [stampDate, hindex, Option.filter_none, Option.map_none, Option.getD_none,
    Option.isNone_none, Bool.true_and, getFullYear]
  rcases Calendar.civil_year_near hnear.1 hnear.2 with hsame | hnext
  · rw [hsame, hown, isAfter_some, if_neg, Option.map_some]
    simp only [decide_eq_true_eq]
    omega
  · obtain ⟨hlow, hhigh⟩ := Calendar.dayNumber_succ_year
      (Calendar.civil (localDay zone instant)).year
      (Calendar.civil (localDay zone instant)).month (Calendar.civil (localDay zone instant)).day
    have hcivil : Calendar.dayNumber ⟨(Calendar.civil (localDay zone instant)).year,
        (Calendar.civil (localDay zone instant)).month,
        (Calendar.civil (localDay zone instant)).day⟩ = localDay zone instant :=
      Calendar.dayNumber_civil _
    obtain ⟨days, hdays⟩ : ∃ days, Calendar.dayNumber
        ⟨(Calendar.civil (localDay zone instant)).year + 1,
          (Calendar.civil (localDay zone instant)).month,
          (Calendar.civil (localDay zone instant)).day⟩ = localDay zone instant + days :=
      ⟨_, (add_sub_cancel _ _).symm⟩
    rw [hnext] at hyear' hfinish
    have hahead := hfinish.resolve_left (by omega)
    have hguess := hdate _ days hyear' hdays
    simp only [msPerDay] at hguess
    rw [timeClip_of_le (by omega) (by omega)] at hguess
    rw [hnext, hguess, isAfter_some, if_pos, add_sub_cancel_right, hown, Option.map_some]
    simp only [decide_eq_true_eq]
    omega

theorem clockDate_text (h : Form.timed.Recent zone instant now) :
    clockDate zone (clockOf zone instant) now = some (wholeSecond instant) := by
  obtain ⟨hwhole, hwhole'⟩ := wholeSecond_spec instant
  have hvalid := wholeSecond_valid h.valid
  have hrecent := h.recent
  have hfinish := h.finish
  have hpast := h.past
  simp only [Form.span, Form.ahead, Form.Same, msPerDay] at hrecent hfinish
  have hnear : localDay zone now = localDay zone instant ∨
      localDay zone now = localDay zone instant + 1 := by
    simp only [localDay, msPerDay]
    omega
  simp only [clockDate]
  rcases hnear with hsame | hnext
  · have hset := setHours_clock (hsame.trans (add_zero _).symm)
    rw [zero_mul, add_zero, timeClip_of_le hvalid (hwhole.trans (hpast.trans h.current))] at hset
    rw [hset, isAfter_some, if_neg]
    simp only [decide_eq_true_eq]
    omega
  · have hahead := hfinish.resolve_left (by omega)
    have hset := setHours_clock hnext
    simp only [msPerDay] at hset
    rw [timeClip_of_le (by omega) (by omega)] at hset
    rw [hset, isAfter_some, if_pos, Option.bind_some, sub_eq_add_neg, setDate_days]
    · simp only [msPerDay]
      rw [timeClip_of_le (by omega) (by omega)]
      congr 1
      omega
    · simp only [decide_eq_true_eq]
      omega

/-- A text of a recent instant is read as its whole second. -/
theorem parse_text (parseDate : Text → Option Int) {form : Form}
    (h : form.Recent zone instant now) :
    parseRouterLogTime zone parseDate (.text (form.text zone instant)) now =
      some (some (wholeSecond instant)) := by
  have hclock := clockOf_valid zone instant
  obtain ⟨first, middle, last, hends, -⟩ := clock_ends hclock
  cases form with
  | dated =>
    obtain ⟨hmonth, hday⟩ := Calendar.civil_range (localDay zone instant)
    have hmonth' : (Calendar.civil (localDay zone instant)).month.toNat < 12 := by omega
    obtain ⟨c, rest, hcons, hspace⟩ := month_cons hmonth'
    have hraw := trimmed_clock hclock
      ((months[(Calendar.civil (localDay zone instant)).month.toNat]?).getD [] ++
        '/' :: two (Calendar.civil (localDay zone instant)).day.toNat ++ [' ']) fun d hd => by
      rw [hcons] at hd
      obtain rfl := Option.some.inj hd
      exact hspace
    rw [List.append_assoc, List.singleton_append] at hraw
    have hne : Form.dated.text zone instant ≠ [] := by
      rw [Form.text]
      exact List.append_ne_nil_of_right_ne_nil _ (List.cons_ne_nil _ _)
    simp only [parseRouterLogTime, Form.text, hraw] at hne ⊢
    rw [if_neg hne, monthDate_text hmonth' (by omega) hclock]
    exact stampDate_text h
  | timed =>
    have hraw := trimmed_clock hclock [] fun _ h => by cases h
    rw [List.nil_append] at hraw
    have hne : (clockOf zone instant).text ≠ [] := by
      rw [hends]
      exact List.cons_ne_nil _ _
    simp only [parseRouterLogTime, Form.text, hraw, if_neg hne, monthDate_clock hclock,
      timeOnly_text hclock, clockDate_text h]

/-- Noon on the day before the current time. -/
theorem parse_text_noon :
    parseRouterLogTime (-18000) (fun _ => none) (.text "jul/20 12:00:00".toList) 1784638800500 =
      some (some 1784566800000) :=
  @parse_text (-18000) 1784566800321 1784638800500 (fun _ => none) .dated
    { valid := by decide
      past := by decide
      current := by decide
      recent := by decide
      years := fun _ => ⟨fun h => absurd h.2 (by decide), fun h => absurd h.2 (by decide)⟩
      finish := Or.inr (by decide) }

/-- Instants missed by their day, hour or second, in the year 99, or on no date of this year. -/
theorem parse_text_fails :
    (1784635200500 - 364 * msPerDay < 1753185600800 ∧
      Form.dated.text 0 1753185600800 = "jul/22 12:00:00".toList ∧
      parseRouterLogTime 0 (fun _ => none) (.text "jul/22 12:00:00".toList) 1784635200500 =
        some (some 1784721600000)) ∧
    (1784635200500 - 23 * 60 * 60 * 1000 < 1784552400800 ∧
      Form.timed.text 0 1784552400800 = "13:00:00".toList ∧
      parseRouterLogTime 0 (fun _ => none) (.text "13:00:00".toList) 1784635200500 =
        some (some 1784638800000)) ∧
    (Form.dated.text 0 (-59030035200000) = "may/31 00:00:00".toList ∧
      parseRouterLogTime 0 (fun _ => none) (.text "may/31 00:00:00".toList) (-59029948800000) =
        some (some 896572800000)) ∧
    Form.dated.text 0 (maxTime - 287 * msPerDay) = "dec/01 00:00:00".toList ∧
      parseRouterLogTime 0 (fun _ => none) (.text "dec/01 00:00:00".toList) maxTime = none := by
  decide

end Instants

end FireIsp.Pppoe
