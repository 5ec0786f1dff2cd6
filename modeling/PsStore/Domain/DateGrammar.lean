import Mathlib.Data.List.TakeWhile
import Mathlib.Tactic.Linarith
import Mathlib.Tactic.Positivity
import PsStore.Domain.DateForm

set_option relaxedAutoImplicit false
set_option autoImplicit false

/-!
# The grammar of date texts

The documented forms of a date text, as a grammar over its characters, and the instant that a text
of the grammar names in the proleptic Gregorian calendar. `parse_date_ms` reads a `-` after a year
or after a month as the start of the next part of the date, so it does not read a text in which a
negative offset follows there at once.

## Main definitions

* `Digits`, `YearText`, `DayText`, `TimeText`, `ZoneText` — the parts of a date text.
* `DateReading` — a text with its parts, each in its range; `DateReading.instant` — its instant.
* `DateReading.Misread` — a negative offset follows the year or the month at once.

## Main results

* `parseDateMs_eq_some_iff` — the texts that `parse_date_ms` reads, and their instants.
-/

namespace PsStore

/-! ## The grammar -/

/-- The value of decimal digits. -/
def decimalValue (digits : List Char) : ℤ :=
  digits.foldl (fun value c => value * 10 + digitValue c) 0

/-- A text of exactly `count` ASCII digits, and its value. -/
structure Digits (count : ℕ) (text : List Char) (value : ℤ) : Prop where
  length : text.length = count
  digits : ∀ c ∈ text, isDigit c = true
  value : decimalValue text = value

/-- `YYYY` or `±YYYYYY`, without `-000000`. -/
inductive YearText : List Char → ℤ → Prop
  | plain {text : List Char} {value : ℤ} (h : Digits 4 text value) : YearText text value
  | positive {text : List Char} {value : ℤ} (h : Digits 6 text value) :
      YearText ('+' :: text) value
  | negative {text : List Char} {value : ℤ} (h : Digits 6 text value) (hne : value ≠ 0) :
      YearText ('-' :: text) (-value)

/-- The rest of a date after its year: nothing, `-MM`, or `-MM-DD`. -/
inductive DayText : List Char → ℤ → ℤ → Prop
  | year : DayText [] 1 1
  | month {text : List Char} {month : ℤ} (h : Digits 2 text month) :
      DayText ('-' :: text) month 1
  | day {monthText dayText : List Char} {month day : ℤ} (hmonth : Digits 2 monthText month)
      (hday : Digits 2 dayText day) : DayText ('-' :: (monthText ++ '-' :: dayText)) month day

/-- The characters before a time. -/
def timeMarks : List Char := ['T', 't', ' ']

/-- Nothing, or after a mark `HH:mm`, `HH:mm:ss` or `HH:mm:ss.f…`. A fraction of any length is
truncated to milliseconds. -/
inductive TimeText : List Char → TimeOfDay → Prop
  | none : TimeText [] {}
  | minutes {mark : Char} {hourText minuteText : List Char} {hour minute : ℤ}
      (hmark : mark ∈ timeMarks) (hhour : Digits 2 hourText hour)
      (hminute : Digits 2 minuteText minute) :
      TimeText (mark :: (hourText ++ ':' :: minuteText)) { hour, minute }
  | seconds {mark : Char} {hourText minuteText secondText : List Char} {hour minute second : ℤ}
      (hmark : mark ∈ timeMarks) (hhour : Digits 2 hourText hour)
      (hminute : Digits 2 minuteText minute) (hsecond : Digits 2 secondText second) :
      TimeText (mark :: (hourText ++ ':' :: (minuteText ++ ':' :: secondText)))
        { hour, minute, second }
  | fraction {mark : Char} {hourText minuteText secondText digits : List Char}
      {hour minute second value : ℤ} (hmark : mark ∈ timeMarks) (hhour : Digits 2 hourText hour)
      (hminute : Digits 2 minuteText minute) (hsecond : Digits 2 secondText second)
      (hne : digits ≠ []) (hdigits : Digits digits.length digits value) :
      TimeText (mark :: (hourText ++ ':' :: (minuteText ++ ':' :: (secondText ++ '.' :: digits))))
        { hour, minute, second, millisecond := value * 1000 / 10 ^ digits.length }

/-- Nothing, `Z`, `z`, `±HH:mm`, or `±HHmm`, in seconds east of UTC. -/
inductive ZoneText : List Char → ℤ → Prop
  | none : ZoneText [] 0
  | utc {mark : Char} (h : mark ∈ ['Z', 'z']) : ZoneText [mark] 0
  | offset {sign : Char} {factor hours minutes : ℤ} {hourText separator minuteText : List Char}
      (hsign : (sign, factor) ∈ [('+', (1 : ℤ)), ('-', -1)]) (hhours : Digits 2 hourText hours)
      (hseparator : separator ∈ [[], [':']]) (hminutes : Digits 2 minuteText minutes)
      (hrange : hours ≤ 23 ∧ minutes ≤ 59) :
      ZoneText (sign :: (hourText ++ (separator ++ minuteText)))
        (factor * (hours * 3600 + minutes * 60))

/-- A date text with its parts. The parts are in range: a month from 1 to 12, a day from 1 to 31 in
any month, and a time up to `23:59:59.999` or exactly `24:00`. -/
structure DateReading (text : List Char) where
  yearText : List Char
  dayText : List Char
  timeText : List Char
  zoneText : List Char
  year : ℤ
  month : ℤ
  day : ℤ
  time : TimeOfDay
  offset : ℤ
  /-- The parts make the text. -/
  parts : text = yearText ++ (dayText ++ (timeText ++ zoneText))
  year_spec : YearText yearText year
  day_spec : DayText dayText month day
  time_spec : TimeText timeText time
  zone_spec : ZoneText zoneText offset
  month_range : 1 ≤ month ∧ month ≤ 12
  day_range : 1 ≤ day ∧ day ≤ 31
  hour_range : time.hour ≤ 23 ∨ time.endOfDay = true
  minute_range : time.minute ≤ 59
  second_range : time.second ≤ 59

namespace DateReading

variable {text : List Char}

/-- The instant in milliseconds: a day past the end of its month counts into the next month, and
the hour 24 into the next day. -/
def instant (reading : DateReading text) : ℤ :=
  daysFromCivil reading.year reading.month reading.day * 86400000 + reading.time.ms -
    reading.offset * 1000

/-- A negative offset follows the year or the month at once. -/
def Misread (reading : DateReading text) : Prop :=
  reading.dayText.length < 6 ∧ reading.timeText = [] ∧ reading.zoneText.head? = some '-'

end DateReading

/-! ## Digits -/

namespace Cursor

/-- The digits that a cursor reads.

**Proof sketch.** By induction on the count. The first character must be a digit, and the rest of
the digits start from the value with this digit appended. -/
lemma digitsFrom_eq_some_iff {count : ℕ} {value result : ℤ} {cursor rest : Cursor} :
    digitsFrom count value cursor = some (result, rest) ↔
      ∃ digits, cursor = digits ++ rest ∧ digits.length = count ∧
        (∀ c ∈ digits, isDigit c = true) ∧
        digits.foldl (fun value c => value * 10 + digitValue c) value = result := by
  induction count generalizing value cursor with
  | zero =>
    rw [digitsFrom, Option.some.injEq, Prod.mk.injEq]
    constructor
    · intro h
      obtain ⟨rfl, rfl⟩ := h
      exact ⟨[], rfl, rfl, by simp, rfl⟩
    · intro h
      obtain ⟨digits, rfl, hlength, -, rfl⟩ := h
      rw [List.length_eq_zero_iff.mp hlength]
      exact ⟨rfl, rfl⟩
  | succ count ih =>
    cases cursor with
    | nil =>
      constructor
      · intro h
        cases h
      · intro h
        obtain ⟨digits, hnil, hlength, -⟩ := h
        rw [(List.append_eq_nil_iff.mp hnil.symm).1] at hlength
        cases hlength
    | cons c tail =>
      rw [digitsFrom]
      constructor
      · intro h
        split_ifs at h with hc
        obtain ⟨digits, rfl, hlength, hdigits, hvalue⟩ := ih.mp h
        refine ⟨c :: digits, rfl, by rw [List.length_cons, hlength], ?_, hvalue⟩
        exact List.forall_mem_cons.mpr ⟨hc, hdigits⟩
      · intro h
        obtain ⟨digits, hcursor, hlength, hdigits, hvalue⟩ := h
        cases digits with
        | nil => cases hlength
        | cons d digits =>
          obtain ⟨rfl, rfl⟩ := List.cons.inj hcursor
          obtain ⟨hc, hdigits⟩ := List.forall_mem_cons.mp hdigits
          rw [if_pos hc, ih]
          exact ⟨digits, rfl, Nat.succ.inj hlength, hdigits, hvalue⟩

/-- **The digits that a cursor reads** are a text of exactly as many digits. -/
lemma digits_eq_some_iff {count : ℕ} {value : ℤ} {cursor rest : Cursor} :
    digits count cursor = some (value, rest) ↔
      ∃ text, cursor = text ++ rest ∧ Digits count text value := by
  unfold digits
  rw [digitsFrom_eq_some_iff]
  constructor
  · intro h
    obtain ⟨text, hcursor, hlength, hdigits, hvalue⟩ := h
    exact ⟨text, hcursor, hlength, hdigits, hvalue⟩
  · intro h
    obtain ⟨text, hcursor, hdigits⟩ := h
    exact ⟨text, hcursor, hdigits.length, hdigits.digits, hdigits.value⟩

/-- Written digits are read. -/
lemma digits_append {count : ℕ} {value : ℤ} {text : List Char} (h : Digits count text value)
    (rest : Cursor) : digits count (text ++ rest) = some (value, rest) :=
  digits_eq_some_iff.mpr ⟨text, rfl, h⟩

/-- Digits that are read are written. -/
lemma exists_of_digits {count : ℕ} {value : ℤ} {cursor rest : Cursor}
    (h : digits count cursor = some (value, rest)) :
    ∃ text, cursor = text ++ rest ∧ Digits count text value :=
  digits_eq_some_iff.mp h

/-! ## The parts of a date -/

/-- A written year is read. -/
lemma year_append {text : List Char} {value : ℤ} (h : YearText text value) (rest : Cursor) :
    year (text ++ rest) = some (value, rest) := by
  cases h with
  | plain h =>
    cases text with
    | nil => cases h.length
    | cons c text =>
      rw [List.cons_append, year_of_isDigit (h.digits c List.mem_cons_self), ← List.cons_append]
      exact digits_append h rest
  | positive h => exact digits_append h rest
  | negative h hne =>
    rw [List.cons_append, year, digits_append h, Option.bind_eq_bind, Option.bind_some]
    exact if_pos hne

/-- A year that is read is written. -/
lemma exists_of_year {cursor rest : Cursor} {value : ℤ} (h : year cursor = some (value, rest)) :
    ∃ text, cursor = text ++ rest ∧ YearText text value := by
  unfold year at h
  split at h
  · obtain ⟨text, rfl, hdigits⟩ := exists_of_digits h
    exact ⟨'+' :: text, rfl, .positive hdigits⟩
  · obtain ⟨⟨value, tail⟩, hread, h⟩ := Option.bind_eq_some_iff.mp h
    dsimp only at h
    split_ifs at h with hne
    obtain ⟨rfl, rfl⟩ := Prod.mk.inj (Option.some.inj h)
    obtain ⟨text, rfl, hdigits⟩ := exists_of_digits hread
    exact ⟨'-' :: text, rfl, .negative hdigits hne⟩
  · obtain ⟨text, rfl, hdigits⟩ := exists_of_digits h
    exact ⟨text, rfl, .plain hdigits⟩

/-- An option that comes next is read. -/
lemma eatAny_cons {options : List Char} {c : Char} (h : c ∈ options) (rest : Cursor) :
    eatAny options (c :: rest) = (true, rest) := if_pos h

/-- A cursor stays where no option comes next. -/
lemma eatAny_of_head {options : List Char} {cursor : Cursor}
    (h : ∀ c ∈ cursor.head?, c ∉ options) : eatAny options cursor = (false, cursor) := by
  cases cursor with
  | nil => rfl
  | cons c rest => exact if_neg (h c rfl)

/-- A cursor reads an option where one comes next, and stays otherwise. -/
lemma eatAny_cases (options : List Char) (cursor : Cursor) :
    (∃ c rest, cursor = c :: rest ∧ c ∈ options ∧ eatAny options cursor = (true, rest)) ∨
      ((∀ c ∈ cursor.head?, c ∉ options) ∧ eatAny options cursor = (false, cursor)) := by
  by_cases h : ∀ c ∈ cursor.head?, c ∉ options
  · exact Or.inr ⟨h, eatAny_of_head h⟩
  · cases cursor with
    | nil => exact absurd (fun c hc => nomatch hc) h
    | cons c rest =>
      have hc : c ∈ options := by
        by_contra hc
        apply h
        intro d hd
        obtain rfl := Option.some.inj hd
        exact hc
      exact Or.inl ⟨c, rest, rfl, hc, eatAny_cons hc rest⟩

/-- The character that comes next is read. -/
lemma eat_cons (c : Char) (rest : Cursor) : eat c (c :: rest) = (true, rest) :=
  eatAny_cons (List.mem_singleton_self c) rest

/-- A cursor stays where another character comes next. -/
lemma eat_of_head {c : Char} {cursor : Cursor} (h : cursor.head? ≠ some c) :
    eat c cursor = (false, cursor) := by
  apply eatAny_of_head
  intro d hd hmem
  rw [List.mem_singleton] at hmem
  subst hmem
  exact h hd

/-- A cursor reads a character where it comes next, and stays otherwise. -/
lemma eat_cases (c : Char) (cursor : Cursor) :
    (∃ rest, cursor = c :: rest ∧ eat c cursor = (true, rest)) ∨
      (cursor.head? ≠ some c ∧ eat c cursor = (false, cursor)) := by
  by_cases h : cursor.head? = some c
  · obtain ⟨rest, rfl⟩ := List.head?_eq_some_iff.mp h
    exact Or.inl ⟨rest, rfl, eat_cons c rest⟩
  · exact Or.inr ⟨h, eat_of_head h⟩

/-- A written month and day are read, unless what follows would be read as a part of the date. -/
lemma monthDay_append {text : List Char} {month day : ℤ} (h : DayText text month day)
    {rest : Cursor} (hrest : text.length < 6 → rest.head? ≠ some '-') :
    monthDay (text ++ rest) = some (month, day, rest) := by
  cases h with
  | year =>
    unfold monthDay
    rw [List.nil_append, eat_of_head (hrest (by decide))]
  | @month text _ hmonth =>
    have hnext : rest.head? ≠ some '-' := by
      apply hrest
      rw [List.length_cons, hmonth.length]
      decide
    unfold monthDay
    rw [List.cons_append, eat_cons]
    dsimp only
    rw [digits_append hmonth, Option.bind_eq_bind, Option.bind_some]
    dsimp only
    rw [eat_of_head hnext]
  | day hmonth hday =>
    unfold monthDay
    rw [List.cons_append, List.append_assoc, eat_cons]
    dsimp only
    rw [digits_append hmonth, Option.bind_eq_bind, Option.bind_some]
    dsimp only
    rw [List.cons_append, eat_cons]
    dsimp only
    rw [digits_append hday]
    rfl

/-- A month and a day that are read are written. -/
lemma exists_of_monthDay {cursor rest : Cursor} {month day : ℤ}
    (h : monthDay cursor = some (month, day, rest)) :
    ∃ text, cursor = text ++ rest ∧ DayText text month day ∧
      (text.length < 6 → rest.head? ≠ some '-') := by
  unfold monthDay at h
  rcases eat_cases '-' cursor with ⟨tail, rfl, heat⟩ | ⟨hhead, heat⟩
  · rw [heat] at h
    dsimp only at h
    obtain ⟨⟨readMonth, tail'⟩, hread, hafter⟩ := Option.bind_eq_some_iff.mp h
    obtain ⟨monthText, rfl, hmonth⟩ := exists_of_digits hread
    dsimp only at hafter
    rcases eat_cases '-' tail' with ⟨tail, rfl, heat⟩ | ⟨hhead, heat⟩
    · rw [heat] at hafter
      dsimp only at hafter
      obtain ⟨⟨readDay, tail'⟩, hread, hend⟩ := Option.bind_eq_some_iff.mp hafter
      obtain ⟨dayText, rfl, hday⟩ := exists_of_digits hread
      obtain ⟨rfl, hrest⟩ := Prod.mk.inj (Option.some.inj hend)
      obtain ⟨rfl, rfl⟩ := Prod.mk.inj hrest
      refine ⟨'-' :: (monthText ++ '-' :: dayText), by simp, .day hmonth hday, ?_⟩
      intro hlength
      rw [List.length_cons, List.length_append, List.length_cons, hmonth.length,
        hday.length] at hlength
      exact absurd hlength (by decide)
    · rw [heat] at hafter
      obtain ⟨rfl, hrest⟩ := Prod.mk.inj (Option.some.inj hafter)
      obtain ⟨rfl, rfl⟩ := Prod.mk.inj hrest
      exact ⟨'-' :: monthText, rfl, .month hmonth, fun _ => hhead⟩
  · rw [heat] at h
    obtain ⟨rfl, hrest⟩ := Prod.mk.inj (Option.some.inj h)
    obtain ⟨rfl, rfl⟩ := Prod.mk.inj hrest
    exact ⟨[], rfl, .year, fun _ => hhead⟩

/-! ## The fraction -/

/-- The digits that come next, all of them. -/
lemma fractionDigits_append {digits : List Char} (hdigits : ∀ c ∈ digits, isDigit c = true)
    {rest : Cursor} (hrest : ∀ c ∈ rest.head?, isDigit c = false) (count : ℕ) (value : ℤ) :
    fractionDigits count value (digits ++ rest) =
      ((digits.take (3 - count)).foldl (fun value c => value * 10 + digitValue c) value,
        count + digits.length, rest) := by
  induction digits generalizing count value with
  | nil =>
    cases rest with
    | nil => simp [fractionDigits]
    | cons c rest => simp [fractionDigits, hrest c rfl]
  | cons c digits ih =>
    obtain ⟨hc, hdigits⟩ := List.forall_mem_cons.mp hdigits
    rw [List.cons_append, fractionDigits, if_pos hc, ih hdigits, List.length_cons]
    by_cases hcount : count < 3
    · have htake : 3 - count = (3 - (count + 1)) + 1 := by omega
      rw [if_pos hcount, htake, List.take_succ_cons, List.foldl_cons, Nat.add_right_comm]
      rfl
    · have htake : 3 - count = 0 := by omega
      have htake' : 3 - (count + 1) = 0 := by omega
      rw [if_neg hcount, htake, htake', List.take_zero, List.take_zero, Nat.add_right_comm]
      rfl

/-- Digits behind a value move it up by their places. -/
lemma foldl_digits (value : ℤ) (digits : List Char) :
    digits.foldl (fun value c => value * 10 + digitValue c) value =
      value * 10 ^ digits.length + decimalValue digits := by
  unfold decimalValue
  induction digits generalizing value with
  | nil => simp
  | cons c digits ih =>
    rw [List.foldl_cons, List.foldl_cons, ih, ih (0 * 10 + digitValue c), List.length_cons]
    ring

/-- The value of digits, with more digits behind them. -/
lemma decimalValue_append (a b : List Char) :
    decimalValue (a ++ b) = decimalValue a * 10 ^ b.length + decimalValue b := by
  rw [← foldl_digits, decimalValue, List.foldl_append]
  rfl

/-- The value of a digit. -/
lemma digitValue_bounds {c : Char} (h : isDigit c = true) :
    0 ≤ digitValue c ∧ digitValue c ≤ 9 := by
  obtain ⟨hlow, hhigh⟩ := toNat_of_isDigit h
  have hzero : '0'.toNat = 48 := rfl
  unfold digitValue
  omega

/-- The value of digits has no more decimal places than there are digits. -/
lemma decimalValue_bounds {digits : List Char} (hdigits : ∀ c ∈ digits, isDigit c = true) :
    0 ≤ decimalValue digits ∧ decimalValue digits < 10 ^ digits.length := by
  induction digits with
  | nil => decide
  | cons c digits ih =>
    obtain ⟨hc, hdigits⟩ := List.forall_mem_cons.mp hdigits
    obtain ⟨hlow, hhigh⟩ := ih hdigits
    have hdigit := digitValue_bounds hc
    have hsplit := decimalValue_append [c] digits
    have hfirst : decimalValue [c] = digitValue c := by
      unfold decimalValue
      simp
    rw [List.singleton_append, hfirst] at hsplit
    rw [hsplit, List.length_cons, pow_succ]
    constructor
    · have hpow : (0 : ℤ) < 10 ^ digits.length := by positivity
      nlinarith
    · nlinarith

/-- **A fraction is truncated to milliseconds.**

**Proof sketch.** One and two digits are tenths and hundredths of a second. From three digits on,
the first three are the milliseconds, and the rest is less than one, so the division drops it. -/
lemma fractionMs_append {digits : List Char} {value : ℤ} (hne : digits ≠ [])
    (hdigits : Digits digits.length digits value) {rest : Cursor}
    (hrest : ∀ c ∈ rest.head?, isDigit c = false) :
    fractionMs (digits ++ rest) = some (value * 1000 / 10 ^ digits.length, rest) := by
  have hread := fractionDigits_append hdigits.digits hrest 0 0
  rw [Nat.sub_zero, Nat.zero_add] at hread
  obtain ⟨-, hall, rfl⟩ := hdigits
  unfold fractionMs
  rw [hread]
  match digits, hne with
  | [a], _ =>
    show some (decimalValue [a] * 100, rest) = some (decimalValue [a] * 1000 / 10 ^ 1, rest)
    rw [Option.some.injEq, Prod.mk.injEq]
    exact ⟨by omega, rfl⟩
  | [a, b], _ =>
    show some (decimalValue [a, b] * 10, rest) = some (decimalValue [a, b] * 1000 / 10 ^ 2, rest)
    rw [Option.some.injEq, Prod.mk.injEq]
    exact ⟨by omega, rfl⟩
  | a :: b :: c :: more, _ =>
    show some (decimalValue [a, b, c], rest) = _
    -- the digits after the third are less than a millisecond
    have hmore : ∀ d ∈ more, isDigit d = true := by
      intro d hd
      exact hall d (by simp [hd])
    obtain ⟨hlow, hhigh⟩ := decimalValue_bounds hmore
    have hsplit := decimalValue_append [a, b, c] more
    rw [List.cons_append, List.cons_append, List.singleton_append] at hsplit
    have hpow : (0 : ℤ) < 10 ^ more.length := by positivity
    have hlength : (10 : ℤ) ^ (a :: b :: c :: more).length = 10 ^ more.length * 1000 := by
      simp only [List.length_cons, pow_succ]
      ring
    rw [hsplit, hlength, Int.mul_ediv_mul_of_pos_left _ _ (by norm_num), add_comm,
      Int.add_mul_ediv_right _ _ hpow.ne', Int.ediv_eq_zero_of_lt hlow hhigh, zero_add]

/-! ## The time and the zone -/

/-- A fraction that is read is written, up to its last digit. -/
lemma exists_of_fractionMs {cursor rest : Cursor} {millisecond : ℤ}
    (h : fractionMs cursor = some (millisecond, rest)) :
    ∃ digits value, cursor = digits ++ rest ∧ digits ≠ [] ∧ Digits digits.length digits value ∧
      millisecond = value * 1000 / 10 ^ digits.length := by
  have hsplit : cursor = cursor.takeWhile isDigit ++ cursor.dropWhile isDigit :=
    List.takeWhile_append_dropWhile.symm
  have hdigits : ∀ c ∈ cursor.takeWhile isDigit, isDigit c = true :=
    fun c hc => List.mem_takeWhile_imp hc
  have hrest : ∀ c ∈ (cursor.dropWhile isDigit).head?, isDigit c = false := by
    intro c hc
    have hnot := List.head?_dropWhile_not isDigit cursor
    rw [Option.mem_def.mp hc] at hnot
    simpa using hnot
  generalize cursor.takeWhile isDigit = digits at hsplit hdigits
  generalize cursor.dropWhile isDigit = tail at hsplit hrest
  subst hsplit
  by_cases hne : digits = []
  · subst hne
    have hread := fractionDigits_append hdigits hrest 0 0
    unfold fractionMs at h
    rw [hread] at h
    cases h
  · rw [fractionMs_append hne ⟨rfl, hdigits, rfl⟩ hrest] at h
    obtain ⟨rfl, rfl⟩ := Prod.mk.inj (Option.some.inj h)
    exact ⟨digits, _, rfl, hne, ⟨rfl, hdigits, rfl⟩, rfl⟩

/-- What follows a time text is not read as a part of it. -/
def Stops (timeText : List Char) (rest : Cursor) : Prop :=
  (timeText = [] → ∀ c ∈ rest.head?, c ∉ timeMarks) ∧
    (timeText ≠ [] → ∀ c ∈ rest.head?, c ≠ ':' ∧ c ≠ '.' ∧ isDigit c = false)

/-- Seconds without a fraction are read. -/
lemma secondMs_append {text : List Char} {second : ℤ} (h : Digits 2 text second) {rest : Cursor}
    (hrest : rest.head? ≠ some '.') :
    secondMs (':' :: (text ++ rest)) = some (second, 0, rest) := by
  unfold secondMs
  rw [eat_cons]
  dsimp only
  rw [digits_append h, Option.bind_eq_bind, Option.bind_some]
  dsimp only
  rw [eat_of_head hrest]

/-- Seconds with a fraction are read. -/
lemma secondMs_fraction_append {text digits : List Char} {second value : ℤ}
    (h : Digits 2 text second) (hne : digits ≠ []) (hdigits : Digits digits.length digits value)
    {rest : Cursor} (hrest : ∀ c ∈ rest.head?, isDigit c = false) :
    secondMs (':' :: (text ++ '.' :: (digits ++ rest))) =
      some (second, value * 1000 / 10 ^ digits.length, rest) := by
  unfold secondMs
  rw [eat_cons]
  dsimp only
  rw [digits_append h, Option.bind_eq_bind, Option.bind_some]
  dsimp only
  rw [eat_cons]
  dsimp only
  rw [fractionMs_append hne hdigits hrest]
  rfl

/-- The hours and the minutes are read, and then the seconds. -/
lemma time_of_secondMs {mark : Char} (hmark : mark ∈ timeMarks) {hourText minuteText : List Char}
    {hour minute second millisecond : ℤ} (hhour : Digits 2 hourText hour)
    (hminute : Digits 2 minuteText minute) {tail rest : Cursor}
    (hsecond : secondMs tail = some (second, millisecond, rest)) :
    time (mark :: (hourText ++ ':' :: (minuteText ++ tail))) =
      some ({ hour, minute, second, millisecond }, rest) := by
  have hcolon : ∀ cursor : Cursor, expect ':' (':' :: cursor) = some cursor := fun _ => rfl
  unfold time
  rw [show (['T', 't', ' '] : List Char) = timeMarks from rfl, eatAny_cons hmark]
  dsimp only
  rw [digits_append hhour, Option.bind_eq_bind, Option.bind_some]
  dsimp only
  rw [hcolon, Option.bind_eq_bind, Option.bind_some, digits_append hminute, Option.bind_eq_bind,
    Option.bind_some]
  dsimp only
  rw [hsecond]
  rfl

/-- A written time is read. -/
lemma time_append {text : List Char} {timeOfDay : TimeOfDay} (h : TimeText text timeOfDay)
    {rest : Cursor} (hrest : Stops text rest) : time (text ++ rest) = some (timeOfDay, rest) := by
  obtain ⟨hmarks, hstops⟩ := hrest
  cases h with
  | none =>
    unfold time
    rw [List.nil_append, show (['T', 't', ' '] : List Char) = timeMarks from rfl,
      eatAny_of_head (hmarks rfl)]
  | minutes hmark hhour hminute =>
    have hnext := hstops (List.cons_ne_nil _ _)
    have hsecond : secondMs rest = some (0, 0, rest) := by
      unfold secondMs
      rw [eat_of_head (fun h => (hnext ':' h).1 rfl)]
    rw [List.cons_append, List.append_assoc, List.cons_append]
    exact time_of_secondMs hmark hhour hminute hsecond
  | seconds hmark hhour hminute hsecond =>
    have hnext := hstops (List.cons_ne_nil _ _)
    simp only [List.cons_append, List.append_assoc]
    exact time_of_secondMs hmark hhour hminute
      (secondMs_append hsecond fun h => (hnext '.' h).2.1 rfl)
  | fraction hmark hhour hminute hsecond hne hdigits =>
    have hnext := hstops (List.cons_ne_nil _ _)
    simp only [List.cons_append, List.append_assoc]
    exact time_of_secondMs hmark hhour hminute
      (secondMs_fraction_append hsecond hne hdigits fun c hc => (hnext c hc).2.2)

/-- A character that is expected and read comes next. -/
lemma exists_of_expect {c : Char} {cursor rest : Cursor} (h : expect c cursor = some rest) :
    cursor = c :: rest := by
  unfold expect at h
  rcases eat_cases c cursor with ⟨tail, rfl, heat⟩ | ⟨-, heat⟩
  · rw [heat] at h
    rw [Option.some.inj h]
  · rw [heat] at h
    cases h

/-- Seconds that are read are written, with the fraction that is read. -/
lemma exists_of_secondMs {cursor rest : Cursor} {second millisecond : ℤ}
    (h : secondMs cursor = some (second, millisecond, rest)) :
    (cursor = rest ∧ second = 0 ∧ millisecond = 0) ∨
      ∃ secondText, Digits 2 secondText second ∧
        ((cursor = ':' :: (secondText ++ rest) ∧ millisecond = 0) ∨
          ∃ digits value, cursor = ':' :: (secondText ++ '.' :: (digits ++ rest)) ∧ digits ≠ [] ∧
            Digits digits.length digits value ∧
            millisecond = value * 1000 / 10 ^ digits.length) := by
  unfold secondMs at h
  rcases eat_cases ':' cursor with ⟨tail, rfl, heat⟩ | ⟨-, heat⟩
  · rw [heat] at h
    dsimp only at h
    obtain ⟨⟨readSecond, tail⟩, hread, hafter⟩ := Option.bind_eq_some_iff.mp h
    obtain ⟨secondText, rfl, hsecond⟩ := exists_of_digits hread
    dsimp only at hafter
    rcases eat_cases '.' tail with ⟨tail, rfl, heat⟩ | ⟨-, heat⟩
    · rw [heat] at hafter
      dsimp only at hafter
      obtain ⟨⟨readMs, tail⟩, hread, hend⟩ := Option.bind_eq_some_iff.mp hafter
      obtain ⟨rfl, hrest⟩ := Prod.mk.inj (Option.some.inj hend)
      obtain ⟨rfl, rfl⟩ := Prod.mk.inj hrest
      obtain ⟨digits, value, rfl, hne, hdigits, rfl⟩ := exists_of_fractionMs hread
      exact Or.inr ⟨secondText, hsecond, Or.inr ⟨digits, value, rfl, hne, hdigits, rfl⟩⟩
    · rw [heat] at hafter
      obtain ⟨rfl, hrest⟩ := Prod.mk.inj (Option.some.inj hafter)
      obtain ⟨rfl, rfl⟩ := Prod.mk.inj hrest
      exact Or.inr ⟨secondText, hsecond, Or.inl ⟨rfl, rfl⟩⟩
  · rw [heat] at h
    obtain ⟨rfl, hrest⟩ := Prod.mk.inj (Option.some.inj h)
    obtain ⟨rfl, rfl⟩ := Prod.mk.inj hrest
    exact Or.inl ⟨rfl, rfl, rfl⟩

/-- A time that is read is written. -/
lemma exists_of_time {cursor rest : Cursor} {timeOfDay : TimeOfDay}
    (h : time cursor = some (timeOfDay, rest)) :
    ∃ text, cursor = text ++ rest ∧ TimeText text timeOfDay := by
  unfold time at h
  rcases eatAny_cases timeMarks cursor with ⟨mark, tail, rfl, hmark, heat⟩ | ⟨-, heat⟩
  · rw [show (['T', 't', ' '] : List Char) = timeMarks from rfl, heat] at h
    dsimp only at h
    obtain ⟨⟨hour, tail⟩, hread, hafter⟩ := Option.bind_eq_some_iff.mp h
    obtain ⟨hourText, rfl, hhour⟩ := exists_of_digits hread
    obtain ⟨tail, hcolon, hafter⟩ := Option.bind_eq_some_iff.mp hafter
    obtain rfl := exists_of_expect hcolon
    obtain ⟨⟨minute, tail⟩, hread, hafter⟩ := Option.bind_eq_some_iff.mp hafter
    obtain ⟨minuteText, rfl, hminute⟩ := exists_of_digits hread
    obtain ⟨⟨second, millisecond, tail⟩, hseconds, hafter⟩ := Option.bind_eq_some_iff.mp hafter
    obtain ⟨rfl, rfl⟩ := Prod.mk.inj (Option.some.inj hafter)
    rcases exists_of_secondMs hseconds with ⟨rfl, rfl, rfl⟩ | ⟨secondText, hsecond, hcase⟩
    · exact ⟨mark :: (hourText ++ ':' :: minuteText), by simp, .minutes hmark hhour hminute⟩
    · rcases hcase with ⟨rfl, rfl⟩ | ⟨digits, value, rfl, hne, hdigits, rfl⟩
      · exact ⟨mark :: (hourText ++ ':' :: (minuteText ++ ':' :: secondText)), by simp,
          .seconds hmark hhour hminute hsecond⟩
      · exact ⟨mark :: (hourText ++ ':' :: (minuteText ++ ':' :: (secondText ++ '.' :: digits))),
          by simp, .fraction hmark hhour hminute hsecond hne hdigits⟩
  · rw [show (['T', 't', ' '] : List Char) = timeMarks from rfl, heat] at h
    obtain ⟨rfl, rfl⟩ := Prod.mk.inj (Option.some.inj h)
    exact ⟨[], rfl, .none⟩

/-- The hours and the minutes of a written zone are read. -/
lemma offsetSeconds_append {hourText separator minuteText : List Char} {hours minutes : ℤ}
    (hhours : Digits 2 hourText hours) (hseparator : separator ∈ [[], [':']])
    (hminutes : Digits 2 minuteText minutes) (hrange : hours ≤ 23 ∧ minutes ≤ 59) (sign : ℤ) :
    offsetSeconds sign (hourText ++ (separator ++ minuteText)) =
      some (sign * (hours * 3600 + minutes * 60), []) := by
  have heat : (eat ':' (separator ++ minuteText)).2 = minuteText := by
    rw [List.mem_pair] at hseparator
    rcases hseparator with rfl | rfl
    · rw [List.nil_append, eat_of_head]
      intro hhead
      have hcolon := hminutes.digits ':' (List.mem_of_head? hhead)
      exact absurd hcolon (by decide)
    · rw [List.singleton_append, eat_cons]
  have hread := digits_append hminutes []
  rw [List.append_nil] at hread
  unfold offsetSeconds
  rw [digits_append hhours, Option.bind_eq_bind, Option.bind_some]
  dsimp only
  rw [heat, hread, Option.bind_some]
  dsimp only
  rw [if_neg (by omega)]

/-- A written zone at the end of a text is read. -/
lemma offset_of_zoneText {text : List Char} {seconds : ℤ} (h : ZoneText text seconds) :
    offset text = some (seconds, []) := by
  cases h with
  | none => rfl
  | utc hmark =>
    unfold offset
    rw [eatAny_cons hmark]
  | offset hsign hhours hseparator hminutes hrange =>
    have hread := offsetSeconds_append hhours hseparator hminutes hrange
    rw [List.mem_pair] at hsign
    rcases hsign with hsign | hsign
    · obtain ⟨rfl, rfl⟩ := Prod.mk.inj hsign
      exact hread 1
    · obtain ⟨rfl, rfl⟩ := Prod.mk.inj hsign
      exact hread (-1)

/-- The hours and the minutes of a zone that are read at the end of a text are written. -/
lemma zoneText_of_offsetSeconds {sign : Char} {factor seconds : ℤ} {cursor : Cursor}
    (hsign : (sign, factor) ∈ [('+', (1 : ℤ)), ('-', -1)])
    (h : offsetSeconds factor cursor = some (seconds, [])) : ZoneText (sign :: cursor) seconds := by
  unfold offsetSeconds at h
  obtain ⟨⟨hours, tail⟩, hread, hafter⟩ := Option.bind_eq_some_iff.mp h
  obtain ⟨hourText, rfl, hhours⟩ := exists_of_digits hread
  obtain ⟨⟨minutes, tail'⟩, hread, hend⟩ := Option.bind_eq_some_iff.mp hafter
  obtain ⟨minuteText, htail, hminutes⟩ := exists_of_digits hread
  dsimp only at hend
  split_ifs at hend with hrange
  obtain ⟨rfl, rfl⟩ := Prod.mk.inj (Option.some.inj hend)
  rw [List.append_nil] at htail
  rcases eat_cases ':' tail with ⟨tail, rfl, heat⟩ | ⟨-, heat⟩
  · rw [heat] at htail
    dsimp only at htail
    subst htail
    have hseparator : [':'] ∈ [[], [':']] := by simp
    exact .offset hsign hhours hseparator hminutes (by omega)
  · rw [heat] at htail
    dsimp only at htail
    subst htail
    have hseparator : ([] : List Char) ∈ [[], [':']] := by simp
    exact .offset hsign hhours hseparator hminutes (by omega)

/-- A zone that is read at the end of a text is written. -/
lemma zoneText_of_offset {text : List Char} {seconds : ℤ} (h : offset text = some (seconds, [])) :
    ZoneText text seconds := by
  unfold offset at h
  rcases eatAny_cases ['Z', 'z'] text with ⟨mark, tail, rfl, hmark, heat⟩ | ⟨-, heat⟩
  · rw [heat] at h
    obtain ⟨rfl, rfl⟩ := Prod.mk.inj (Option.some.inj h)
    exact .utc hmark
  · rw [heat] at h
    split at h
    · rename_i hmatch
      cases hmatch
    · rename_i tail hmatch
      obtain ⟨-, rfl⟩ := Prod.mk.inj hmatch
      exact zoneText_of_offsetSeconds (by simp) h
    · rename_i tail hmatch
      obtain ⟨-, rfl⟩ := Prod.mk.inj hmatch
      exact zoneText_of_offsetSeconds (by simp) h
    · obtain ⟨rfl, hnil⟩ := Prod.mk.inj (Option.some.inj h)
      rename_i hmatch
      obtain ⟨-, rfl⟩ := Prod.mk.inj hmatch
      rw [hnil]
      exact .none

end Cursor

/-! ## The instant -/

namespace DateReading

variable {text : List Char}

/-- Two digits are a number below 100. -/
lemma bounds_of_digits {text : List Char} {value : ℤ} (h : Digits 2 text value) :
    0 ≤ value ∧ value ≤ 99 := by
  have hbounds := Cursor.decimalValue_bounds h.digits
  rw [h.value, h.length] at hbounds
  omega

/-- The parts of a time are not negative, and a fraction is less than a second. -/
lemma time_bounds {text : List Char} {time : TimeOfDay} (h : TimeText text time) :
    0 ≤ time.hour ∧ 0 ≤ time.minute ∧ 0 ≤ time.second ∧ 0 ≤ time.millisecond ∧
      time.millisecond ≤ 999 := by
  cases h with
  | none => decide
  | minutes _ hhour hminute =>
    exact ⟨(bounds_of_digits hhour).1, (bounds_of_digits hminute).1, le_rfl, le_rfl, by norm_num⟩
  | seconds _ hhour hminute hsecond =>
    exact ⟨(bounds_of_digits hhour).1, (bounds_of_digits hminute).1, (bounds_of_digits hsecond).1,
      le_rfl, by norm_num⟩
  | @fraction _ _ _ _ digits _ _ _ value _ hhour hminute hsecond _ hdigits =>
    obtain ⟨hlow, hhigh⟩ := Cursor.decimalValue_bounds hdigits.digits
    rw [hdigits.value] at hlow hhigh
    have hpow : (0 : ℤ) < 10 ^ digits.length := by positivity
    refine ⟨(bounds_of_digits hhour).1, (bounds_of_digits hminute).1, (bounds_of_digits hsecond).1,
      Int.ediv_nonneg (by omega) hpow.le, ?_⟩
    have hlt : value * 1000 / 10 ^ digits.length < 1000 := by
      rw [Int.ediv_lt_iff_lt_mul hpow]
      linarith
    dsimp only
    omega

/-- An offset is less than a day. -/
lemma offset_bounds {text : List Char} {offset : ℤ} (h : ZoneText text offset) :
    -86340 ≤ offset ∧ offset ≤ 86340 := by
  cases h with
  | none => decide
  | utc => decide
  | offset hsign hhours hseparator hminutes hrange =>
    have hlowHours := (bounds_of_digits hhours).1
    have hlowMinutes := (bounds_of_digits hminutes).1
    rw [List.mem_pair] at hsign
    rcases hsign with hsign | hsign
    · obtain ⟨-, rfl⟩ := Prod.mk.inj hsign
      omega
    · obtain ⟨-, rfl⟩ := Prod.mk.inj hsign
      omega

/-- The end of a day is a day after its start. -/
lemma ms_of_endOfDay {time : TimeOfDay} (h : time.endOfDay = true) :
    time.ms = 86400000 ∧ ({ time with hour := 0 } : TimeOfDay).ms = 0 := by
  unfold TimeOfDay.endOfDay at h
  simp only [Bool.and_eq_true, beq_iff_eq] at h
  obtain ⟨⟨⟨h24, h0⟩, h0'⟩, h0''⟩ := h
  unfold TimeOfDay.ms
  dsimp only
  rw [h24, h0, h0', h0'']
  norm_num

/-- The time of a reading is between the start and the end of its day. -/
lemma ms_bounds (reading : DateReading text) :
    0 ≤ reading.time.ms ∧ reading.time.ms ≤ 86400000 := by
  obtain ⟨hhour, hminute, hsecond, hms, hms999⟩ := time_bounds reading.time_spec
  have hminute59 := reading.minute_range
  have hsecond59 := reading.second_range
  rcases reading.hour_range with hhour23 | h24
  · unfold TimeOfDay.ms
    exact ⟨by omega, by omega⟩
  · rw [(ms_of_endOfDay h24).1]
    exact ⟨by norm_num, le_rfl⟩

/-- The first day of the calendar. -/
lemma daysFromCivil_firstYear : daysFromCivil (-9999) 1 1 = minDay := by decide

/-- The day after the last one of the calendar. -/
lemma daysFromCivil_afterLastYear : daysFromCivil (9999 + 1) 1 1 = maxDay + 1 := by decide

/-- A reading in a year outside the calendar is outside the timestamp range. -/
lemma instant_not_mem_of_year (reading : DateReading text)
    (hyear : ¬(-9999 ≤ reading.year ∧ reading.year ≤ 9999)) :
    ¬(minInstantMs - 1000 < reading.instant ∧ reading.instant ≤ maxInstantMs) := by
  intro h
  obtain ⟨hlowTime, hhighTime⟩ := reading.ms_bounds
  obtain ⟨hlowOffset, hhighOffset⟩ := offset_bounds reading.zone_spec
  obtain ⟨hfirst, hlast⟩ := daysFromCivil_year_bounds reading.year reading.month_range
    reading.day_range
  have hfirstYear := daysFromCivil_firstYear
  have hlastYear := daysFromCivil_afterLastYear
  have hinstant : reading.instant = daysFromCivil reading.year reading.month reading.day * 86400000
      + reading.time.ms - reading.offset * 1000 := rfl
  -- such a year is more than a day away from the range
  unfold minInstantMs maxInstantMs at h
  unfold minDay at hfirstYear
  unfold maxDay at hlastYear
  rcases lt_or_ge 9999 reading.year with hlate | hnotLate
  · have hmax := daysFromCivil_newYear_mono (show 9999 + 1 ≤ reading.year by omega)
    omega
  · have hmin := daysFromCivil_newYear_mono (show reading.year + 1 ≤ -9999 by omega)
    omega

/-- **No instant of the timestamp range is lost on the way.** The civil dates before the offset is
applied stay in the calendar wherever the instant is in the timestamp range.

**Proof sketch.** A year of four digits gives a day of the calendar, so the first check passes. The
end of a day is the start of the next one, and the only day without a next one lies so late that its
end has no offset back into the range. Every other year is so far off that no offset brings it back
(`instant_not_mem_of_year`). -/
theorem instantOf_eq_some_iff (reading : DateReading text) (ms : ℤ) :
    instantOf reading.year reading.month reading.day reading.time reading.offset = some ms ↔
      reading.instant = ms ∧ minInstantMs - 1000 < ms ∧ ms ≤ maxInstantMs := by
  have hinstant : reading.instant = daysFromCivil reading.year reading.month reading.day * 86400000
      + reading.time.ms - reading.offset * 1000 := rfl
  have hday := daysFromCivil_add reading.year reading.month reading.day
  unfold instantOf firstOfMonth
  by_cases hyear : -9999 ≤ reading.year ∧ reading.year ≤ 9999
  · have hbounds : minDay ≤ daysFromCivil reading.year reading.month reading.day ∧
        daysFromCivil reading.year reading.month reading.day ≤ maxDay := by
      obtain ⟨hfirst, hlast⟩ := daysFromCivil_year_bounds reading.year reading.month_range
        reading.day_range
      have hfirstYear := daysFromCivil_firstYear
      have hlastYear := daysFromCivil_afterLastYear
      have hmin := daysFromCivil_newYear_mono hyear.1
      have hmax := daysFromCivil_newYear_mono (show reading.year + 1 ≤ 9999 + 1 by omega)
      omega
    rw [if_pos hyear, Option.bind_eq_bind, Option.bind_some, addDays, hday,
      if_pos hbounds, Option.bind_eq_bind, Option.bind_some]
    by_cases hendOfDay : reading.time.endOfDay = true
    · -- the end of a day is the start of the next one
      obtain ⟨hms, hstart⟩ := ms_of_endOfDay hendOfDay
      rw [if_pos hendOfDay, addDays]
      by_cases hnext : daysFromCivil reading.year reading.month reading.day + 1 ≤ maxDay
      · rw [if_pos ⟨by omega, hnext⟩, Option.map_some, Option.bind_some]
        dsimp only
        rw [hstart, toTimestamp_eq_some_iff, hinstant, hms]
        constructor
        · intro h
          exact ⟨by omega, h.2⟩
        · intro h
          exact ⟨by omega, h.2⟩
      · rw [if_neg (fun h => hnext h.2), Option.map_none, Option.bind_none]
        obtain ⟨hlowOffset, hhighOffset⟩ := offset_bounds reading.zone_spec
        constructor
        · intro h
          cases h
        · intro h
          unfold maxDay at hnext
          unfold maxInstantMs at h
          omega
    · rw [if_neg hendOfDay, Option.bind_some]
      dsimp only
      rw [toTimestamp_eq_some_iff, hinstant]
  · rw [if_neg hyear, Option.bind_eq_bind, Option.bind_none]
    constructor
    · intro h
      cases h
    · rintro ⟨rfl, hrange⟩
      exact absurd hrange (reading.instant_not_mem_of_year hyear)

end DateReading

/-! ## The texts that are read -/

/-- The characters that start a zone. -/
lemma ZoneText.head {text : List Char} {seconds : ℤ} (h : ZoneText text seconds) :
    ∀ c ∈ text.head?, c ∈ ['Z', 'z', '+', '-'] := by
  intro c hc
  cases h with
  | none => cases hc
  | utc hmark =>
    obtain rfl := Option.some.inj hc
    rw [List.mem_pair] at hmark
    rcases hmark with rfl | rfl
    · decide
    · decide
  | offset hsign =>
    obtain rfl := Option.some.inj hc
    rw [List.mem_pair] at hsign
    rcases hsign with hsign | hsign
    · obtain ⟨rfl, -⟩ := Prod.mk.inj hsign
      decide
    · obtain ⟨rfl, -⟩ := Prod.mk.inj hsign
      decide

/-- A time is nothing, or starts with a mark. -/
lemma TimeText.head {text : List Char} {time : TimeOfDay} (h : TimeText text time) :
    text = [] ∨ ∃ mark tail, text = mark :: tail ∧ mark ∈ timeMarks := by
  cases h with
  | none => exact Or.inl rfl
  | minutes hmark => exact Or.inr ⟨_, _, rfl, hmark⟩
  | seconds hmark => exact Or.inr ⟨_, _, rfl, hmark⟩
  | fraction hmark => exact Or.inr ⟨_, _, rfl, hmark⟩

namespace DateReading

variable {text : List Char}

/-- What comes after a date that is not misread does not start with the separator of its parts. -/
lemma head_of_not_misread (reading : DateReading text) (h : ¬ reading.Misread)
    (hshort : reading.dayText.length < 6) :
    (reading.timeText ++ reading.zoneText).head? ≠ some '-' := by
  intro hhead
  rcases reading.time_spec.head with htime | ⟨mark, tail, htime, hmark⟩
  · rw [htime, List.nil_append] at hhead
    exact h ⟨hshort, htime, hhead⟩
  · rw [htime] at hhead
    obtain rfl := Option.some.inj hhead
    exact absurd hmark (by decide)

/-- A zone is not read as a part of the time before it. -/
lemma zone_stops (reading : DateReading text) :
    Cursor.Stops reading.timeText reading.zoneText := by
  have hzone : ∀ c ∈ ['Z', 'z', '+', '-'],
      c ∉ timeMarks ∧ c ≠ ':' ∧ c ≠ '.' ∧ isDigit c = false := by decide
  constructor
  · intro _ c hc
    exact (hzone c (reading.zone_spec.head c hc)).1
  · intro _ c hc
    exact (hzone c (reading.zone_spec.head c hc)).2

end DateReading

/-- **A text of the grammar that is not misread** is the instant that it names, where that is in
the timestamp range. -/
lemma parseDateMs_of_reading {text : String} (reading : DateReading text.toList)
    (h : ¬ reading.Misread) :
    parseDateMs text = instantOf reading.year reading.month reading.day reading.time
      reading.offset := by
  have hyear := Cursor.year_append reading.year_spec
    (reading.dayText ++ (reading.timeText ++ reading.zoneText))
  rw [← reading.parts] at hyear
  have hmonthDay := Cursor.monthDay_append reading.day_spec (reading.head_of_not_misread h)
  have hmonth := reading.month_range
  have hday := reading.day_range
  have hminute := reading.minute_range
  have hsecond := reading.second_range
  unfold parseDateMs
  rw [hyear, Option.bind_eq_bind, Option.bind_some]
  dsimp only
  rw [hmonthDay, Option.bind_eq_bind, Option.bind_some]
  dsimp only
  rw [if_neg (by omega), Cursor.time_append reading.time_spec reading.zone_stops,
    Option.bind_eq_bind, Option.bind_some]
  dsimp only
  rw [Cursor.offset_of_zoneText reading.zone_spec, Option.bind_some]
  dsimp only
  rw [if_neg (fun hne => hne rfl), if_neg]
  rintro (⟨hhour, hend⟩ | hlate | hlate)
  · rcases reading.hour_range with hhour23 | h24
    · omega
    · rw [h24] at hend
      cases hend
  · omega
  · omega

/-- A text that is read is a text of the grammar that is not misread.

**Proof sketch.** Each cursor that succeeds says which part of the text it took, and the code checks
the ranges of the parts. A misread text would have been read on as a month or as a day. -/
lemma exists_of_parseDateMs {text : String} {ms : ℤ} (h : parseDateMs text = some ms) :
    ∃ reading : DateReading text.toList, ¬ reading.Misread ∧
      instantOf reading.year reading.month reading.day reading.time reading.offset = some ms := by
  unfold parseDateMs at h
  obtain ⟨⟨year, cursor⟩, hyear, hdated⟩ := Option.bind_eq_some_iff.mp h
  obtain ⟨yearText, htext, hyearText⟩ := Cursor.exists_of_year hyear
  obtain ⟨⟨month, day, cursor⟩, hmonthDay, htimed⟩ := Option.bind_eq_some_iff.mp hdated
  obtain ⟨dayText, rfl, hdayText, hnext⟩ := Cursor.exists_of_monthDay hmonthDay
  dsimp only at htimed
  split_ifs at htimed with hdate
  obtain ⟨⟨time, cursor⟩, htime, hzoned⟩ := Option.bind_eq_some_iff.mp htimed
  obtain ⟨timeText, rfl, htimeText⟩ := Cursor.exists_of_time htime
  obtain ⟨⟨offset, cursor⟩, hoffset, hms⟩ := Option.bind_eq_some_iff.mp hzoned
  dsimp only at hms
  split_ifs at hms with hend htimeRange
  rw [not_not] at hend
  subst hend
  rw [not_or, not_or, not_and, not_lt, not_lt] at htimeRange
  rw [not_or, not_not, not_not] at hdate
  have hhour : time.hour ≤ 23 ∨ time.endOfDay = true := by
    by_cases hhour : time.hour ≤ 23
    · exact Or.inl hhour
    · exact Or.inr (Bool.eq_true_of_not_eq_false (htimeRange.1 (by omega)))
  let reading : DateReading text.toList :=
    { yearText, dayText, timeText, zoneText := cursor, year, month, day, time, offset
      parts := htext
      year_spec := hyearText
      day_spec := hdayText
      time_spec := htimeText
      zone_spec := Cursor.zoneText_of_offset hoffset
      month_range := hdate.1
      day_range := hdate.2
      hour_range := hhour
      minute_range := htimeRange.2.1
      second_range := htimeRange.2.2 }
  refine ⟨reading, ?_, hms⟩
  rintro ⟨hshort, hempty, hsign⟩
  apply hnext hshort
  rw [show timeText = [] from hempty, List.nil_append]
  exact hsign

/-! ## The texts that are misread -/

/-- The characters of an offset after its hours are not read as a further part of a date.

**Proof sketch.** The characters start with the colon or with a digit of the minutes. No part of a
date starts so: a time starts with a letter or a blank, and an offset with a letter or a sign. -/
lemma tail_of_offset {separator minuteText : List Char} {minutes : ℤ}
    (hseparator : separator ∈ [[], [':']]) (hminutes : Digits 2 minuteText minutes) :
    ∃ c tail, separator ++ minuteText = c :: tail ∧ c ≠ '-' ∧
      Cursor.time (c :: tail) = some ({}, c :: tail) ∧
      Cursor.offset (c :: tail) = some (0, c :: tail) := by
  have hnext : ∃ c tail, separator ++ minuteText = c :: tail ∧ (c = ':' ∨ isDigit c = true) := by
    rw [List.mem_pair] at hseparator
    rcases hseparator with rfl | rfl
    · match minuteText, hminutes with
      | c :: tail, hminutes => exact ⟨c, tail, rfl, Or.inr (hminutes.digits c List.mem_cons_self)⟩
    · exact ⟨':', minuteText, rfl, Or.inl rfl⟩
  obtain ⟨c, tail, hcons, hc⟩ := hnext
  have hmarks : ∀ d ∈ ['T', 't', ' ', 'Z', 'z', '+', '-'], c ≠ d := by
    intro d hd hcd
    subst hcd
    rcases hc with rfl | hdigit
    · exact absurd hd (by decide)
    · have hnone : ∀ d ∈ ['T', 't', ' ', 'Z', 'z', '+', '-'], isDigit d = false := by decide
      rw [hnone c hd] at hdigit
      cases hdigit
  have hminus : c ≠ '-' := hmarks '-' (by decide)
  have hplus : c ≠ '+' := hmarks '+' (by decide)
  have htime : Cursor.eatAny ['T', 't', ' '] (c :: tail) = (false, c :: tail) := by
    apply Cursor.eatAny_of_head
    intro d hd hmem
    obtain rfl := Option.some.inj hd
    exact hmarks c (by simp only [List.mem_cons] at hmem ⊢; tauto) rfl
  have hzone : Cursor.eatAny ['Z', 'z'] (c :: tail) = (false, c :: tail) := by
    apply Cursor.eatAny_of_head
    intro d hd hmem
    obtain rfl := Option.some.inj hd
    exact hmarks c (by simp only [List.mem_cons] at hmem ⊢; tauto) rfl
  refine ⟨c, tail, hcons, hminus, ?_, ?_⟩
  · unfold Cursor.time
    rw [htime]
  · unfold Cursor.offset
    rw [hzone]
    split
    · rename_i hmatch
      cases hmatch
    · rename_i hmatch
      exact absurd (List.cons.inj (Prod.mk.inj hmatch).2).1 hplus
    · rename_i hmatch
      exact absurd (List.cons.inj (Prod.mk.inj hmatch).2).1 hminus
    · rename_i hmatch
      rw [(Prod.mk.inj hmatch).2]

/-- A year or a month with a negative offset at once: the date takes the hours.

**Proof sketch.** Behind a year the hours stand where a month is read, and the character after them
starts no day. Behind a month they are the day. A whole date is too long for `hshort`. -/
lemma monthDay_takes_hours {dayText hourText : List Char} {month day hours : ℤ}
    (hday : DayText dayText month day) (hshort : dayText.length < 6)
    (hhours : Digits 2 hourText hours) {c : Char} (hminus : c ≠ '-') (tail : List Char) :
    ∃ month day, Cursor.monthDay (dayText ++ '-' :: (hourText ++ c :: tail)) =
      some (month, day, c :: tail) := by
  cases hday with
  | year =>
    have heat : Cursor.eat '-' (c :: tail) = (false, c :: tail) := by
      apply Cursor.eat_of_head
      intro hhead
      exact hminus (Option.some.inj hhead)
    refine ⟨hours, 1, ?_⟩
    unfold Cursor.monthDay
    rw [List.nil_append, Cursor.eat_cons]
    dsimp only
    rw [Cursor.digits_append hhours, Option.bind_eq_bind, Option.bind_some]
    dsimp only
    rw [heat]
  | month hmonth =>
    refine ⟨month, hours, ?_⟩
    have hdate := @Cursor.monthDay_append _ _ _ (.day hmonth hhours) (c :: tail)
    rw [List.cons_append, List.append_assoc, List.cons_append] at hdate
    apply hdate
    intro hlength
    rw [List.length_cons, List.length_append, List.length_cons, hmonth.length,
      hhours.length] at hlength
    exact absurd hlength (by decide)
  | day hmonth hday =>
    rw [List.length_cons, List.length_append, List.length_cons, hmonth.length,
      hday.length] at hshort
    exact absurd hshort (by decide)

/-- **A misread text is no date**: the hours of its offset are read as a month or as a day, and the
minutes stay unread.

**Proof sketch.** The cursor of the date takes the hours of the offset (`monthDay_takes_hours`), and
what is left begins neither a time nor a zone (`tail_of_offset`). -/
lemma parseDateMs_of_misread {text : String} (reading : DateReading text.toList)
    (h : reading.Misread) : parseDateMs text = none := by
  obtain ⟨hshort, hnoTime, hsign⟩ := h
  have htext := reading.parts
  have hyear := reading.year_spec
  have hday := reading.day_spec
  have hzone := reading.zone_spec
  rw [hnoTime, List.nil_append] at htext
  generalize reading.dayText = dayText at hshort htext hday
  generalize reading.zoneText = zoneText at hsign htext hzone
  generalize reading.offset = offset at hzone
  generalize reading.month = month at hday
  generalize reading.day = day at hday
  -- the zone is a negative offset
  cases hzone with
  | none => cases hsign
  | utc hmark =>
    obtain rfl := Option.some.inj hsign
    exact absurd hmark (by decide)
  | @offset sign factor hours minutes hourText separator minuteText hsigned hhours hseparator
      hminutes hrange =>
    obtain rfl := Option.some.inj hsign
    obtain ⟨c, tail, htail, hminus, htime, hoffset⟩ := tail_of_offset hseparator hminutes
    rw [htail] at htext
    -- the date takes the hours, and what is left is no time and no zone
    obtain ⟨readMonth, readDay, hread⟩ := monthDay_takes_hours hday hshort hhours hminus tail
    unfold parseDateMs
    rw [htext, Cursor.year_append hyear, Option.bind_eq_bind, Option.bind_some]
    dsimp only
    rw [hread, Option.bind_eq_bind, Option.bind_some]
    dsimp only
    split_ifs
    · rfl
    · rw [htime, Option.bind_eq_bind, Option.bind_some]
      dsimp only
      rw [hoffset, Option.bind_some]
      dsimp only
      rw [if_pos (List.cons_ne_nil c tail)]

/-! ## The instants -/

/-- **The texts that `parse_date_ms` reads** are the texts of the grammar that are not misread,
with an instant of the timestamp range or less than a second before it. -/
theorem parseDateMs_eq_some_iff (text : String) (ms : ℤ) :
    parseDateMs text = some ms ↔
      ∃ reading : DateReading text.toList, ¬ reading.Misread ∧ reading.instant = ms ∧
        minInstantMs - 1000 < ms ∧ ms ≤ maxInstantMs := by
  constructor
  · intro h
    obtain ⟨reading, hread, hms⟩ := exists_of_parseDateMs h
    exact ⟨reading, hread, (reading.instantOf_eq_some_iff ms).mp hms⟩
  · intro h
    obtain ⟨reading, hread, hms⟩ := h
    rw [parseDateMs_of_reading reading hread]
    exact (reading.instantOf_eq_some_iff ms).mpr hms

end PsStore
