import PsStore.Domain.DateGrammar
import PsStore.Lib.Checked

set_option relaxedAutoImplicit false
set_option autoImplicit false

/-!
# Date texts in machine integers

`parse_date_ms` in the integers of the source, with a fault where a result does not fit or the
timestamp comes before the first one, as in a build with overflow checks and debug assertions. The
counter of the fraction digits is the only one that can grow without a bound. The position in the
text is no number here; it is at most the length of the text.

## Main definitions

* `parseDateMsChecked` — the parser in machine integers.
* `LongFraction` — a text whose fraction has more digits than the counter can count.
* `BeforeFirstInstant` — a text that is read less than a second before the timestamp range.

## Main results

* `parseDateMsChecked_eq` — without a long fraction the parser ends like `parseDateMs`, up to an
  assertion on the instant.
* `parseDateMsChecked_of_long` — with one it overflows.
* `parseDateMsChecked_iff` — the texts on which the parser keeps to the grammar.
-/

namespace PsStore

open Checked

namespace Cursor

/-! ## The cursor -/

/-- Exactly `count` more ASCII digits after the value read so far. -/
def digitsFromChecked : ℕ → ℤ → Cursor → Checked (ℤ × Cursor)
  | 0, value, cursor => ended (some (value, cursor))
  | count + 1, value, c :: rest =>
    if isDigit c then do
      let shifted ← signed 64 (value * 10)
      let value ← signed 64 (shifted + digitValue c)
      digitsFromChecked count value rest
    else ended none
  | _ + 1, _, [] => ended none

/-- Exactly `count` ASCII digits. -/
def digitsChecked (count : ℕ) (cursor : Cursor) : Checked (ℤ × Cursor) :=
  digitsFromChecked count 0 cursor

/-- `YYYY`, or a sign and six digits. `-000000` is invalid. -/
def yearChecked : Cursor → Checked (ℤ × Cursor)
  | '+' :: rest => digitsChecked 6 rest
  | '-' :: rest => do
    let (value, rest) ← digitsChecked 6 rest
    if value ≠ 0 then
      let value ← signed 64 (-value)
      ended (some (value, rest))
    else ended none
  | cursor => digitsChecked 4 cursor

/-- The fraction digits: the value of the first three, the number of digits read, and the rest. The
number of digits is an `i32`. -/
def fractionDigitsChecked : ℤ → ℤ → Cursor → Checked (ℤ × ℤ × Cursor)
  | count, value, c :: rest =>
    if isDigit c then do
      let value ← if count < 3 then do
          let shifted ← signed 64 (value * 10)
          signed 64 (shifted + digitValue c)
        else ended (some value)
      let count ← signed 32 (count + 1)
      fractionDigitsChecked count value rest
    else ended (some (value, count, c :: rest))
  | count, value, [] => ended (some (value, count, []))

/-- One or more fraction digits as milliseconds. Digits after the third are dropped. -/
def fractionMsChecked (cursor : Cursor) : Checked (ℤ × Cursor) := do
  let (value, count, rest) ← fractionDigitsChecked 0 0 cursor
  if count = 0 then ended none
  else if count = 1 then
    let millisecond ← signed 64 (value * 100)
    ended (some (millisecond, rest))
  else if count = 2 then
    let millisecond ← signed 64 (value * 10)
    ended (some (millisecond, rest))
  else ended (some (value, rest))

/-- The hours and minutes of an offset after its sign, in seconds. -/
def offsetSecondsChecked (sign : ℤ) (cursor : Cursor) : Checked (ℤ × Cursor) := do
  let (hours, cursor) ← digitsChecked 2 cursor
  let (minutes, cursor) ← digitsChecked 2 (cursor.eat ':').2
  if hours > 23 ∨ minutes > 59 then ended none else
  let hourSeconds ← signed 64 (hours * 3600)
  let minuteSeconds ← signed 64 (minutes * 60)
  let seconds ← signed 64 (hourSeconds + minuteSeconds)
  let seconds ← signed 64 (sign * seconds)
  -- `i32::try_from`
  if -2 ^ 31 ≤ seconds ∧ seconds < 2 ^ 31 then ended (some (seconds, cursor)) else ended none

/-- The offset in seconds east of UTC: `Z`, `z`, `±HH:mm`, `±HHmm`, or none. -/
def offsetChecked (cursor : Cursor) : Checked (ℤ × Cursor) :=
  match cursor.eatAny ['Z', 'z'] with
  | (true, rest) => ended (some (0, rest))
  | (false, '+' :: rest) => offsetSecondsChecked 1 rest
  | (false, '-' :: rest) => offsetSecondsChecked (-1) rest
  | (false, cursor) => ended (some (0, cursor))

/-- The month and the day, each 1 where the text stops before it. -/
def monthDayChecked (cursor : Cursor) : Checked (ℤ × ℤ × Cursor) :=
  match cursor.eat '-' with
  | (false, cursor) => ended (some (1, 1, cursor))
  | (true, cursor) => do
    let (month, cursor) ← digitsChecked 2 cursor
    match cursor.eat '-' with
    | (false, cursor) => ended (some (month, 1, cursor))
    | (true, cursor) =>
      let (day, cursor) ← digitsChecked 2 cursor
      ended (some (month, day, cursor))

/-- The seconds and the fraction after the minutes of a time. -/
def secondMsChecked (cursor : Cursor) : Checked (ℤ × ℤ × Cursor) :=
  match cursor.eat ':' with
  | (false, cursor) => ended (some (0, 0, cursor))
  | (true, cursor) => do
    let (second, cursor) ← digitsChecked 2 cursor
    match cursor.eat '.' with
    | (false, cursor) => ended (some (second, 0, cursor))
    | (true, cursor) =>
      let (millisecond, cursor) ← fractionMsChecked cursor
      ended (some (second, millisecond, cursor))

/-- The optional time after `T`, `t`, or a space. -/
def timeChecked (cursor : Cursor) : Checked (TimeOfDay × Cursor) :=
  match cursor.eatAny ['T', 't', ' '] with
  | (false, cursor) => ended (some ({}, cursor))
  | (true, cursor) => do
    let (hour, cursor) ← digitsChecked 2 cursor
    let cursor ← ended (cursor.expect ':')
    let (minute, cursor) ← digitsChecked 2 cursor
    let (second, millisecond, cursor) ← cursor.secondMsChecked
    ended (some ({ hour, minute, second, millisecond }, cursor))

end Cursor

/-! ## The parser -/

/-- The assertion on the milliseconds of a timestamp: they do not come before the first one. It is
made where overflows are checked. -/
def assertTimestamp : Option ℤ → Checked ℤ
  | none => ended none
  | some ms => if ms < minInstantMs then asserted else ended (some ms)

/-- The instant of the parts of a date text. The year is an `i16` for the calendar, and the
fraction of a second is an `i32` of nanoseconds. -/
def instantOfChecked (year month day : ℤ) (time : TimeOfDay) (offset : ℤ) : Checked ℤ := do
  let date ← ended (firstOfMonth year month)
  let days ← signed 64 (day - 1)
  let date ← ended (addDays date days)
  let (date, time) ← ended (if time.endOfDay then
    (addDays date 1).map fun date => (date, { time with hour := 0 })
  else some (date, time))
  let _ ← signed 32 (time.millisecond * 1000000)
  assertTimestamp (toTimestamp (date * 86400000 + time.ms - offset * 1000))

/-- `parse_date_ms` in machine integers. -/
def parseDateMsChecked (text : String) : Checked ℤ := do
  let (year, cursor) ← Cursor.yearChecked text.toList
  let (month, day, cursor) ← cursor.monthDayChecked
  if ¬(1 ≤ month ∧ month ≤ 12) ∨ ¬(1 ≤ day ∧ day ≤ 31) then ended none else
  let (time, cursor) ← cursor.timeChecked
  let (offset, cursor) ← cursor.offsetChecked
  if cursor ≠ [] then ended none else
  if (time.hour > 23 ∧ time.endOfDay = false) ∨ time.minute > 59 ∨ time.second > 59 then ended none
  else instantOfChecked year month day time offset

/-! ## The digits -/

namespace Cursor

/-- A value that has places left in 63 bits is read on without an overflow. -/
lemma digitsFromChecked_eq {count : ℕ} {value : ℤ} (cursor : Cursor) (hlow : 0 ≤ value)
    (hhigh : (value + 1) * 10 ^ count ≤ 2 ^ 63) :
    digitsFromChecked count value cursor = ended (digitsFrom count value cursor) := by
  induction count generalizing value cursor with
  | zero => rfl
  | succ count ih =>
    cases cursor with
    | nil => rfl
    | cons c rest =>
      rw [digitsFromChecked, digitsFrom]
      by_cases hc : isDigit c = true
      · obtain ⟨hdigit0, hdigit9⟩ := digitValue_bounds hc
        have hpow : (1 : ℤ) ≤ 10 ^ count := one_le_pow₀ (by norm_num)
        have hnext : (value * 10 + digitValue c + 1) * 10 ^ count ≤ 2 ^ 63 := by
          calc (value * 10 + digitValue c + 1) * 10 ^ count
              ≤ ((value + 1) * 10) * 10 ^ count := by
                apply mul_le_mul_of_nonneg_right _ (by omega)
                linarith
            _ = (value + 1) * 10 ^ (count + 1) := by ring
            _ ≤ 2 ^ 63 := hhigh
        have hfits : value * 10 + digitValue c + 1 ≤ 2 ^ 63 := by nlinarith
        rw [if_pos hc, if_pos hc, signed_eq (by omega) (by omega), ended_some_bind,
          signed_eq (by omega) (by omega), ended_some_bind]
        exact ih rest (by omega) hnext
      · rw [if_neg hc, if_neg hc]

/-- The numbers of a date text are read without an overflow. -/
lemma digitsChecked_eq {count : ℕ} (cursor : Cursor) (h : count ≤ 6) :
    digitsChecked count cursor = ended (digits count cursor) := by
  have hpow : (10 : ℤ) ^ count ≤ 10 ^ 6 := pow_le_pow_right₀ (by norm_num) h
  exact digitsFromChecked_eq cursor le_rfl (by norm_num at hpow ⊢; linarith)

/-- The value of digits that are read has no more decimal places than there are digits. -/
lemma digits_bounds {count : ℕ} {value : ℤ} {cursor rest : Cursor}
    (h : digits count cursor = some (value, rest)) : 0 ≤ value ∧ value < 10 ^ count := by
  obtain ⟨text, -, hdigits⟩ := exists_of_digits h
  have hbounds := decimalValue_bounds hdigits.digits
  rw [hdigits.value, hdigits.length] at hbounds
  exact hbounds

/-- A year is read without an overflow. -/
lemma yearChecked_eq (cursor : Cursor) : yearChecked cursor = ended (year cursor) := by
  unfold yearChecked
  split
  · exact digitsChecked_eq _ le_rfl
  · rw [digitsChecked_eq _ le_rfl]
    apply ended_bind
    rintro ⟨value, rest⟩ hread
    obtain ⟨hlow, hhigh⟩ := digits_bounds hread
    dsimp only
    split_ifs with hne
    · rw [signed_eq (by omega) (by omega), ended_some_bind]
    · rfl
  · rename_i hplus hminus
    unfold year
    split
    · exact absurd rfl (hplus _)
    · exact absurd rfl (hminus _)
    · exact digitsChecked_eq _ (by norm_num)

/-- A month and a day are read without an overflow. -/
lemma monthDayChecked_eq (cursor : Cursor) :
    monthDayChecked cursor = ended (monthDay cursor) := by
  unfold monthDayChecked monthDay
  rcases eat_cases '-' cursor with ⟨cursor, rfl, heat⟩ | ⟨-, heat⟩
  · rw [heat]
    dsimp only
    rw [digitsChecked_eq _ (by norm_num)]
    apply ended_bind
    rintro ⟨month, cursor⟩ -
    dsimp only
    rcases eat_cases '-' cursor with ⟨cursor, rfl, heat⟩ | ⟨-, heat⟩
    · rw [heat]
      dsimp only
      rw [digitsChecked_eq _ (by norm_num)]
      exact ended_bind fun _ _ => rfl
    · rw [heat]
  · rw [heat]

/-- The seconds of an offset are read without an overflow. -/
lemma offsetSecondsChecked_eq {sign : ℤ} (hsign : sign = 1 ∨ sign = -1) (cursor : Cursor) :
    offsetSecondsChecked sign cursor = ended (offsetSeconds sign cursor) := by
  unfold offsetSecondsChecked offsetSeconds
  rw [digitsChecked_eq _ (by norm_num)]
  apply ended_bind
  rintro ⟨hours, rest⟩ hhours
  obtain ⟨hlowHours, -⟩ := digits_bounds hhours
  dsimp only
  rw [digitsChecked_eq _ (by norm_num)]
  apply ended_bind
  rintro ⟨minutes, rest⟩ hminutes
  obtain ⟨hlowMinutes, -⟩ := digits_bounds hminutes
  dsimp only
  split_ifs with hrange
  · rfl
  · have hseconds : -86340 ≤ sign * (hours * 3600 + minutes * 60) ∧
        sign * (hours * 3600 + minutes * 60) ≤ 86340 := by
      rcases hsign with rfl | rfl
      · omega
      · omega
    rw [signed_eq (by omega) (by omega), ended_some_bind, signed_eq (by omega) (by omega),
      ended_some_bind, signed_eq (by omega) (by omega), ended_some_bind,
      signed_eq (by omega) (by omega), ended_some_bind, if_pos (by omega)]

/-- An offset is read without an overflow. -/
lemma offsetChecked_eq (cursor : Cursor) : offsetChecked cursor = ended (offset cursor) := by
  unfold offsetChecked offset
  generalize eatAny ['Z', 'z'] cursor = read
  match read with
  | (true, rest) => rfl
  | (false, []) => rfl
  | (false, c :: rest) =>
    by_cases hplus : c = '+'
    · subst hplus
      exact offsetSecondsChecked_eq (Or.inl rfl) rest
    · by_cases hminus : c = '-'
      · subst hminus
        exact offsetSecondsChecked_eq (Or.inr rfl) rest
      · simp [hplus, hminus]

/-! ## The fraction -/

/-- One digit of a fraction: only its count can overflow. -/
lemma fractionDigitsChecked_cons {count : ℕ} {value : ℤ} {c : Char} (hc : isDigit c = true)
    (hlow : 0 ≤ value) (hhigh : value < 10 ^ count) (rest : Cursor) :
    fractionDigitsChecked count value (c :: rest) =
      signed 32 (count + 1) >>= fun next =>
        fractionDigitsChecked next (if count < 3 then value * 10 + digitValue c else value)
          rest := by
  obtain ⟨hdigit0, hdigit9⟩ := digitValue_bounds hc
  rw [fractionDigitsChecked, if_pos hc]
  by_cases hcount : count < 3
  · have hvalue : value < 100 := by
      calc value < 10 ^ count := hhigh
        _ ≤ 10 ^ 2 := pow_le_pow_right₀ (by norm_num) (by omega)
        _ = 100 := by norm_num
    rw [if_pos (by omega), if_pos hcount, signed_eq (by omega) (by omega), ended_some_bind,
      signed_eq (by omega) (by omega), ended_some_bind]
  · rw [if_neg (by omega), if_neg hcount, ended_some_bind]

/-- The value of a fraction keeps to its places. -/
lemma fraction_value_bounds {count : ℕ} {value : ℤ} {c : Char} (hc : isDigit c = true)
    (hlow : 0 ≤ value) (hhigh : value < 10 ^ count) :
    0 ≤ (if count < 3 then value * 10 + digitValue c else value) ∧
      (if count < 3 then value * 10 + digitValue c else value) < 10 ^ (count + 1) := by
  obtain ⟨hdigit0, hdigit9⟩ := digitValue_bounds hc
  rw [pow_succ]
  split_ifs
  · constructor
    · omega
    · linarith
  · constructor
    · exact hlow
    · linarith

/-- A text that starts with more digits than the counter can count. -/
def LongDigits (cursor : Cursor) : Prop :=
  ∃ digits rest, cursor = digits ++ rest ∧ (∀ c ∈ digits, isDigit c = true) ∧
    2 ^ 31 ≤ digits.length

/-- **More digits than the counter can count** overflow it. -/
lemma fractionDigitsChecked_of_long {count : ℕ} {value : ℤ} {digits : List Char}
    (hdigits : ∀ c ∈ digits, isDigit c = true) (hcount : count < 2 ^ 31)
    (hlong : 2 ^ 31 ≤ count + digits.length) (hlow : 0 ≤ value) (hhigh : value < 10 ^ count)
    (rest : Cursor) : fractionDigitsChecked count value (digits ++ rest) = overflowed := by
  induction digits generalizing count value with
  | nil =>
    rw [List.length_nil] at hlong
    omega
  | cons c digits ih =>
    obtain ⟨hc, hdigits⟩ := List.forall_mem_cons.mp hdigits
    obtain ⟨hlow', hhigh'⟩ := fraction_value_bounds hc hlow hhigh
    rw [List.length_cons] at hlong
    rw [List.cons_append, fractionDigitsChecked_cons hc hlow hhigh]
    by_cases hnext : count + 1 < 2 ^ 31
    · have htail := @ih (count + 1) _ hdigits hnext (by omega) hlow' hhigh'
      rw [Nat.cast_add, Nat.cast_one] at htail
      rw [signed_eq (by omega) (by omega), ended_some_bind]
      exact htail
    · rw [signed_eq_overflowed (by omega), overflowed_bind]

/-- Digits that the counter can count are read without an overflow. -/
lemma fractionDigitsChecked_eq {count : ℕ} {value : ℤ} {cursor : Cursor}
    (hshort : ∀ digits rest, cursor = digits ++ rest → (∀ c ∈ digits, isDigit c = true) →
      count + digits.length < 2 ^ 31) (hlow : 0 ≤ value) (hhigh : value < 10 ^ count) :
    ∃ (result : ℤ) (n : ℕ) (rest : Cursor),
      fractionDigits count value cursor = (result, n, rest) ∧ 0 ≤ result ∧ result < 10 ^ n ∧
        fractionDigitsChecked count value cursor = ended (some (result, (n : ℤ), rest)) := by
  induction cursor generalizing count value with
  | nil => exact ⟨value, count, [], rfl, hlow, hhigh, rfl⟩
  | cons c tail ih =>
    by_cases hc : isDigit c = true
    · obtain ⟨hlow', hhigh'⟩ := fraction_value_bounds hc hlow hhigh
      have hnext : count + 1 < 2 ^ 31 := hshort [c] tail rfl (by simpa using hc)
      obtain ⟨result, n, rest, hread, hresult⟩ := @ih (count + 1) _ (by
        intro digits rest htail hdigits
        have hlength := hshort (c :: digits) rest (by rw [htail, List.cons_append])
          (List.forall_mem_cons.mpr ⟨hc, hdigits⟩)
        rw [List.length_cons] at hlength
        omega) hlow' hhigh'
      refine ⟨result, n, rest, ?_, ?_⟩
      · rw [fractionDigits, if_pos hc, hread]
      · rw [fractionDigitsChecked_cons hc hlow hhigh, signed_eq (by omega) (by omega),
          ended_some_bind]
        exact_mod_cast hresult
    · refine ⟨value, count, c :: tail, ?_, hlow, hhigh, ?_⟩
      · rw [fractionDigits, if_neg hc]
      · rw [fractionDigitsChecked, if_neg hc]

/-- A long fraction overflows. -/
lemma fractionMsChecked_of_long {cursor : Cursor} (h : LongDigits cursor) :
    fractionMsChecked cursor = overflowed := by
  obtain ⟨digits, rest, rfl, hdigits, hlong⟩ := h
  have hread := @fractionDigitsChecked_of_long 0 0 digits hdigits (by norm_num) (by omega) le_rfl
    (by norm_num) rest
  rw [Nat.cast_zero] at hread
  unfold fractionMsChecked
  rw [hread, overflowed_bind]

/-- A fraction that is not long is read without an overflow. -/
lemma fractionMsChecked_eq {cursor : Cursor} (h : ¬ LongDigits cursor) :
    fractionMsChecked cursor = ended (fractionMs cursor) := by
  obtain ⟨value, n, rest, hread, hlow, hhigh, hchecked⟩ := @fractionDigitsChecked_eq 0 0 cursor (by
    intro digits rest hcursor hdigits
    by_contra hlong
    exact h ⟨digits, rest, hcursor, hdigits, by omega⟩) le_rfl (by norm_num)
  rw [Nat.cast_zero] at hchecked
  unfold fractionMsChecked fractionMs
  rw [hchecked, ended_some_bind, hread]
  match n with
  | 0 => rfl
  | 1 =>
    dsimp only
    rw [if_neg (by decide), if_pos (by decide), signed_eq (by omega) (by omega), ended_some_bind]
    rfl
  | 2 =>
    dsimp only
    rw [if_neg (by decide), if_neg (by decide), if_pos (by decide), signed_eq (by omega) (by omega),
      ended_some_bind]
    rfl
  | n + 3 =>
    dsimp only
    rw [if_neg (by omega), if_neg (by omega), if_neg (by omega)]
    rfl

/-! ## The time -/

/-- Seconds with a long fraction. -/
def LongSecond (cursor : Cursor) : Prop :=
  ∃ text second rest, cursor = ':' :: (text ++ '.' :: rest) ∧ Digits 2 text second ∧
    LongDigits rest

/-- A time with a long fraction. -/
def LongTime (cursor : Cursor) : Prop :=
  ∃ mark hourText hour minuteText minute rest,
    cursor = mark :: (hourText ++ ':' :: (minuteText ++ rest)) ∧ mark ∈ timeMarks ∧
      Digits 2 hourText hour ∧ Digits 2 minuteText minute ∧ LongSecond rest

/-- Seconds with a long fraction overflow. -/
lemma secondMsChecked_of_long {cursor : Cursor} (h : LongSecond cursor) :
    secondMsChecked cursor = overflowed := by
  obtain ⟨text, second, rest, rfl, hsecond, hlong⟩ := h
  unfold secondMsChecked
  rw [eat_cons]
  dsimp only
  rw [digitsChecked_eq _ (by norm_num), digits_append hsecond, ended_some_bind]
  dsimp only
  rw [eat_cons]
  dsimp only
  rw [fractionMsChecked_of_long hlong, overflowed_bind]

/-- Seconds without a long fraction are read without an overflow. -/
lemma secondMsChecked_eq {cursor : Cursor} (h : ¬ LongSecond cursor) :
    secondMsChecked cursor = ended (secondMs cursor) := by
  unfold secondMsChecked secondMs
  rcases eat_cases ':' cursor with ⟨cursor, rfl, heat⟩ | ⟨-, heat⟩
  · rw [heat]
    dsimp only
    rw [digitsChecked_eq _ (by norm_num)]
    apply ended_bind
    rintro ⟨second, cursor⟩ hread
    obtain ⟨text, rfl, hsecond⟩ := exists_of_digits hread
    dsimp only
    rcases eat_cases '.' cursor with ⟨cursor, rfl, heat⟩ | ⟨-, heat⟩
    · have hshort : ¬ LongDigits cursor :=
        fun hlong => h ⟨text, second, cursor, rfl, hsecond, hlong⟩
      rw [heat]
      dsimp only
      rw [fractionMsChecked_eq hshort]
      exact ended_bind fun _ _ => rfl
    · rw [heat]
  · rw [heat]

/-- A time with a long fraction overflows. -/
lemma timeChecked_of_long {cursor : Cursor} (h : LongTime cursor) :
    timeChecked cursor = overflowed := by
  obtain ⟨mark, hourText, hour, minuteText, minute, rest, rfl, hmark, hhour, hminute, hlong⟩ := h
  have hcolon : ∀ cursor : Cursor, expect ':' (':' :: cursor) = some cursor := fun _ => rfl
  unfold timeChecked
  rw [show (['T', 't', ' '] : List Char) = timeMarks from rfl, eatAny_cons hmark]
  dsimp only
  rw [digitsChecked_eq _ (by norm_num), digits_append hhour, ended_some_bind]
  dsimp only
  rw [hcolon, ended_some_bind, digitsChecked_eq _ (by norm_num), digits_append hminute,
    ended_some_bind]
  dsimp only
  rw [secondMsChecked_of_long hlong, overflowed_bind]

/-- A time without a long fraction is read without an overflow. -/
lemma timeChecked_eq {cursor : Cursor} (h : ¬ LongTime cursor) :
    timeChecked cursor = ended (time cursor) := by
  unfold timeChecked time
  rw [show (['T', 't', ' '] : List Char) = timeMarks from rfl]
  rcases eatAny_cases timeMarks cursor with ⟨mark, cursor, rfl, hmark, heat⟩ | ⟨-, heat⟩
  · rw [heat]
    dsimp only
    rw [digitsChecked_eq _ (by norm_num)]
    apply ended_bind
    rintro ⟨hour, cursor⟩ hread
    obtain ⟨hourText, rfl, hhour⟩ := exists_of_digits hread
    dsimp only
    apply ended_bind
    rintro tail hcolon
    obtain rfl := exists_of_expect hcolon
    rw [digitsChecked_eq _ (by norm_num)]
    apply ended_bind
    rintro ⟨minute, cursor⟩ hread
    obtain ⟨minuteText, rfl, hminute⟩ := exists_of_digits hread
    have hshort : ¬ LongSecond cursor := fun hlong =>
      h ⟨mark, hourText, hour, minuteText, minute, cursor, rfl, hmark, hhour, hminute, hlong⟩
    dsimp only
    rw [secondMsChecked_eq hshort]
    exact ended_bind fun _ _ => rfl
  · rw [heat]

end Cursor

/-! ## The whole text -/

/-- A text with a date in range and then a time whose fraction has more digits than the counter can
count: 2^31 or more. -/
def LongFraction (text : String) : Prop :=
  ∃ yearText year dayText month day rest, text.toList = yearText ++ (dayText ++ rest) ∧
    YearText yearText year ∧ DayText dayText month day ∧ (1 ≤ month ∧ month ≤ 12) ∧
    (1 ≤ day ∧ day ≤ 31) ∧ Cursor.LongTime rest

/-- A text names an instant of the timestamp range: it is a text of the grammar, with that
instant. -/
def NamesInstant (text : String) (ms : ℤ) : Prop :=
  ∃ reading : DateReading text.toList, reading.instant = ms ∧ minInstantMs ≤ ms ∧
    ms ≤ maxInstantMs

/-- A text with an instant of the timestamp range, where a negative offset follows the year or the
month at once. -/
def MisreadInstant (text : String) : Prop :=
  ∃ reading : DateReading text.toList, reading.Misread ∧ minInstantMs ≤ reading.instant ∧
    reading.instant ≤ maxInstantMs

/-- A text of the grammar that is not misread, with an instant that is less than a second before
the first one of the timestamp range. -/
def BeforeFirstInstant (text : String) : Prop :=
  ∃ reading : DateReading text.toList, ¬ reading.Misread ∧
    minInstantMs - 1000 < reading.instant ∧ reading.instant < minInstantMs

/-- Steps without an overflow end like the sequence of their outcomes, up to the assertion on the
last one. -/
lemma ended_bind_assertTimestamp {α : Type} {outcome : Option α} {f : α → Checked ℤ}
    {g : α → Option ℤ} (h : ∀ a, outcome = some a → f a = assertTimestamp (g a)) :
    ended outcome >>= f = assertTimestamp (outcome >>= g) := ended_bind_of_check rfl h

/-- The parts of a date make an instant without an overflow, up to the assertion on it. -/
lemma instantOfChecked_eq {day : ℤ} (hday : 1 ≤ day ∧ day ≤ 31) {time : TimeOfDay}
    (hms : 0 ≤ time.millisecond ∧ time.millisecond ≤ 999) (year month offset : ℤ) :
    instantOfChecked year month day time offset =
      assertTimestamp (instantOf year month day time offset) := by
  unfold instantOfChecked instantOf
  apply ended_bind_assertTimestamp
  intro first _
  rw [signed_eq (by omega) (by omega), ended_some_bind]
  apply ended_bind_assertTimestamp
  intro date _
  dsimp only
  by_cases hend : time.endOfDay = true
  · rw [if_pos hend, if_pos hend]
    apply ended_bind_assertTimestamp
    intro parts hparts
    obtain ⟨next, -, rfl⟩ := Option.map_eq_some_iff.mp hparts
    dsimp only
    rw [signed_eq (by omega) (by omega), ended_some_bind]
  · rw [if_neg hend, if_neg hend, ended_some_bind, Option.bind_eq_bind, Option.bind_some]
    dsimp only
    rw [signed_eq (by omega) (by omega), ended_some_bind]

/-- **With a long fraction the parser overflows.** -/
theorem parseDateMsChecked_of_long {text : String} (h : LongFraction text) :
    parseDateMsChecked text = overflowed := by
  obtain ⟨yearText, year, dayText, month, day, rest, htext, hyear, hdate, hmonth, hday, hlong⟩ := h
  have hnext : dayText.length < 6 → rest.head? ≠ some '-' := by
    obtain ⟨mark, hourText, hour, minuteText, minute, tail, rfl, hmark, -⟩ := hlong
    intro _ hhead
    obtain rfl := Option.some.inj hhead
    exact absurd hmark (by decide)
  unfold parseDateMsChecked
  rw [htext, Cursor.yearChecked_eq, Cursor.year_append hyear, ended_some_bind]
  dsimp only
  rw [Cursor.monthDayChecked_eq, Cursor.monthDay_append hdate hnext, ended_some_bind]
  dsimp only
  rw [if_neg (by omega), Cursor.timeChecked_of_long hlong, overflowed_bind]

/-- **Without a long fraction the parser ends like `parseDateMs`**, up to the assertion on the
instant.

**Proof sketch.** The two parsers read the same cursors in the same order. The checks of a cursor do
not fail (`Cursor.yearChecked_eq`, `Cursor.monthDayChecked_eq`, `Cursor.offsetChecked_eq`) but for
those of a time with a long fraction, and the sums of the instant stay in range but for the
assertion (`instantOfChecked_eq`). -/
theorem parseDateMsChecked_eq {text : String} (h : ¬ LongFraction text) :
    parseDateMsChecked text = assertTimestamp (parseDateMs text) := by
  unfold parseDateMsChecked parseDateMs
  rw [Cursor.yearChecked_eq]
  apply ended_bind_assertTimestamp
  rintro ⟨year, cursor⟩ hread
  obtain ⟨yearText, htext, hyear⟩ := Cursor.exists_of_year hread
  dsimp only
  rw [Cursor.monthDayChecked_eq]
  apply ended_bind_assertTimestamp
  rintro ⟨month, day, cursor⟩ hread
  obtain ⟨dayText, rfl, hdate, -⟩ := Cursor.exists_of_monthDay hread
  dsimp only
  split_ifs with hrange
  · rfl
  · rw [not_or, not_not, not_not] at hrange
    have hshort : ¬ Cursor.LongTime cursor := fun hlong =>
      h ⟨yearText, year, dayText, month, day, cursor, htext, hyear, hdate, hrange.1, hrange.2,
        hlong⟩
    rw [Cursor.timeChecked_eq hshort]
    apply ended_bind_assertTimestamp
    rintro ⟨time, cursor⟩ hread
    obtain ⟨timeText, -, htime⟩ := Cursor.exists_of_time hread
    obtain ⟨-, -, -, hms⟩ := DateReading.time_bounds htime
    dsimp only
    rw [Cursor.offsetChecked_eq]
    apply ended_bind_assertTimestamp
    rintro ⟨offset, cursor⟩ -
    dsimp only
    split_ifs
    · rfl
    · rfl
    · exact instantOfChecked_eq hrange.2 hms year month offset

/-- The assertion fails exactly before the first instant. -/
lemma assertTimestamp_eq_ended_iff (outcome read : Option ℤ) :
    assertTimestamp outcome = ended read ↔
      outcome = read ∧ ∀ ms, outcome = some ms → minInstantMs ≤ ms := by
  cases outcome with
  | none =>
    constructor
    · intro h
      exact ⟨ended_injective h, fun ms hms => nomatch hms⟩
    · intro h
      rw [← h.1]
      rfl
  | some ms =>
    rw [assertTimestamp]
    split_ifs with hbefore
    · constructor
      · intro h
        exact absurd h.symm (ended_ne_asserted read)
      · intro h
        exact absurd (h.2 ms rfl) (not_le.mpr hbefore)
    · constructor
      · intro h
        refine ⟨ended_injective h, ?_⟩
        rintro _ ⟨⟩
        exact not_lt.mp hbefore
      · intro h
        rw [h.1]

/-- A text that is read before the first instant is one of the grammar. -/
lemma beforeFirstInstant_iff (text : String) :
    BeforeFirstInstant text ↔ ∃ ms, parseDateMs text = some ms ∧ ms < minInstantMs := by
  constructor
  · rintro ⟨reading, hread, hlow, hbefore⟩
    refine ⟨reading.instant, ?_, hbefore⟩
    rw [parseDateMs_eq_some_iff]
    exact ⟨reading, hread, rfl, hlow, hbefore.le.trans (by decide)⟩
  · rintro ⟨ms, hms, hbefore⟩
    obtain ⟨reading, hread, rfl, hlow, -⟩ := (parseDateMs_eq_some_iff text ms).mp hms
    exact ⟨reading, hread, hlow, hbefore⟩

/-- **Where the parser keeps to the grammar.** It ends without a fault and reads exactly the
instants that the text names, where and only where the text has no fraction of 2^31 digits, names
no instant with a negative offset right after its year or its month, and is no text that is read
less than a second before the first instant.

**Proof sketch.** With a long fraction the counter of its digits overflows. Otherwise the parser
ends like `parseDateMs` up to the assertion on the instant (`parseDateMsChecked_eq`), and the texts
that `parseDateMs` reads are those of the grammar that are not misread
(`parseDateMs_eq_some_iff`). The assertion fails for one of these exactly before the first
instant. -/
theorem parseDateMsChecked_iff (text : String) :
    (∃ read, parseDateMsChecked text = ended read ∧ ∀ ms, read = some ms ↔ NamesInstant text ms) ↔
      ¬ LongFraction text ∧ ¬ MisreadInstant text ∧ ¬ BeforeFirstInstant text := by
  constructor
  · intro h
    obtain ⟨read, hread, hexact⟩ := h
    have hshort : ¬ LongFraction text := by
      intro hlong
      rw [parseDateMsChecked_of_long hlong] at hread
      exact ended_ne_overflowed read hread.symm
    rw [parseDateMsChecked_eq hshort, assertTimestamp_eq_ended_iff] at hread
    obtain ⟨rfl, hafter⟩ := hread
    refine ⟨hshort, ?_, ?_⟩
    · rintro ⟨reading, hmisread, hlow, hhigh⟩
      have hread := (hexact reading.instant).mpr ⟨reading, rfl, hlow, hhigh⟩
      rw [parseDateMs_of_misread reading hmisread] at hread
      cases hread
    · rw [beforeFirstInstant_iff]
      rintro ⟨ms, hms, hbefore⟩
      exact absurd (hafter ms hms) (not_le.mpr hbefore)
  · intro h
    obtain ⟨hshort, hnotMisread, hnotBefore⟩ := h
    rw [beforeFirstInstant_iff] at hnotBefore
    have hafter : ∀ ms, parseDateMs text = some ms → minInstantMs ≤ ms := by
      intro ms hms
      exact not_lt.mp fun hbefore => hnotBefore ⟨ms, hms, hbefore⟩
    refine ⟨parseDateMs text, ?_, ?_⟩
    · rw [parseDateMsChecked_eq hshort, assertTimestamp_eq_ended_iff]
      exact ⟨rfl, hafter⟩
    · intro ms
      constructor
      · intro hread
        obtain ⟨reading, -, hms, -, hhigh⟩ := (parseDateMs_eq_some_iff text ms).mp hread
        exact ⟨reading, hms, hafter ms hread, hhigh⟩
      · intro hnamed
        obtain ⟨reading, rfl, hlow, hhigh⟩ := hnamed
        rw [parseDateMs_eq_some_iff]
        refine ⟨reading, ?_, rfl, ?_, hhigh⟩
        · intro hmisread
          exact hnotMisread ⟨reading, hmisread, hlow, hhigh⟩
        · exact lt_of_lt_of_le (by decide) hlow

/-- A year, a month and an offset west of UTC name an instant, but are not read. -/
theorem parseDateMsChecked_fails :
    ¬ ∃ read, parseDateMsChecked "2024-06-02:00" = ended read ∧
      ∀ ms, read = some ms ↔ NamesInstant "2024-06-02:00" ms := by
  intro h
  obtain ⟨read, hread, hexact⟩ := h
  have hnone : parseDateMsChecked "2024-06-02:00" = ended none := by rfl
  rw [hnone] at hread
  obtain rfl := ended_injective hread
  let reading : DateReading "2024-06-02:00".toList :=
    { yearText := ['2', '0', '2', '4'], dayText := ['-', '0', '6'], timeText := []
      zoneText := ['-', '0', '2', ':', '0', '0'], year := 2024, month := 6, day := 1, time := {}
      offset := -1 * (2 * 3600 + 0 * 60)
      parts := by decide
      year_spec := .plain ⟨rfl, by decide, by decide⟩
      day_spec := .month ⟨rfl, by decide, by decide⟩
      time_spec := .none
      zone_spec := @ZoneText.offset '-' (-1) 2 0 ['0', '2'] [':'] ['0', '0'] (by decide)
        ⟨rfl, by decide, by decide⟩ (by decide) ⟨rfl, by decide, by decide⟩ (by decide)
      month_range := by decide
      day_range := by decide
      hour_range := by decide
      minute_range := by decide
      second_range := by decide }
  have hnamed : NamesInstant "2024-06-02:00" 1717207200000 := by
    refine ⟨reading, ?_, by decide, by decide⟩
    decide
  cases (hexact 1717207200000).mpr hnamed

end PsStore
