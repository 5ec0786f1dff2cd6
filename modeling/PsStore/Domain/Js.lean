import PsStore.Domain.Id
import PsStore.Lib.Calendar
import PsStore.Lib.Trim

set_option relaxedAutoImplicit false
set_option autoImplicit false

/-!
# Dates and white space in the JavaScript forms

`parse_date_ms`, `to_iso_string` and `js_trim` of `domain/js.rs`. Instants are milliseconds since
1970-01-01. The source reads bytes; every byte it accepts is ASCII, so the model reads
characters. The `jiff` calendar and its timestamp range appear as the day numbers of
`PsStore.Lib.Calendar` with the documented bounds.

## Main definitions

* `parseDateMs` — the instant of a date text, or `none` where JavaScript gives `NaN`.
* `toTimestamp`, `fromMillisecond` — the two ways to an instant of the timestamp range. They differ
  in the last fractions of a second at its ends.
* `toIsoString` — the `toISOString` form of an instant.
* `toIsoOrDefault` — a Sony date in that form, or the empty string.
* `isWhitespace`, `isSpaceSeparator` — the white space of the standard library, and the space
  separators of Unicode.
* `isJsSpace`, `jsTrim` — the white space of JavaScript, and its trim.

## Main results

* `toIsoOrDefault_none`, `toIsoOrDefault_empty` — a missing date is never replaced by a guess.
* `isJsSpace_eq` — the white space of JavaScript by the space separators.
-/

namespace PsStore

/-! ## The ranges of the calendar library -/

/-- The day number of -9999-01-01, the first civil date. -/
def minDay : ℤ := -4371587

/-- The day number of 9999-12-31, the last civil date. -/
def maxDay : ℤ := 2932896

/-- The first instant of the timestamp range, -9999-01-02T01:59:59Z. -/
def minInstantMs : ℤ := -377705023201000

/-- The last instant of the timestamp range, 9999-12-30T22:00:00.999Z. -/
def maxInstantMs : ℤ := 253402207200999

/-- `Date::checked_add` of whole days, for a date given by its day number. -/
def addDays (day days : ℤ) : Option ℤ :=
  if minDay ≤ day + days ∧ day + days ≤ maxDay then some (day + days) else none

/-- `Date::new(year, month, 1)`: the day number of the first of a month in the civil range. -/
def firstOfMonth (year month : ℤ) : Option ℤ :=
  if -9999 ≤ year ∧ year ≤ 9999 then some (daysFromCivil year month 1) else none

/-- The last whole second of the timestamp range, 9999-12-30T22:00:00Z, in milliseconds. -/
def maxSecondMs : ℤ := 253402207200000

/-- `Offset::to_timestamp`: the instant of a civil time. Only its whole seconds, counted toward the
epoch, are compared with the timestamp range. So an instant less than a second before the first one
passes too, as the whole last second does. -/
def toTimestamp (ms : ℤ) : Option ℤ :=
  if minInstantMs - 1000 < ms ∧ ms ≤ maxInstantMs then some ms else none

/-- `Timestamp::from_millisecond`: its range ends at the whole seconds at both ends of the
timestamp range, so the milliseconds after the last second are refused. -/
def fromMillisecond (ms : ℤ) : Option ℤ :=
  if minInstantMs ≤ ms ∧ ms ≤ maxSecondMs then some ms else none

/-! ## The cursor over a date text -/

/-- The characters that the cursor has not read. -/
abbrev Cursor := List Char

/-- The value of an ASCII digit. -/
def digitValue (c : Char) : ℤ := c.toNat - '0'.toNat

namespace Cursor

/-- Reads one character of `options`, where it is the next one. -/
def eatAny (options : List Char) : Cursor → Bool × Cursor
  | c :: rest => if c ∈ options then (true, rest) else (false, c :: rest)
  | [] => (false, [])

/-- Reads `c`, where it is the next character. -/
def eat (c : Char) : Cursor → Bool × Cursor := eatAny [c]

/-- Reads `c`, or fails. -/
def expect (c : Char) (cursor : Cursor) : Option Cursor :=
  match cursor.eat c with
  | (true, rest) => some rest
  | (false, _) => none

/-- Exactly `count` more ASCII digits after the value read so far. -/
def digitsFrom : ℕ → ℤ → Cursor → Option (ℤ × Cursor)
  | 0, value, cursor => some (value, cursor)
  | count + 1, value, c :: rest =>
    if isDigit c then digitsFrom count (value * 10 + digitValue c) rest else none
  | _ + 1, _, [] => none

/-- Exactly `count` ASCII digits. -/
def digits (count : ℕ) (cursor : Cursor) : Option (ℤ × Cursor) := digitsFrom count 0 cursor

/-- `YYYY`, or a sign and six digits. `-000000` is invalid. -/
def year : Cursor → Option (ℤ × Cursor)
  | '+' :: rest => digits 6 rest
  | '-' :: rest => do
    let (value, rest) ← digits 6 rest
    if value ≠ 0 then some (-value, rest) else none
  | cursor => digits 4 cursor

/-- The fraction digits: the value of the first three, the number of digits read, and the rest. -/
def fractionDigits : ℕ → ℤ → Cursor → ℤ × ℕ × Cursor
  | count, value, c :: rest =>
    if isDigit c then
      fractionDigits (count + 1) (if count < 3 then value * 10 + digitValue c else value) rest
    else (value, count, c :: rest)
  | count, value, [] => (value, count, [])

/-- One or more fraction digits as milliseconds. Digits after the third are dropped. -/
def fractionMs (cursor : Cursor) : Option (ℤ × Cursor) :=
  match fractionDigits 0 0 cursor with
  | (_, 0, _) => none
  | (value, 1, rest) => some (value * 100, rest)
  | (value, 2, rest) => some (value * 10, rest)
  | (value, _, rest) => some (value, rest)

/-- The hours and minutes of an offset after its sign, in seconds. -/
def offsetSeconds (sign : ℤ) (cursor : Cursor) : Option (ℤ × Cursor) := do
  let (hours, cursor) ← digits 2 cursor
  let (minutes, cursor) ← digits 2 (cursor.eat ':').2
  if hours > 23 ∨ minutes > 59 then none else some (sign * (hours * 3600 + minutes * 60), cursor)

/-- The offset in seconds east of UTC: `Z`, `z`, `±HH:mm`, `±HHmm`, or none. -/
def offset (cursor : Cursor) : Option (ℤ × Cursor) :=
  match cursor.eatAny ['Z', 'z'] with
  | (true, rest) => some (0, rest)
  | (false, '+' :: rest) => offsetSeconds 1 rest
  | (false, '-' :: rest) => offsetSeconds (-1) rest
  | (false, cursor) => some (0, cursor)

/-- The month and the day, each 1 where the text stops before it. -/
def monthDay (cursor : Cursor) : Option (ℤ × ℤ × Cursor) :=
  match cursor.eat '-' with
  | (false, cursor) => some (1, 1, cursor)
  | (true, cursor) => do
    let (month, cursor) ← digits 2 cursor
    match cursor.eat '-' with
    | (false, cursor) => some (month, 1, cursor)
    | (true, cursor) =>
      let (day, cursor) ← digits 2 cursor
      some (month, day, cursor)

end Cursor

/-- The time of a date text. -/
structure TimeOfDay where
  hour : ℤ := 0
  minute : ℤ := 0
  second : ℤ := 0
  millisecond : ℤ := 0

namespace Cursor

/-- The seconds and the fraction after the minutes of a time. -/
def secondMs (cursor : Cursor) : Option (ℤ × ℤ × Cursor) :=
  match cursor.eat ':' with
  | (false, cursor) => some (0, 0, cursor)
  | (true, cursor) => do
    let (second, cursor) ← digits 2 cursor
    match cursor.eat '.' with
    | (false, cursor) => some (second, 0, cursor)
    | (true, cursor) =>
      let (millisecond, cursor) ← fractionMs cursor
      some (second, millisecond, cursor)

/-- The optional time after `T`, `t`, or a space. -/
def time (cursor : Cursor) : Option (TimeOfDay × Cursor) :=
  match cursor.eatAny ['T', 't', ' '] with
  | (false, cursor) => some ({}, cursor)
  | (true, cursor) => do
    let (hour, cursor) ← digits 2 cursor
    let cursor ← cursor.expect ':'
    let (minute, cursor) ← digits 2 cursor
    let (second, millisecond, cursor) ← cursor.secondMs
    some ({ hour, minute, second, millisecond }, cursor)

end Cursor

/-- The end of a day: `24:00`, with nothing after it. -/
def TimeOfDay.endOfDay (time : TimeOfDay) : Bool :=
  time.hour == 24 && time.minute == 0 && time.second == 0 && time.millisecond == 0

/-- The milliseconds of a time since the start of its day. -/
def TimeOfDay.ms (time : TimeOfDay) : ℤ :=
  ((time.hour * 60 + time.minute) * 60 + time.second) * 1000 + time.millisecond

/-- The instant of the parts of a date text. `24:00` is the start of the next day. -/
def instantOf (year month day : ℤ) (time : TimeOfDay) (offset : ℤ) : Option ℤ := do
  let date ← firstOfMonth year month
  let date ← addDays date (day - 1)
  let (date, time) ← if time.endOfDay then
    (addDays date 1).map fun date => (date, { time with hour := 0 })
  else some (date, time)
  toTimestamp (date * 86400000 + time.ms - offset * 1000)

/-- `Date.parse(text)`: the epoch milliseconds, or `none` where JavaScript gives `NaN`. -/
def parseDateMs (text : String) : Option ℤ := do
  let (year, cursor) ← Cursor.year text.toList
  let (month, day, cursor) ← cursor.monthDay
  if ¬(1 ≤ month ∧ month ≤ 12) ∨ ¬(1 ≤ day ∧ day ≤ 31) then none else
  let (time, cursor) ← cursor.time
  let (offset, cursor) ← cursor.offset
  if cursor ≠ [] then none else
  if (time.hour > 23 ∧ time.endOfDay = false) ∨ time.minute > 59 ∨ time.second > 59 then none
  else instantOf year month day time offset

/-! ## The `toISOString` form -/

/-- The last `width` decimal digits of a number. -/
def fixedDigits : ℕ → ℕ → List Char
  | 0, _ => []
  | width + 1, n => fixedDigits width (n / 10) ++ [Nat.digitChar (n % 10)]

/-- A year outside 0 to 9999 has a sign and six digits. -/
def isoYear (year : ℤ) : List Char :=
  if 0 ≤ year ∧ year ≤ 9999 then fixedDigits 4 year.toNat
  else if year < 0 then '-' :: fixedDigits 6 (-year).toNat
  else '+' :: fixedDigits 6 year.toNat

/-- `new Date(ms).toISOString()`: always with milliseconds and `Z`. Every part of the civil time
has at most its fixed number of digits. -/
def toIsoString (ms : ℤ) : Option String := do
  let ms ← fromMillisecond ms
  let date := civilFromDays (ms / 86400000)
  let time := (ms % 86400000).toNat
  some (String.ofList (isoYear date.year ++ '-' :: fixedDigits 2 date.month.toNat ++
    '-' :: fixedDigits 2 date.day.toNat ++ 'T' :: fixedDigits 2 (time / 3600000) ++
    ':' :: fixedDigits 2 (time / 60000 % 60) ++ ':' :: fixedDigits 2 (time / 1000 % 60) ++
    '.' :: fixedDigits 3 (time % 1000) ++ ['Z']))

/-- A Sony date as `toISOString` output, or the empty string for a missing, empty, or
unparseable value. -/
def toIsoOrDefault : Option String → String
  | none => ""
  | some text => if text = "" then "" else ((parseDateMs text).bind toIsoString).getD ""

/-- A missing date stays missing. -/
@[simp] lemma toIsoOrDefault_none : toIsoOrDefault none = "" := rfl

/-- An empty date stays empty. -/
@[simp] lemma toIsoOrDefault_empty : toIsoOrDefault (some "") = "" := rfl

/-- The empty text is no date. -/
@[simp] lemma parseDateMs_empty : parseDateMs "" = none := rfl

example : parseDateMs "2024-02-30T24:00:00.0009+02:00" = some 1709330400000 := by decide

example : toIsoOrDefault (some "9999-12-30T22:00:00.001Z") = "" := by decide

example : toIsoString (-1) = some "1969-12-31T23:59:59.999Z" := by decide

/-! ## White space -/

/-- `char::is_whitespace`: the characters with the property `White_Space`. -/
def isWhitespace (c : Char) : Bool :=
  c ∈ ['\t', '\n', '\x0b', '\x0c', '\r', ' ', '\u0085', '\u00a0', '\u1680', '\u2028', '\u2029',
    '\u202f', '\u205f', '\u3000'] || (decide ('\u2000' ≤ c) && decide (c ≤ '\u200a'))

/-- The general category `Zs`. -/
def isSpaceSeparator (c : Char) : Bool :=
  c ∈ [' ', '\u00a0', '\u1680', '\u202f', '\u205f', '\u3000'] ||
    (decide ('\u2000' ≤ c) && decide (c ≤ '\u200a'))

/-- What `js_trim` removes: U+FEFF is white space and U+0085 is not. -/
def isJsSpace (c : Char) : Bool := (isWhitespace c && c != '\u0085') || c == '\ufeff'

/-- `String.prototype.trim`. -/
def jsTrim (text : List Char) : List Char := trimBy isJsSpace text

/-- **The white space of JavaScript** is the space separators and eight other characters. -/
theorem isJsSpace_eq (c : Char) :
    isJsSpace c = (c ∈ ['\t', '\x0b', '\x0c', '\ufeff', '\n', '\r', '\u2028', '\u2029'] ||
      isSpaceSeparator c) := by
  by_cases h : c = '\u0085'
  · subst h
    decide
  · unfold isJsSpace isWhitespace isSpaceSeparator
    rw [bne_iff_ne.mpr h, Bool.and_true, Bool.eq_iff_iff]
    simp only [Bool.or_eq_true, decide_eq_true_eq, beq_iff_eq, List.mem_cons, List.not_mem_nil,
      h, or_false, false_or]
    generalize (decide ('\u2000' ≤ c) && decide (c ≤ '\u200a')) = inRange
    grind

end PsStore
