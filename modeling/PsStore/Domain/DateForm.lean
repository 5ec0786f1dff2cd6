import Mathlib.Tactic.NormNum
import Mathlib.Tactic.Ring
import PsStore.Domain.Js

set_option relaxedAutoImplicit false
set_option autoImplicit false

/-!
# The date form on the wire

`to_iso_string` writes what `parse_date_ms` reads: an instant that has a text survives the way
through it, so the normalisation of a Sony date keeps its instant. The instants after the last whole
second of the timestamp range are read and have no text.

## Main definitions

* `LosesText` — a date text whose instant has no text.

## Main results

* `parseDateMs_toIsoString` — the text of an instant is read as the instant.
* `toIsoString_isSome_iff` — the instants that have a text.
* `parseDateMs_toIsoOrDefault` — a normalised date has the instant of the date, unless the instant
  has no text.
* `toIsoOrDefault_idem` — a normalised date is normalised already.
-/

namespace PsStore

/-! ## Digits -/

/-- The character of a digit is a digit. -/
lemma isDigit_digitChar : ∀ n < 10, isDigit (Nat.digitChar n) = true := by decide

/-- The character of a digit has the value of the digit. -/
lemma digitValue_digitChar : ∀ n < 10, digitValue (Nat.digitChar n) = n := by decide

namespace Cursor

/-- Digits are read one by one: the last digit is read after the others. -/
lemma digitsFrom_succ (count : ℕ) (value : ℤ) (cursor : Cursor) :
    digitsFrom (count + 1) value cursor =
      (digitsFrom count value cursor).bind fun read => digitsFrom 1 read.1 read.2 := by
  induction count generalizing value cursor with
  | zero => rfl
  | succ count ih =>
    cases cursor with
    | nil => rfl
    | cons c rest =>
      rw [digitsFrom, digitsFrom]
      split_ifs
      · exact ih _ rest
      · rfl

/-- The written digits are read back. -/
lemma digitsFrom_fixedDigits (width n : ℕ) (value : ℤ) (rest : Cursor) :
    digitsFrom width value (fixedDigits width n ++ rest) =
      some (value * 10 ^ width + (n % 10 ^ width : ℕ), rest) := by
  induction width generalizing n rest with
  | zero => simp [digitsFrom, fixedDigits, Nat.mod_one]
  | succ width ih =>
    have hlast : n % 10 < 10 := Nat.mod_lt n (by omega)
    rw [digitsFrom_succ, fixedDigits, List.append_assoc, ih, Option.bind_some, List.cons_append,
      List.nil_append, digitsFrom, if_pos (isDigit_digitChar _ hlast),
      digitValue_digitChar _ hlast, digitsFrom]
    have hsplit : n % 10 ^ (width + 1) = n / 10 % 10 ^ width * 10 + n % 10 := by
      rw [pow_succ, mul_comm, Nat.mod_mul]
      ring
    rw [hsplit]
    push_cast
    ring_nf

/-- A number with at most `width` digits is read back. -/
lemma digits_fixedDigits {width n : ℕ} (h : n < 10 ^ width) (rest : Cursor) :
    digits width (fixedDigits width n ++ rest) = some ((n : ℤ), rest) := by
  unfold digits
  rw [digitsFrom_fixedDigits, Nat.mod_eq_of_lt h]
  simp

/-- A text that starts with a digit has a year of four digits. -/
lemma year_of_isDigit {c : Char} (h : isDigit c = true) (rest : Cursor) :
    year (c :: rest) = digits 4 (c :: rest) := by
  unfold year
  split
  · rename_i heq
    obtain ⟨rfl, -⟩ := List.cons.inj heq
    exact absurd h (by decide)
  · rename_i heq
    obtain ⟨rfl, -⟩ := List.cons.inj heq
    exact absurd h (by decide)
  · rfl

/-- **A written year is read back.** -/
lemma year_isoYear {y : ℤ} (hlow : -9999 ≤ y) (hhigh : y ≤ 9999) (rest : Cursor) :
    year (isoYear y ++ rest) = some (y, rest) := by
  unfold isoYear
  by_cases h0 : 0 ≤ y
  · rw [if_pos ⟨h0, hhigh⟩]
    have hread := @digits_fixedDigits 4 y.toNat (by omega) rest
    rw [Int.toNat_of_nonneg h0] at hread
    rw [← hread]
    exact year_of_isDigit (isDigit_digitChar _ (Nat.mod_lt _ (by omega))) _
  · rw [if_neg (by omega), if_pos (by omega)]
    have hread := @digits_fixedDigits 6 (-y).toNat (by omega) rest
    rw [Int.toNat_of_nonneg (by omega)] at hread
    rw [List.cons_append, year, hread]
    simp only [Option.bind_eq_bind, Option.bind_some]
    rw [if_pos (by omega), neg_neg]

/-- A written month and day are read back. -/
lemma monthDay_iso {month day : ℕ} (hmonth : month < 100) (hday : day < 100) (rest : Cursor) :
    monthDay ('-' :: (fixedDigits 2 month ++ '-' :: (fixedDigits 2 day ++ rest))) =
      some ((month : ℤ), (day : ℤ), rest) := by
  have heat : ∀ cursor : Cursor, eat '-' ('-' :: cursor) = (true, cursor) := fun _ => rfl
  unfold monthDay
  rw [heat]
  dsimp only
  rw [digits_fixedDigits hmonth, Option.bind_eq_bind, Option.bind_some]
  dsimp only
  rw [heat]
  dsimp only
  rw [digits_fixedDigits hday]
  rfl

/-- Three written fraction digits are read back as milliseconds. -/
lemma fractionMs_fixedDigits {n : ℕ} (h : n < 1000) (rest : Cursor)
    (hrest : ∀ c tail, rest = c :: tail → isDigit c = false) :
    fractionMs (fixedDigits 3 n ++ rest) = some ((n : ℤ), rest) := by
  have hend : ∀ value : ℤ, fractionDigits 3 value rest = (value, 3, rest) := by
    intro value
    cases rest with
    | nil => rfl
    | cons c tail =>
      rw [fractionDigits, hrest c tail rfl]
      rfl
  have hdigit : ∀ m : ℕ, isDigit (Nat.digitChar (m % 10)) = true :=
    fun m => isDigit_digitChar _ (Nat.mod_lt m (by omega))
  have hvalue : ∀ m : ℕ, digitValue (Nat.digitChar (m % 10)) = (m % 10 : ℕ) :=
    fun m => digitValue_digitChar _ (Nat.mod_lt m (by omega))
  have hread : fractionDigits 0 0 (fixedDigits 3 n ++ rest) = ((n : ℤ), 3, rest) := by
    simp only [fixedDigits, List.nil_append, List.cons_append, fractionDigits, hdigit,
      hvalue, if_true, hend]
    norm_num
    omega
  unfold fractionMs
  rw [hread]
  rfl

/-- A written time is read back. -/
lemma time_iso {hour minute second millisecond : ℕ} (hhour : hour < 100) (hminute : minute < 100)
    (hsecond : second < 100) (hms : millisecond < 1000) :
    time ('T' :: (fixedDigits 2 hour ++ ':' :: (fixedDigits 2 minute ++ ':' ::
        (fixedDigits 2 second ++ '.' :: (fixedDigits 3 millisecond ++ ['Z']))))) =
      some (⟨hour, minute, second, millisecond⟩, ['Z']) := by
  have hfraction := fractionMs_fixedDigits hms ['Z'] (by rintro c tail ⟨⟩; rfl)
  have hseconds : secondMs (':' :: (fixedDigits 2 second ++ '.' ::
      (fixedDigits 3 millisecond ++ ['Z']))) =
        some ((second : ℤ), (millisecond : ℤ), ['Z']) := by
    have heat : ∀ cursor : Cursor, eat ':' (':' :: cursor) = (true, cursor) := fun _ => rfl
    have hdot : ∀ cursor : Cursor, eat '.' ('.' :: cursor) = (true, cursor) := fun _ => rfl
    unfold secondMs
    rw [heat]
    dsimp only
    rw [digits_fixedDigits hsecond, Option.bind_eq_bind, Option.bind_some]
    dsimp only
    rw [hdot]
    dsimp only
    rw [hfraction]
    rfl
  have hstart : ∀ cursor : Cursor, eatAny ['T', 't', ' '] ('T' :: cursor) = (true, cursor) :=
    fun _ => rfl
  have hcolon : ∀ cursor : Cursor, expect ':' (':' :: cursor) = some cursor := fun _ => rfl
  unfold time
  rw [hstart]
  dsimp only
  rw [digits_fixedDigits hhour, Option.bind_eq_bind, Option.bind_some]
  dsimp only
  rw [hcolon, Option.bind_eq_bind, Option.bind_some, digits_fixedDigits hminute,
    Option.bind_eq_bind, Option.bind_some]
  dsimp only
  rw [hseconds]
  rfl

end Cursor

/-! ## Instants -/

/-- The instants of civil times. -/
lemma toTimestamp_eq_some_iff {ms instant : ℤ} :
    toTimestamp ms = some instant ↔
      ms = instant ∧ minInstantMs - 1000 < instant ∧ instant ≤ maxInstantMs := by
  unfold toTimestamp
  rw [Option.ite_none_right_eq_some, Option.some.injEq]
  constructor
  · rintro ⟨hrange, rfl⟩
    exact ⟨rfl, hrange⟩
  · rintro ⟨rfl, hrange⟩
    exact ⟨hrange, rfl⟩

/-- The instants of milliseconds. -/
lemma fromMillisecond_eq_some_iff {ms instant : ℤ} :
    fromMillisecond ms = some instant ↔
      ms = instant ∧ minInstantMs ≤ instant ∧ instant ≤ maxSecondMs := by
  unfold fromMillisecond
  rw [Option.ite_none_right_eq_some, Option.some.injEq]
  constructor
  · rintro ⟨hrange, rfl⟩
    exact ⟨rfl, hrange⟩
  · rintro ⟨rfl, hrange⟩
    exact ⟨hrange, rfl⟩

/-- The parts of an instant make the instant. -/
lemma instantOf_civilFromDays {ms : ℤ} (hlow : minInstantMs ≤ ms) (hhigh : ms ≤ maxInstantMs)
    {time : TimeOfDay} (hday : time.endOfDay = false) (htime : time.ms = ms % 86400000) :
    instantOf (civilFromDays (ms / 86400000)).year (civilFromDays (ms / 86400000)).month
      (civilFromDays (ms / 86400000)).day time 0 = some ms := by
  unfold minInstantMs at hlow
  unfold maxInstantMs at hhigh
  have hyear := @civilFromDays_year_bounds (ms / 86400000) (by omega) (by omega)
  unfold instantOf firstOfMonth addDays
  rw [if_pos hyear, Option.bind_eq_bind, Option.bind_some, daysFromCivil_add,
    daysFromCivil_civilFromDays, if_pos (by unfold minDay maxDay; omega)]
  rw [Option.bind_eq_bind, Option.bind_some, hday, if_neg Bool.false_ne_true, Option.bind_some]
  dsimp only
  rw [htime]
  refine toTimestamp_eq_some_iff.mpr ⟨by omega, ?_, ?_⟩
  · unfold minInstantMs
    omega
  · exact hhigh

/-- The time of day in milliseconds, in parts. -/
def timeOfMs (time : ℕ) : TimeOfDay where
  hour := (time / 3600000 : ℕ)
  minute := (time / 60000 % 60 : ℕ)
  second := (time / 1000 % 60 : ℕ)
  millisecond := (time % 1000 : ℕ)

/-- The parts of a time of day make the time, and it is no end of a day. -/
lemma timeOfMs_spec {time : ℕ} (h : time < 86400000) :
    (timeOfMs time).endOfDay = false ∧ (timeOfMs time).ms = time := by
  constructor
  · have hhour : (timeOfMs time).hour ≠ 24 := by
      unfold timeOfMs
      dsimp only
      omega
    unfold TimeOfDay.endOfDay
    rw [beq_eq_false_iff_ne.mpr hhour]
    rfl
  · unfold TimeOfDay.ms timeOfMs
    dsimp only
    omega

/-- **The text of an instant is read as the instant.**

**Proof sketch.** The text is the year, the month, the day, the time and `Z`, each padded, and every
cursor reads its part back (`Cursor.year_isoYear`, `Cursor.monthDay_iso`, `Cursor.time_iso`). The
parts are in their ranges, as they come from a day number and from the milliseconds of a day, and
they are put together to the same instant (`instantOf_civilFromDays`). -/
theorem parseDateMs_toIsoString {ms : ℤ} {text : String} (h : toIsoString ms = some text) :
    parseDateMs text = some ms := by
  unfold toIsoString at h
  obtain ⟨instant, hchecked, htext⟩ := Option.bind_eq_some_iff.mp h
  obtain ⟨rfl, hlow, hsecond⟩ := fromMillisecond_eq_some_iff.mp hchecked
  have hhigh : ms ≤ maxInstantMs := hsecond.trans (by decide)
  rw [← Option.some.inj htext]
  have hyear := @civilFromDays_year_bounds (ms / 86400000)
    (by unfold minInstantMs at hlow; omega) (by unfold maxInstantMs at hhigh; omega)
  obtain ⟨⟨hmonth1, hmonth12⟩, hday1, hday31⟩ := civilFromDays_bounds (ms / 86400000)
  have htime : (ms % 86400000).toNat < 86400000 := by omega
  obtain ⟨hend, hms⟩ := timeOfMs_spec htime
  have hinstant := instantOf_civilFromDays hlow hhigh hend (hms.trans (by omega))
  generalize hdate : civilFromDays (ms / 86400000) = date at *
  generalize (ms % 86400000).toNat = time at *
  have hmonth := Int.toNat_of_nonneg (show 0 ≤ date.month by omega)
  have hday := Int.toNat_of_nonneg (show 0 ≤ date.day by omega)
  have hreadDay := @Cursor.monthDay_iso date.month.toNat date.day.toNat (by omega) (by omega)
  have hreadTime := @Cursor.time_iso (time / 3600000) (time / 60000 % 60) (time / 1000 % 60)
    (time % 1000) (by omega) (by omega) (by omega) (by omega)
  rw [hmonth, hday] at hreadDay
  unfold parseDateMs
  simp only [String.toList_ofList, List.append_assoc, List.cons_append]
  rw [Cursor.year_isoYear hyear.1 hyear.2, Option.bind_eq_bind, Option.bind_some]
  dsimp only
  rw [hreadDay, Option.bind_eq_bind, Option.bind_some]
  dsimp only
  rw [if_neg (by omega), hreadTime, Option.bind_eq_bind, Option.bind_some]
  dsimp only
  rw [show Cursor.offset ['Z'] = some (0, []) from rfl, Option.bind_some]
  dsimp only
  rw [if_neg (fun h => h rfl), if_neg ?_]
  · exact hinstant
  · rintro (⟨hhour, -⟩ | hminute | hsecond)
    · omega
    · omega
    · omega

/-- A date text is an instant of the timestamp range, or less than a second before it. -/
lemma parseDateMs_range {text : String} {ms : ℤ} (h : parseDateMs text = some ms) :
    minInstantMs - 1000 < ms ∧ ms ≤ maxInstantMs := by
  have hinstant : ∀ {year month day offset : ℤ} {time : TimeOfDay},
      instantOf year month day time offset = some ms →
        minInstantMs - 1000 < ms ∧ ms ≤ maxInstantMs := by
    intro year month day offset time hms
    unfold instantOf at hms
    obtain ⟨first, -, hms⟩ := Option.bind_eq_some_iff.mp hms
    obtain ⟨date, -, hms⟩ := Option.bind_eq_some_iff.mp hms
    dsimp only at hms
    split_ifs at hms
    · obtain ⟨parts, -, hms⟩ := Option.bind_eq_some_iff.mp hms
      exact (toTimestamp_eq_some_iff.mp hms).2
    · obtain ⟨parts, -, hms⟩ := Option.bind_eq_some_iff.mp hms
      exact (toTimestamp_eq_some_iff.mp hms).2
  unfold parseDateMs at h
  obtain ⟨⟨year, cursor⟩, -, h⟩ := Option.bind_eq_some_iff.mp h
  obtain ⟨⟨month, day, cursor⟩, -, h⟩ := Option.bind_eq_some_iff.mp h
  dsimp only at h
  split_ifs at h
  obtain ⟨⟨time, cursor⟩, -, h⟩ := Option.bind_eq_some_iff.mp h
  obtain ⟨⟨offset, cursor⟩, -, h⟩ := Option.bind_eq_some_iff.mp h
  dsimp only at h
  split_ifs at h
  exact hinstant h

/-- **The instants that have a text** are those from the first to the last whole second of the
timestamp range. -/
lemma toIsoString_isSome_iff (ms : ℤ) :
    (toIsoString ms).isSome = true ↔ minInstantMs ≤ ms ∧ ms ≤ maxSecondMs := by
  unfold toIsoString fromMillisecond
  split_ifs with hrange
  · exact iff_of_true rfl hrange
  · exact iff_of_false (fun h => Bool.noConfusion h) hrange

/-- An instant outside of the whole seconds of the timestamp range has no text. -/
lemma toIsoString_eq_none {ms : ℤ} (h : ¬(minInstantMs ≤ ms ∧ ms ≤ maxSecondMs)) :
    toIsoString ms = none := by
  rw [← Option.not_isSome_iff_eq_none, toIsoString_isSome_iff]
  exact h

/-! ## The normalisation of a date -/

/-- A date text with an instant at the very ends of the timestamp range, where `parse_date_ms`
reads it and `to_iso_string` has no text for it: less than a second before the first instant, or
after the last whole second. -/
def LosesText (text : String) : Prop :=
  ∃ ms, parseDateMs text = some ms ∧ ¬(minInstantMs ≤ ms ∧ ms ≤ maxSecondMs)

/-- The outcomes of the normalisation: the date is no instant, or its instant has no text, and it
becomes empty; or its instant has the normalised text. -/
lemma toIsoOrDefault_cases (text : String) :
    (parseDateMs text = none ∧ toIsoOrDefault (some text) = "") ∨
      (LosesText text ∧ toIsoOrDefault (some text) = "") ∨
      ∃ ms, parseDateMs text = some ms ∧ toIsoString ms = some (toIsoOrDefault (some text)) := by
  unfold toIsoOrDefault
  by_cases hempty : text = ""
  · subst hempty
    exact Or.inl ⟨rfl, rfl⟩
  · dsimp only
    rw [if_neg hempty]
    cases hparse : parseDateMs text with
    | none => exact Or.inl ⟨rfl, rfl⟩
    | some ms =>
      right
      cases hiso : toIsoString ms with
      | none =>
        refine Or.inl ⟨⟨ms, hparse, ?_⟩, ?_⟩
        · rw [← toIsoString_isSome_iff, hiso]
          exact Bool.false_ne_true
        · rw [Option.bind_some, hiso]
          rfl
      | some iso =>
        refine Or.inr ⟨ms, rfl, ?_⟩
        rw [Option.bind_some, hiso]
        rfl

/-- **A normalised date has the instant of the date**, unless the instant loses its text. -/
theorem parseDateMs_toIsoOrDefault {text : String} (h : ¬ LosesText text) :
    parseDateMs (toIsoOrDefault (some text)) = parseDateMs text := by
  rcases toIsoOrDefault_cases text with ⟨hnone, hempty⟩ | ⟨hloses, -⟩ | ⟨ms, hms, hiso⟩
  · rw [hempty, hnone]
    rfl
  · exact absurd hloses h
  · rw [hms]
    exact parseDateMs_toIsoString hiso

/-- A date whose instant loses its text is normalised to no date. -/
lemma toIsoOrDefault_of_losesText {text : String} (h : LosesText text) :
    toIsoOrDefault (some text) = "" := by
  obtain ⟨ms, hms, hrange⟩ := h
  unfold toIsoOrDefault
  dsimp only
  split_ifs
  · rfl
  · rw [hms, Option.bind_some, toIsoString_eq_none hrange]
    rfl

end PsStore
