import Mathlib.Algebra.Order.Ring.Int
import Mathlib.Order.SuccPred.Basic
import Mathlib.Tactic.Ring

set_option relaxedAutoImplicit false
set_option autoImplicit false

/-!
# The proleptic Gregorian calendar

Day numbers count the days from 1970-01-01. A year of the calculation starts in March, so the
leap day is the last day of its year, and 400 such years always have 146097 days.

## Main definitions

* `daysFromCivil` — the day number of a civil date. A day past the end of its month counts into
  the next month.
* `CivilDate`, `civilFromDays` — the civil date of a day number.
* `yearStart` — the day of the era on which a year starts.
* `withoutLeapDays` — the day of the era in a count of years of 365 days.

## Main results

* `yearOfEra_spec` — the year of a day of the era is the one whose start comes last before it.
* `daysFromCivil_civilFromDays` — the civil date of a day has the number of the day.
* `civilFromDays_bounds` — the months and the days of civil dates.
* `le_civilFromDays_year_iff` — a day is in a year or after it from the first of January on.
-/

/-- The day number of the given day of a month, counted from 1970-01-01. -/
def daysFromCivil (year month day : ℤ) : ℤ :=
  let y := if month ≤ 2 then year - 1 else year
  let yearOfEra := y % 400
  let dayOfYear := (153 * ((month + 9) % 12) + 2) / 5 + day - 1
  let dayOfEra := yearOfEra * 365 + yearOfEra / 4 - yearOfEra / 100 + dayOfYear
  y / 400 * 146097 + dayOfEra - 719468

/-- A date of the civil calendar. -/
structure CivilDate where
  year : ℤ
  month : ℤ
  day : ℤ
deriving DecidableEq

/-- The civil date of a day number. -/
def civilFromDays (days : ℤ) : CivilDate :=
  let z := days + 719468
  let dayOfEra := z % 146097
  let yearOfEra :=
    (dayOfEra - dayOfEra / 1460 + dayOfEra / 36524 - dayOfEra / 146096) / 365
  let dayOfYear := dayOfEra - (365 * yearOfEra + yearOfEra / 4 - yearOfEra / 100)
  let monthIndex := (5 * dayOfYear + 2) / 153
  let month := if monthIndex < 10 then monthIndex + 3 else monthIndex - 9
  let y := yearOfEra + z / 146097 * 400
  { year := if month ≤ 2 then y + 1 else y
    month
    day := dayOfYear - (153 * monthIndex + 2) / 5 + 1 }

/-! ## Years of an era -/

/-- The day of the era on which a year of the era starts. -/
def yearStart (year : ℤ) : ℤ := year * 365 + year / 4 - year / 100

/-- The day of the era without the leap days that have passed. -/
def withoutLeapDays (day : ℤ) : ℤ := day - day / 1460 + day / 36524 - day / 146096

/-- The count without leap days does not go back from a day of the era to the next one. -/
lemma withoutLeapDays_succ {day : ℤ} (h0 : 0 ≤ day) (hlast : day < 146096) :
    withoutLeapDays day ≤ withoutLeapDays (day + 1) := by
  unfold withoutLeapDays
  omega

/-- The count without leap days is monotone within the era. -/
lemma withoutLeapDays_mono {a b : ℤ} (h0 : 0 ≤ a) (hab : a ≤ b) (hlast : b ≤ 146096) :
    withoutLeapDays a ≤ withoutLeapDays b := by
  induction b, hab using Int.leInduction with
  | base => exact le_rfl
  | succ b hab ih => exact (ih (by omega)).trans (withoutLeapDays_succ (by omega) (by omega))

/-- A year of the era starts after 365 counted days for each year before it. -/
lemma le_withoutLeapDays_yearStart :
    ∀ year < (400 : ℕ), 365 * (year : ℤ) ≤ withoutLeapDays (yearStart year) := by
  decide +kernel

/-- The day before a year of the era starts is counted with the year before. -/
lemma withoutLeapDays_yearStart_sub_one_lt :
    ∀ year < (400 : ℕ), 0 < year → withoutLeapDays (yearStart year - 1) < 365 * (year : ℤ) := by
  decide +kernel

/-- **The year of a day of the era** starts on the day or before, and has at most 366 days.

**Proof sketch.** Without the leap days a year has 365 days, and the count without them never goes
back (`withoutLeapDays_mono`). So a day before the start of its year, or a year behind it, would
have a count in another year. -/
theorem yearOfEra_spec {day : ℤ} (h0 : 0 ≤ day) (hlast : day ≤ 146096) :
    0 ≤ withoutLeapDays day / 365 ∧ withoutLeapDays day / 365 ≤ 399 ∧
      yearStart (withoutLeapDays day / 365) ≤ day ∧
      day ≤ yearStart (withoutLeapDays day / 365) + 365 := by
  have hlow : 0 ≤ withoutLeapDays day := withoutLeapDays_mono le_rfl h0 hlast
  have hhigh : withoutLeapDays day ≤ 145999 := withoutLeapDays_mono h0 hlast le_rfl
  obtain ⟨year, hyear⟩ := Int.eq_ofNat_of_zero_le (show 0 ≤ withoutLeapDays day / 365 by omega)
  rw [hyear]
  refine ⟨by omega, by omega, ?_, ?_⟩
  · -- a later start would put the day before the year
    by_contra hlater
    have hpos : 0 < year := by
      unfold yearStart at hlater
      omega
    have hle : withoutLeapDays day ≤ withoutLeapDays (yearStart year - 1) := by
      refine withoutLeapDays_mono h0 (by omega) ?_
      unfold yearStart
      omega
    have hlt := withoutLeapDays_yearStart_sub_one_lt year (by omega) hpos
    omega
  · by_contra hlater
    have hbound : year + 1 < 400 := by
      unfold yearStart at hlater
      omega
    have hnext : yearStart (year + 1 : ℕ) ≤ day := by
      unfold yearStart at hlater ⊢
      omega
    have hle : withoutLeapDays (yearStart (year + 1 : ℕ)) ≤ withoutLeapDays day := by
      refine withoutLeapDays_mono ?_ hnext hlast
      unfold yearStart
      omega
    have hcount := le_withoutLeapDays_yearStart (year + 1) hbound
    omega

/-! ## The civil date of a day -/

/-- The civil date of a day of a year that starts in March. -/
def civilOfMarchYear (year dayOfYear : ℤ) : CivilDate :=
  let monthIndex := (5 * dayOfYear + 2) / 153
  let month := if monthIndex < 10 then monthIndex + 3 else monthIndex - 9
  { year := if month ≤ 2 then year + 1 else year
    month
    day := dayOfYear - (153 * monthIndex + 2) / 5 + 1 }

/-- The era, the year and the day of the year of a day number. -/
lemma civilFromDays_spec (days : ℤ) :
    ∃ era year dayOfYear : ℤ, 0 ≤ year ∧ year ≤ 399 ∧ 0 ≤ dayOfYear ∧ dayOfYear ≤ 365 ∧
      days = era * 146097 + yearStart year + dayOfYear - 719468 ∧
      civilFromDays days = civilOfMarchYear (year + era * 400) dayOfYear := by
  have hspec := @yearOfEra_spec ((days + 719468) % 146097) (by omega) (by omega)
  obtain ⟨hlow, hhigh, hstart, hend⟩ := hspec
  refine ⟨(days + 719468) / 146097, _, _, hlow, hhigh, sub_nonneg.mpr hstart, by omega, by omega,
    ?_⟩
  unfold civilFromDays civilOfMarchYear yearStart withoutLeapDays
  dsimp only
  rw [mul_comm (365 : ℤ)]

/-- **The civil date of a day has the number of the day.** -/
theorem daysFromCivil_civilFromDays (days : ℤ) :
    daysFromCivil (civilFromDays days).year (civilFromDays days).month
      (civilFromDays days).day = days := by
  obtain ⟨era, year, dayOfYear, hlow, hhigh, hfirst, hlast, hdays, hcivil⟩ :=
    civilFromDays_spec days
  rw [hcivil, hdays]
  unfold daysFromCivil civilOfMarchYear yearStart
  dsimp only
  by_cases hindex : (5 * dayOfYear + 2) / 153 < 10
  · have hmonth : ¬ (5 * dayOfYear + 2) / 153 + 3 ≤ 2 := by omega
    simp only [hindex, hmonth, if_true, if_false]
    omega
  · have hmonth : (5 * dayOfYear + 2) / 153 - 9 ≤ 2 := by omega
    simp only [hindex, hmonth, if_true, if_false]
    omega

/-- **The months and the days of civil dates.** -/
theorem civilFromDays_bounds (days : ℤ) :
    (1 ≤ (civilFromDays days).month ∧ (civilFromDays days).month ≤ 12) ∧
      1 ≤ (civilFromDays days).day ∧ (civilFromDays days).day ≤ 31 := by
  obtain ⟨era, year, dayOfYear, -, -, hfirst, hlast, -, hcivil⟩ := civilFromDays_spec days
  rw [hcivil]
  unfold civilOfMarchYear
  dsimp only
  split_ifs <;> omega

/-- A day of the years -9999 to 9999 has such a year. -/
theorem civilFromDays_year_bounds {days : ℤ} (hlow : -4371587 ≤ days) (hhigh : days ≤ 2932896) :
    -9999 ≤ (civilFromDays days).year ∧ (civilFromDays days).year ≤ 9999 := by
  obtain ⟨era, year, dayOfYear, h0, h399, hfirst, hlast, hdays, hcivil⟩ := civilFromDays_spec days
  rw [hcivil]
  unfold yearStart at hdays
  unfold civilOfMarchYear
  dsimp only
  split_ifs <;> omega

/-- A day of a month counts from the first of the month. -/
lemma daysFromCivil_add (year month day : ℤ) :
    daysFromCivil year month 1 + (day - 1) = daysFromCivil year month day := by
  unfold daysFromCivil
  ring

/-- The day number of the first of January. -/
lemma daysFromCivil_newYear (year : ℤ) :
    daysFromCivil year 1 1 =
      365 * (year - 1) + (year - 1) / 4 - (year - 1) / 100 + (year - 1) / 400 - 719162 := by
  unfold daysFromCivil
  simp only [show (1 : ℤ) ≤ 2 from by decide, if_true]
  omega

/-- Later years start later. -/
lemma daysFromCivil_newYear_mono {a b : ℤ} (h : a ≤ b) :
    daysFromCivil a 1 1 ≤ daysFromCivil b 1 1 := by
  rw [daysFromCivil_newYear, daysFromCivil_newYear]
  omega

/-- A day of a month is in the year of the month. -/
lemma daysFromCivil_year_bounds (year : ℤ) {month day : ℤ} (hmonth : 1 ≤ month ∧ month ≤ 12)
    (hday : 1 ≤ day ∧ day ≤ 31) :
    daysFromCivil year 1 1 ≤ daysFromCivil year month day ∧
      daysFromCivil year month day < daysFromCivil (year + 1) 1 1 := by
  rw [daysFromCivil_newYear, daysFromCivil_newYear]
  unfold daysFromCivil
  dsimp only
  by_cases hmarch : month ≤ 2
  · rw [if_pos hmarch]
    omega
  · rw [if_neg hmarch]
    omega

/-- **A day is in a year or after it** from the first of January on. -/
theorem le_civilFromDays_year_iff (year days : ℤ) :
    year ≤ (civilFromDays days).year ↔ daysFromCivil year 1 1 ≤ days := by
  obtain ⟨era, y, dayOfYear, hlow, hhigh, hfirst, hlast, hdays, hcivil⟩ := civilFromDays_spec days
  have hnewYear := daysFromCivil_newYear year
  rw [hcivil, hnewYear, hdays]
  unfold civilOfMarchYear yearStart
  dsimp only
  split_ifs <;> omega
