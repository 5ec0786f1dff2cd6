import Mathlib.Algebra.Order.Field.Power
import Mathlib.Algebra.Order.Ring.Rat
import Mathlib.Data.Int.Log
import Mathlib.Data.Rat.Floor
import Mathlib.Tactic.Linarith
import Mathlib.Tactic.NormNum
import Mathlib.Tactic.Positivity
import Mathlib.Tactic.Ring

set_option relaxedAutoImplicit false
set_option autoImplicit false

/-!
# Binary64 numbers

The values of IEEE 754 binary64 with round to nearest, ties to even. The sign of a zero is left
out: no operation here observes it.

## Main definitions

* `Binary64.Representable` — the rationals that are finite binary64 values.
* `Binary64` — a finite value, an infinity, or not a number.
* `Binary64.round` — the rounding of a rational.
* `Binary64.Beyond` — the magnitude is at least 2^53, where integers stop being exact.
* `Binary64.StandsFor` — the value of a natural number, exact up to 2^53.

## Main results

* `Binary64.round_of_representable` — a representable value is its own rounding.
* `Binary64.round_intCast` — the integers up to 2^53 are exact.
* `Binary64.beyond_round` — rounding does not leave the magnitudes from 2^53 on.
* `Binary64.standsFor_round`, `Binary64.StandsFor.digit` — the numbers that are read digit by digit.
-/

/-- The finite binary64 values: an integer of at most 53 bits times a power of two. -/
def Binary64.Representable (x : ℚ) : Prop :=
  ∃ m e : ℤ, |m| < 2 ^ 53 ∧ -1074 ≤ e ∧ e ≤ 971 ∧ x = m * 2 ^ e

/-- A binary64 value, without the sign of a zero. -/
inductive Binary64 where
  | finite (x : ℚ) (representable : Binary64.Representable x)
  | infinite (negative : Bool)
  | nan

namespace Binary64

/-! ## Rounding to an integer -/

/-- The nearest integer, ties to even. -/
def roundHalfEven (q : ℚ) : ℤ :=
  if q - ⌊q⌋ < 1 / 2 ∨ (q - ⌊q⌋ = 1 / 2 ∧ ⌊q⌋ % 2 = 0) then ⌊q⌋ else ⌊q⌋ + 1

/-- An integer is its own rounding. -/
@[simp] lemma roundHalfEven_intCast (n : ℤ) : roundHalfEven (n : ℚ) = n := by
  unfold roundHalfEven
  rw [Int.floor_intCast, sub_self, if_pos (Or.inl (by norm_num))]

/-- Rounding does not go below an integer. -/
lemma le_roundHalfEven {n : ℤ} {q : ℚ} (h : (n : ℚ) ≤ q) : n ≤ roundHalfEven q := by
  have hfloor : n ≤ ⌊q⌋ := Int.le_floor.mpr h
  unfold roundHalfEven
  split_ifs
  · exact hfloor
  · omega

/-- Rounding does not go above an integer. -/
lemma roundHalfEven_le {n : ℤ} {q : ℚ} (h : q ≤ n) : roundHalfEven q ≤ n := by
  unfold roundHalfEven
  split_ifs with hdown
  · have hfloor : (⌊q⌋ : ℚ) ≤ n := (Int.floor_le q).trans h
    exact_mod_cast hfloor
  · have hfrac : (⌊q⌋ : ℚ) < q := by
      rcases (Int.floor_le q).lt_or_eq with hlt | heq
      · exact hlt
      · refine absurd (Or.inl ?_) hdown
        rw [heq, sub_self]
        norm_num
    have hlt : (⌊q⌋ : ℚ) < n := hfrac.trans_le h
    have hlt' : ⌊q⌋ < n := by exact_mod_cast hlt
    omega

/-- Rounding does not go below an integer in magnitude. -/
lemma le_abs_roundHalfEven {n : ℤ} {q : ℚ} (h : (n : ℚ) ≤ |q|) : n ≤ |roundHalfEven q| := by
  rcases le_abs.mp h with hpos | hneg
  · exact (le_roundHalfEven hpos).trans (le_abs_self _)
  · have hle : q ≤ ((-n : ℤ) : ℚ) := by
      push_cast
      linarith
    have hrounded := roundHalfEven_le hle
    exact le_abs.mpr (Or.inr (by omega))

/-! ## Rounding to a representable value -/

/-- The exponent of the last place at the magnitude of a rational. -/
def exponent (q : ℚ) : ℤ := max (Int.log 2 |q| - 52) (-1074)

/-- The nearest multiple of the last place, ties to even. -/
def nearest (q : ℚ) : ℚ := roundHalfEven (q / 2 ^ exponent q) * 2 ^ exponent q

/-- The magnitude in units of the last place has at most 53 bits. -/
lemma abs_div_exponent_lt (q : ℚ) : |q / 2 ^ exponent q| < 2 ^ (53 : ℤ) := by
  have hpow : (0 : ℚ) < 2 ^ exponent q := by positivity
  have hlog : |q| < (2 : ℚ) ^ (Int.log 2 |q| + 1) := by
    exact_mod_cast Int.lt_zpow_succ_log_self one_lt_two |q|
  have hexponent : Int.log 2 |q| - 52 ≤ exponent q := le_max_left _ _
  rw [abs_div, abs_of_pos hpow, div_lt_iff₀ hpow, ← zpow_add₀ two_ne_zero]
  exact hlog.trans_le (zpow_le_zpow_right₀ one_le_two (by omega))

/-- The rounded magnitude in units of the last place. -/
lemma abs_roundHalfEven_le (q : ℚ) : |roundHalfEven (q / 2 ^ exponent q)| ≤ 2 ^ 53 := by
  obtain ⟨hlow, hhigh⟩ := abs_lt.mp (abs_div_exponent_lt q)
  rw [abs_le]
  constructor
  · apply le_roundHalfEven
    push_cast
    exact_mod_cast hlow.le
  · apply roundHalfEven_le
    push_cast
    exact_mod_cast hhigh.le

/-- A multiple of a power of two with at most 53 bits is representable below the overflow.

**Proof sketch.** With an exponent of at most 971 the factor and the exponent are a representation,
but for a factor of exactly 2^53, which is halved under the next exponent. With a greater exponent
the bound leaves the factor so few bits that the rest of the power fits into it. -/
lemma representable_mul_zpow {m e : ℤ} (hm : |m| ≤ 2 ^ 53) (hmin : -1074 ≤ e)
    (h : |(m : ℚ) * 2 ^ e| < 2 ^ (1024 : ℤ)) : Representable (m * 2 ^ e) := by
  have hpow : (0 : ℚ) < 2 ^ e := by positivity
  rw [abs_mul, abs_of_pos hpow, ← lt_div_iff₀ hpow, ← zpow_sub₀ two_ne_zero] at h
  by_cases he : e ≤ 971
  · rcases hm.lt_or_eq with hlt | heq
    · exact ⟨m, e, hlt, hmin, he, rfl⟩
    · -- the carry into a 54th bit: half the factor and the next exponent
      have hbound : (2 : ℚ) ^ (53 : ℤ) < 2 ^ (1024 - e) := by
        refine lt_of_eq_of_lt ?_ h
        rw [← Int.cast_abs, heq]
        norm_num
      have hexponent := (zpow_lt_zpow_iff_right₀ one_lt_two).mp hbound
      have hhalf : m = 2 * (m / 2) := by
        rcases abs_eq (by norm_num) |>.mp heq with rfl | rfl <;> norm_num
      refine ⟨m / 2, e + 1, ?_, by omega, by omega, ?_⟩
      · rw [abs_lt]
        have hbounds := abs_le.mp hm
        omega
      · rw [zpow_add_one₀ two_ne_zero]
        nth_rewrite 1 [hhalf]
        push_cast
        ring
  · -- above the largest exponent the factor has bits to spare
    have hsplit : (2 : ℚ) ^ e = 2 ^ ((e - 971).toNat : ℤ) * 2 ^ (971 : ℤ) := by
      rw [← zpow_add₀ two_ne_zero]
      congr 1
      omega
    refine ⟨m * 2 ^ (e - 971).toNat, 971, ?_, by omega, le_rfl, ?_⟩
    · have hfactor : |(m : ℚ)| * 2 ^ ((e - 971).toNat : ℤ) < 2 ^ (53 : ℤ) := by
        rw [← lt_div_iff₀ (by positivity), ← zpow_sub₀ two_ne_zero]
        refine lt_of_lt_of_eq h ?_
        congr 1
        omega
      rw [abs_mul, abs_of_pos (by positivity : (0 : ℤ) < 2 ^ (e - 971).toNat)]
      exact_mod_cast hfactor
    · rw [hsplit, Int.cast_mul, Int.cast_pow, Int.cast_ofNat, zpow_natCast, mul_assoc]

/-- The rounded value is representable below the overflow. -/
lemma representable_nearest {q : ℚ} (h : |nearest q| < 2 ^ (1024 : ℤ)) :
    Representable (nearest q) :=
  representable_mul_zpow (abs_roundHalfEven_le q) (le_max_right _ _) h

/-- The rounding of a rational: to nearest, ties to even, and to an infinity from 2^1024 on. -/
def round (q : ℚ) : Binary64 :=
  if h : |nearest q| < 2 ^ (1024 : ℤ) then finite (nearest q) (representable_nearest h)
  else infinite (decide (q < 0))

/-! ## Exact values -/

/-- The last place of a representable value is not above the power of two of the value. -/
lemma exponent_le {m e : ℤ} (hm : |m| < 2 ^ 53) (hmin : -1074 ≤ e) (h0 : m ≠ 0) :
    exponent ((m : ℚ) * 2 ^ e) ≤ e := by
  have hpow : (0 : ℚ) < 2 ^ e := by positivity
  have hpos : 0 < |(m : ℚ) * 2 ^ e| := by
    rw [abs_pos]
    exact mul_ne_zero (Int.cast_ne_zero.mpr h0) hpow.ne'
  have hbits : |(m : ℚ)| < 2 ^ (53 : ℤ) := by exact_mod_cast hm
  have hlt : |(m : ℚ) * 2 ^ e| < ((2 : ℕ) : ℚ) ^ (53 + e) := by
    rw [abs_mul, abs_of_pos hpow, Nat.cast_ofNat, zpow_add₀ two_ne_zero]
    exact mul_lt_mul_of_pos_right hbits hpow
  have hlog := (Int.lt_zpow_iff_log_lt one_lt_two hpos).mp hlt
  exact max_le (by omega) hmin

/-- A representable value is a multiple of its last place. -/
lemma nearest_of_representable {x : ℚ} (h : Representable x) : nearest x = x := by
  obtain ⟨m, e, hm, hmin, -, rfl⟩ := h
  rcases eq_or_ne m 0 with rfl | h0
  · simp [nearest, roundHalfEven]
  · have hexponent := exponent_le hm hmin h0
    unfold nearest
    generalize exponent ((m : ℚ) * 2 ^ e) = last at hexponent ⊢
    have hsplit : (2 : ℚ) ^ e = 2 ^ ((e - last).toNat : ℤ) * 2 ^ last := by
      rw [← zpow_add₀ two_ne_zero]
      congr 1
      omega
    have hunits : (m : ℚ) * 2 ^ e / 2 ^ last = ((m * 2 ^ (e - last).toNat : ℤ) : ℚ) := by
      rw [hsplit, ← mul_assoc, mul_div_cancel_right₀ _ (by positivity), zpow_natCast]
      push_cast
      rfl
    rw [hunits, roundHalfEven_intCast, ← hunits, div_mul_cancel₀ _ (by positivity)]

/-- A representable value is below the overflow. -/
lemma Representable.abs_lt {x : ℚ} (h : Representable x) : |x| < 2 ^ (1024 : ℤ) := by
  obtain ⟨m, e, hm, -, hmax, rfl⟩ := h
  have hpow : (0 : ℚ) < 2 ^ e := by positivity
  have hbits : |(m : ℚ)| < 2 ^ (53 : ℤ) := by exact_mod_cast hm
  rw [abs_mul, abs_of_pos hpow]
  calc |(m : ℚ)| * 2 ^ e < 2 ^ (53 : ℤ) * 2 ^ e := mul_lt_mul_of_pos_right hbits hpow
    _ = 2 ^ (53 + e) := (zpow_add₀ two_ne_zero 53 e).symm
    _ ≤ 2 ^ (1024 : ℤ) := zpow_le_zpow_right₀ one_le_two (by omega)

/-- **A representable value is its own rounding.** -/
theorem round_of_representable {x : ℚ} (h : Representable x) : round x = finite x h := by
  have hnearest := nearest_of_representable h
  unfold round
  simp only [hnearest, h.abs_lt, dif_pos]

/-- The integers up to 2^53 are representable. -/
lemma representable_intCast {n : ℤ} (h : |n| ≤ 2 ^ 53) : Representable n := by
  have hbound : |(n : ℚ)| < 2 ^ (1024 : ℤ) := by
    have hcast : |(n : ℚ)| ≤ 2 ^ (53 : ℤ) := by exact_mod_cast h
    exact hcast.trans_lt (zpow_lt_zpow_right₀ one_lt_two (by norm_num))
  have hrepresentable := @representable_mul_zpow n 0 h (by norm_num) (by simpa using hbound)
  simpa using hrepresentable

/-- **The integers up to 2^53 are exact.** -/
theorem round_intCast {n : ℤ} (h : |n| ≤ 2 ^ 53) :
    round n = finite n (representable_intCast h) :=
  round_of_representable (representable_intCast h)

/-! ## Magnitudes beyond the exact integers -/

/-- The magnitude is at least 2^53. -/
def Beyond : Binary64 → Prop
  | finite x _ => 2 ^ 53 ≤ |x|
  | infinite _ => True
  | nan => False

/-- The last place is at least 1 from 2^53 on, and the units reach 2^52. -/
lemma le_abs_nearest {q : ℚ} (h : 2 ^ 53 ≤ |q|) : 2 ^ 53 ≤ |nearest q| := by
  have hpos : 0 < |q| := by linarith
  have hlog : (53 : ℤ) ≤ Int.log 2 |q| := by
    rw [← Int.zpow_le_iff_le_log one_lt_two hpos]
    exact_mod_cast h
  have hexponent : exponent q = Int.log 2 |q| - 52 := max_eq_left (by omega)
  have hpow : (0 : ℚ) < 2 ^ exponent q := by positivity
  have hself : (2 : ℚ) ^ Int.log 2 |q| ≤ |q| := by
    exact_mod_cast Int.zpow_log_le_self one_lt_two hpos
  have hunits : (2 : ℚ) ^ (52 : ℤ) ≤ |q / 2 ^ exponent q| := by
    rw [abs_div, abs_of_pos hpow, le_div_iff₀ hpow, ← zpow_add₀ two_ne_zero, hexponent]
    simpa using hself
  have hrounded : ((2 ^ 52 : ℤ) : ℚ) ≤ |(roundHalfEven (q / 2 ^ exponent q) : ℚ)| := by
    rw [← Int.cast_abs, Int.cast_le]
    exact le_abs_roundHalfEven (by exact_mod_cast hunits)
  have hplace : (2 : ℚ) ^ (1 : ℤ) ≤ 2 ^ exponent q :=
    zpow_le_zpow_right₀ one_le_two (by omega)
  unfold nearest
  rw [abs_mul, abs_of_pos hpow]
  calc (2 : ℚ) ^ 53 = ((2 ^ 52 : ℤ) : ℚ) * 2 ^ (1 : ℤ) := by norm_num
    _ ≤ _ := mul_le_mul hrounded hplace (by positivity) (abs_nonneg _)

/-- **Rounding does not leave the magnitudes from 2^53 on.** -/
theorem beyond_round {q : ℚ} (h : 2 ^ 53 ≤ |q|) : (round q).Beyond := by
  unfold round
  split_ifs
  · exact le_abs_nearest h
  · trivial

/-! ## Arithmetic -/

/-- `is_finite`. -/
def isFinite : Binary64 → Bool
  | finite _ _ => true
  | _ => false

/-- The product. An infinity times zero is not a number. -/
def mul : Binary64 → Binary64 → Binary64
  | finite x _, finite y _ => round (x * y)
  | nan, _ => nan
  | _, nan => nan
  | infinite negative, finite y _ =>
    if y = 0 then nan else infinite (negative ^^ decide (y < 0))
  | finite x _, infinite negative =>
    if x = 0 then nan else infinite (decide (x < 0) ^^ negative)
  | infinite a, infinite b => infinite (a ^^ b)

/-- The sum. Two infinities of opposite signs give no number. -/
def add : Binary64 → Binary64 → Binary64
  | finite x _, finite y _ => round (x + y)
  | nan, _ => nan
  | _, nan => nan
  | infinite negative, finite _ _ => infinite negative
  | finite _ _, infinite negative => infinite negative
  | infinite a, infinite b => if a = b then infinite a else nan

/-- A product with a factor of at least 1 does not leave the magnitudes from 2^53 on. -/
lemma Beyond.mul {x : Binary64} (h : x.Beyond) {y : ℚ} {hy : Representable y} (hone : 1 ≤ |y|) :
    (x.mul (finite y hy)).Beyond := by
  cases x with
  | finite x hx =>
    apply beyond_round
    rw [abs_mul]
    exact h.trans (le_mul_of_one_le_right (abs_nonneg x) hone)
  | infinite negative =>
    have hne : y ≠ 0 := by
      intro h0
      rw [h0, abs_zero] at hone
      linarith
    show (if y = 0 then nan else infinite _).Beyond
    rw [if_neg hne]
    trivial
  | nan => exact h

/-- The product does not depend on the order of its factors. -/
lemma mul_comm (x y : Binary64) : x.mul y = y.mul x := by
  cases x with
  | finite x hx =>
    cases y with
    | finite y hy =>
      show round (x * y) = round (y * x)
      ring_nf
    | infinite negative =>
      show (if x = 0 then nan else infinite _) = if x = 0 then nan else infinite _
      rw [Bool.xor_comm]
    | nan => rfl
  | infinite a =>
    cases y with
    | finite y hy =>
      show (if y = 0 then nan else infinite _) = if y = 0 then nan else infinite _
      rw [Bool.xor_comm]
    | infinite b =>
      show infinite _ = infinite _
      rw [Bool.xor_comm]
    | nan => rfl
  | nan => cases y <;> rfl

/-! ## Natural numbers -/

/-- The value is at least 2^53. -/
def Above : Binary64 → Prop
  | finite x _ => 2 ^ 53 ≤ x
  | infinite negative => negative = false
  | nan => False

/-- A value from 2^53 on has such a magnitude. -/
lemma Above.beyond {x : Binary64} (h : x.Above) : x.Beyond := by
  cases x with
  | finite x hx => exact le_trans h (le_abs_self x)
  | infinite negative => trivial
  | nan => exact h

/-- Rounding does not leave the values from 2^53 on. -/
lemma above_round {q : ℚ} (h : 2 ^ 53 ≤ q) : (round q).Above := by
  have hq : 0 ≤ q := by linarith
  unfold round
  split_ifs
  · have hpow : (0 : ℚ) < 2 ^ exponent q := by positivity
    have hunits : 0 ≤ roundHalfEven (q / 2 ^ exponent q) := by
      apply le_roundHalfEven
      push_cast
      positivity
    have hnearest : 0 ≤ nearest q := mul_nonneg (Int.cast_nonneg hunits) hpow.le
    have hle := le_abs_nearest (h.trans (le_abs_self q))
    rw [abs_of_nonneg hnearest] at hle
    exact hle
  · show decide (q < 0) = false
    exact decide_eq_false (not_lt.mpr hq)

/-- A product with a factor of at least 1 does not leave the values from 2^53 on. -/
lemma Above.mul {x : Binary64} (h : x.Above) {y : ℚ} {hy : Representable y} (hone : 1 ≤ y) :
    (x.mul (finite y hy)).Above := by
  cases x with
  | finite x hx =>
    apply above_round
    have hx0 : 0 ≤ x := le_trans (by norm_num) h
    exact le_trans h (le_mul_of_one_le_right hx0 hone)
  | infinite negative =>
    show (if y = 0 then nan else infinite (negative ^^ decide (y < 0))).Above
    rw [if_neg (by linarith), decide_eq_false (by linarith), Bool.xor_false]
    exact h
  | nan => exact h

/-- A sum with a value that is not negative does not leave the values from 2^53 on. -/
lemma Above.add {x : Binary64} (h : x.Above) {y : ℚ} {hy : Representable y} (h0 : 0 ≤ y) :
    (x.add (finite y hy)).Above := by
  cases x with
  | finite x hx =>
    apply above_round
    exact le_trans h (le_add_of_nonneg_right h0)
  | infinite negative => exact h
  | nan => exact h

/-- The value stands for a natural number: up to 2^53 it is the number, and past that it is at least
2^53. -/
def StandsFor (x : Binary64) (n : ℕ) : Prop :=
  (n ≤ 2 ^ 53 → ∃ h, x = finite n h) ∧ (2 ^ 53 < n → x.Above)

/-- **The rounding of a natural number stands for it.** -/
theorem standsFor_round (n : ℕ) : (round n).StandsFor n := by
  constructor
  · intro h
    have hn : |(n : ℤ)| ≤ 2 ^ 53 := by
      rw [Nat.abs_cast]
      exact_mod_cast h
    have hrepresentable := representable_intCast hn
    rw [Int.cast_natCast] at hrepresentable
    exact ⟨hrepresentable, round_of_representable hrepresentable⟩
  · intro h
    apply above_round
    exact_mod_cast h.le

/-- **A digit behind a number**: the number times the radix, with the digit added. Past 2^53 the
roundings stay there.

**Proof sketch.** Where the product is at most 2^53, it is exact and the sum is rounded once. Where
the product or the number itself is past 2^53, the rounding of each operation stays past it, as the
operations are monotone. -/
theorem StandsFor.digit {x : Binary64} {n : ℕ} (h : x.StandsFor n) {radix digit : ℕ}
    (hradix : 1 ≤ radix) (hsmall : radix ≤ 2 ^ 53) (hdigit : digit ≤ 2 ^ 53) :
    ((x.mul (round radix)).add (round digit)).StandsFor (n * radix + digit) := by
  obtain ⟨hr, hradixExact⟩ := (standsFor_round radix).1 hsmall
  obtain ⟨hd, hdigitExact⟩ := (standsFor_round digit).1 hdigit
  rw [hradixExact, hdigitExact]
  have hradix1 : (1 : ℚ) ≤ radix := by exact_mod_cast hradix
  have hdigit0 : (0 : ℚ) ≤ digit := Nat.cast_nonneg digit
  have hn : n ≤ n * radix := Nat.le_mul_of_pos_right n hradix
  rcases le_or_gt n (2 ^ 53) with hle | hlt
  · obtain ⟨hx, rfl⟩ := h.1 hle
    have hproduct : (finite (n : ℚ) hx).mul (finite radix hr) = round ((n * radix : ℕ) : ℚ) := by
      rw [Nat.cast_mul]
      rfl
    rw [hproduct]
    rcases le_or_gt (n * radix) (2 ^ 53) with hle' | hlt'
    · -- the product is exact, so the sum is rounded once
      obtain ⟨hp, hexact⟩ := (standsFor_round (n * radix)).1 hle'
      have hsum : (finite ((n * radix : ℕ) : ℚ) hp).add (finite digit hd) =
          round ((n * radix + digit : ℕ) : ℚ) := by
        rw [Nat.cast_add]
        rfl
      rw [hexact, hsum]
      exact standsFor_round _
    · refine ⟨fun hsum => absurd hsum (by omega), fun _ => ?_⟩
      exact ((standsFor_round (n * radix)).2 hlt').add hdigit0
  · refine ⟨fun hsum => absurd hsum (by omega), fun _ => ?_⟩
    exact ((h.2 hlt).mul hradix1).add hdigit0

/-- The value stands for an integer: up to 2^53 in magnitude it is the integer, and past that its
magnitude is at least 2^53. -/
def StandsForInt (x : Binary64) (n : ℤ) : Prop :=
  (|n| ≤ 2 ^ 53 → ∃ h, x = finite n h) ∧ (2 ^ 53 < |n| → x.Beyond)

/-- The value of a natural number stands for it as an integer. -/
lemma StandsFor.toInt {x : Binary64} {n : ℕ} (h : x.StandsFor n) : x.StandsForInt n := by
  unfold StandsForInt
  rw [Nat.abs_cast]
  constructor
  · intro hle
    obtain ⟨hx, rfl⟩ := h.1 (by exact_mod_cast hle)
    exact ⟨by rwa [Int.cast_natCast], by simp⟩
  · intro hlt
    exact (h.2 (by exact_mod_cast hlt)).beyond

/-- **A sign before a number** makes the signed number. -/
theorem StandsFor.signed {x : Binary64} {n : ℕ} (h : x.StandsFor n) {sign : ℤ}
    (hsign : |sign| = 1) : ((round sign).mul x).StandsForInt (sign * n) := by
  rw [round_intCast (by rw [hsign]; norm_num)]
  have habs : |sign * (n : ℤ)| = n := by rw [abs_mul, hsign, one_mul, Nat.abs_cast]
  unfold StandsForInt
  rw [habs]
  constructor
  · intro hle
    obtain ⟨hx, rfl⟩ := h.1 (by exact_mod_cast hle)
    have hbound : |sign * (n : ℤ)| ≤ 2 ^ 53 := by rw [habs]; exact hle
    refine ⟨representable_intCast hbound, ?_⟩
    rw [← round_intCast hbound, Int.cast_mul, Int.cast_natCast]
    rfl
  · intro hlt
    rw [mul_comm]
    apply (h.2 (by exact_mod_cast hlt)).beyond.mul
    rw [← Int.cast_abs, hsign, Int.cast_one]

end Binary64
