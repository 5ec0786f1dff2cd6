import Mathlib.Data.Nat.Basic

set_option relaxedAutoImplicit false
set_option autoImplicit false

/-!
# A bounded retry

A call is tried until an attempt stops it or the budget is used up. Which attempts stop is a
predicate of their numbers, so the facts here hold for every sequence of outcomes.

## Main definitions

* `deciding` — the attempt that decides the call: the first that stops it, or the last one of the
  budget.

## Main results

* `not_stops_of_lt_deciding`, `stops_deciding` — no attempt before the deciding one stops the call,
  and the deciding one does unless it is the last of the budget.
-/

namespace PsStore

variable (stops : ℕ → Prop) [DecidablePred stops]

/-- The attempt that decides a call which is about to make attempt `k`, with `left` more attempts
after that one. -/
def deciding : ℕ → ℕ → ℕ
  | 0, k => k
  | left + 1, k => if stops k then k else deciding left (k + 1)

variable {stops}

/-- An attempt that stops the call decides it. -/
lemma deciding_of_stops {left k : ℕ} (h : stops k) : deciding stops left k = k := by
  cases left with
  | zero => rfl
  | succ left => rw [deciding, if_pos h]

/-- Where the attempt does not stop the call and one is left, a later attempt decides. -/
lemma deciding_of_not_stops {left k : ℕ} (h : ¬stops k) :
    deciding stops (left + 1) k = deciding stops left (k + 1) := by
  rw [deciding, if_neg h]

/-- The deciding attempt is made. -/
lemma le_deciding (left k : ℕ) : k ≤ deciding stops left k := by
  induction left generalizing k with
  | zero => exact Nat.le_refl k
  | succ left ih =>
    by_cases h : stops k
    · rw [deciding_of_stops h]
    · rw [deciding_of_not_stops h]
      exact Nat.le_of_succ_le (ih (k + 1))

/-- The deciding attempt is within the budget. -/
lemma deciding_le (left k : ℕ) : deciding stops left k ≤ k + left := by
  induction left generalizing k with
  | zero => exact Nat.le_refl k
  | succ left ih =>
    by_cases h : stops k
    · rw [deciding_of_stops h]
      omega
    · have hlater := ih (k + 1)
      rw [deciding_of_not_stops h]
      omega

/-- **No attempt before the deciding one stops the call.** -/
theorem not_stops_of_lt_deciding {left k j : ℕ} (hkj : k ≤ j) (hj : j < deciding stops left k) :
    ¬stops j := by
  induction left generalizing k with
  | zero =>
    have hle : j < k := hj
    omega
  | succ left ih =>
    by_cases h : stops k
    · rw [deciding_of_stops h] at hj
      omega
    · rw [deciding_of_not_stops h] at hj
      rcases Nat.eq_or_lt_of_le hkj with rfl | hlt
      · exact h
      · exact ih hlt hj

/-- **The deciding attempt stops the call**, unless it is the last one of the budget. -/
theorem stops_deciding {left k : ℕ} (hd : deciding stops left k < k + left) :
    stops (deciding stops left k) := by
  induction left generalizing k with
  | zero =>
    have hlt : k < k := hd
    omega
  | succ left ih =>
    by_cases h : stops k
    · rwa [deciding_of_stops h]
    · rw [deciding_of_not_stops h] at hd ⊢
      apply ih
      omega

end PsStore
