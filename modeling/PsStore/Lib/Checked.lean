import Mathlib.Algebra.Group.Int.Defs
import Mathlib.Data.Int.Notation
import Mathlib.Data.Nat.Notation
import Mathlib.Tactic.Lemma

set_option relaxedAutoImplicit false
set_option autoImplicit false

/-!
# Arithmetic with overflow checks

Computations in signed machine integers that stop where a result does not fit or an assertion
fails, and that may end without a value.

## Main definitions

* `Checked` — a computation that ends with a value, without one, or with a fault.
* `Checked.ended`, `Checked.overflowed`, `Checked.asserted` — the computations that are at their
  end.
* `Checked.signed` — the result of a step, where it fits a signed integer of a width.

## Main results

* `Checked.ended_bind` — a sequence of steps without an overflow ends like the sequence of their
  outcomes.
-/

/-- What stops a computation: a result does not fit its machine integer, or an assertion fails. -/
inductive Fault where
  | overflow
  | assertion
deriving DecidableEq

/-- A computation that ends with a value, without one, or with a fault. -/
abbrev Checked (α : Type) : Type := OptionT (Except Fault) α

namespace Checked

variable {α β γ : Type}

/-- A computation that has ended with or without a value. -/
def ended (outcome : Option α) : Checked α := OptionT.mk (.ok outcome)

/-- A computation that has overflowed. -/
def overflowed : Checked α := OptionT.mk (.error .overflow)

/-- A computation whose assertion has failed. -/
def asserted : Checked α := OptionT.mk (.error .assertion)

/-- The result of a step in a signed integer of `width` bits. -/
def signed (width : ℕ) (result : ℤ) : Checked ℤ :=
  if -2 ^ (width - 1) ≤ result ∧ result < 2 ^ (width - 1) then ended (some result) else overflowed

/-- The steps after a value. -/
@[simp] lemma ended_some_bind (a : α) (f : α → Checked β) : ended (some a) >>= f = f a := rfl

/-- There are no steps after a computation without a value. -/
@[simp] lemma ended_none_bind (f : α → Checked β) :
    (ended none : Checked α) >>= f = ended none := rfl

/-- There are no steps after an overflow. -/
@[simp] lemma overflowed_bind (f : α → Checked β) : (overflowed : Checked α) >>= f = overflowed :=
  rfl

/-- **A sequence of steps** whose last one is checked by `check` ends like the checked sequence of
their outcomes. -/
lemma ended_bind_of_check {outcome : Option α} {f : α → Checked γ} {g : α → Option β}
    {check : Option β → Checked γ} (hnone : check none = ended none)
    (h : ∀ a, outcome = some a → f a = check (g a)) :
    ended outcome >>= f = check (outcome >>= g) := by
  cases outcome with
  | none => exact hnone.symm
  | some a => exact h a rfl

/-- **A sequence of steps without an overflow** ends like the sequence of their outcomes. -/
lemma ended_bind {outcome : Option α} {f : α → Checked β} {g : α → Option β}
    (h : ∀ a, outcome = some a → f a = ended (g a)) :
    ended outcome >>= f = ended (outcome >>= g) :=
  ended_bind_of_check rfl h

/-- A result that fits is the result of its step. -/
lemma signed_eq {width : ℕ} {result : ℤ} (hlow : -2 ^ (width - 1) ≤ result)
    (hhigh : result < 2 ^ (width - 1)) : signed width result = ended (some result) :=
  if_pos ⟨hlow, hhigh⟩

/-- A result that is too large overflows. -/
lemma signed_eq_overflowed {width : ℕ} {result : ℤ} (h : 2 ^ (width - 1) ≤ result) :
    signed width result = overflowed := by
  unfold signed
  rw [if_neg]
  intro hfits
  exact absurd hfits.2 (Int.not_lt.mpr h)

/-- A computation that has ended has not overflowed. -/
lemma ended_ne_overflowed (outcome : Option α) : ended outcome ≠ overflowed := by
  intro h
  cases h

/-- A computation that has ended has not failed an assertion. -/
lemma ended_ne_asserted (outcome : Option α) : ended outcome ≠ asserted := by
  intro h
  cases h

/-- A computation ends in one way. -/
lemma ended_injective {a b : Option α} (h : ended a = ended b) : a = b := by
  cases h
  rfl

end Checked
