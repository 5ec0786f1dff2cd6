import Mathlib.Data.Nat.Notation
import Mathlib.Tactic.Lemma

set_option relaxedAutoImplicit false
set_option autoImplicit false

/-!
# Decoders

A decoder reads a list from the front. At each element it writes one result and says how many of
the elements after it belong to the result, too.

## Main definitions

* `decodeBy` — the results of a decoder.

## Main results

* `decodeBy_cons_append` — a code at the front is decoded before the rest.
* `mem_decodeBy` — an element that stands alone is decoded wherever it stands.
-/

universe u v

variable {α : Type u} {β : Type v} (step : α → List α → β × ℕ)

/-- The results of a decoder, where the first `skip` elements belong to the result before. -/
def decodeSkip : ℕ → List α → List β
  | skip + 1, _ :: rest => decodeSkip skip rest
  | 0, a :: rest => (step a rest).1 :: decodeSkip (step a rest).2 rest
  | _, [] => []

/-- The results of a decoder. -/
def decodeBy (text : List α) : List β := decodeSkip step 0 text

/-- No element is decoded to none. -/
@[simp] lemma decodeBy_nil : decodeBy step [] = [] := rfl

variable {step}

/-- Elements that belong to the result before them are passed over. -/
lemma decodeSkip_append (code rest : List α) :
    decodeSkip step code.length (code ++ rest) = decodeBy step rest := by
  induction code with
  | nil => rfl
  | cons a code ih => exact ih

/-- **A code at the front** is decoded before the rest. -/
lemma decodeBy_cons_append {a : α} {code rest : List α} {b : β}
    (h : step a (code ++ rest) = (b, code.length)) :
    decodeBy step (a :: (code ++ rest)) = b :: decodeBy step rest := by
  unfold decodeBy
  rw [decodeSkip, h]
  exact congrArg _ (decodeSkip_append code rest)

/-- An element that is passed over by no result is decoded. -/
lemma mem_decodeSkip {a : α} {b : β} (hself : ∀ rest, (step a rest).1 = b)
    (halone : ∀ (c : α) (rest : List α), a ∉ rest.take (step c rest).2) {text : List α} {skip : ℕ}
    (hskip : a ∉ text.take skip) (h : a ∈ text) : b ∈ decodeSkip step skip text := by
  induction text generalizing skip with
  | nil => cases h
  | cons c rest ih =>
    cases skip with
    | zero =>
      rw [decodeSkip]
      rcases List.mem_cons.mp h with rfl | hrest
      · rw [hself]
        exact List.mem_cons_self
      · exact List.mem_cons_of_mem _ (ih (halone c rest) hrest)
    | succ skip =>
      rw [List.take_succ_cons, List.mem_cons, not_or] at hskip
      rw [decodeSkip]
      exact ih hskip.2 ((List.mem_cons.mp h).resolve_left hskip.1)

/-- **An element that stands alone** is decoded wherever it stands. -/
lemma mem_decodeBy {a : α} {b : β} (hself : ∀ rest, (step a rest).1 = b)
    (halone : ∀ (c : α) (rest : List α), a ∉ rest.take (step c rest).2) {text : List α}
    (h : a ∈ text) : b ∈ decodeBy step text :=
  mem_decodeSkip hself halone (by simp) h
