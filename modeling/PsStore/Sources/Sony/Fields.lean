import PsStore.Lib.FirstWins
import PsStore.Lib.Json

set_option relaxedAutoImplicit false
set_option autoImplicit false

/-!
# The tolerant list decoders

The field rules of `sources/sony/account/fields.rs`, and the loop that the monthly feed and the
wishlist share: each element is kept, dropped or out of scope, and the first kept element of a key
wins.

## Main definitions

* `Field` — the outcome of one list element.
* `Tally`, `Tally.add` — what the loop has read so far, and its step.

## Main results

* `Tally.entries_foldl` — the entries after a run of the loop: the kept elements that are the first
  ones of their keys.
* `Tally.dropped_foldl`, `Tally.outOfScope_foldl` — the counts after a run of the loop.
* `length_fields` — every element is kept, dropped, or out of scope.
-/

namespace PsStore

open Json

/-- The outcome of one list element. -/
inductive Field (α : Type) where
  | kept (entry : α)
  /-- The element failed decode or had no usable id or name. -/
  | dropped
  /-- The element decoded but is outside the product scope. -/
  | outOfScope
deriving DecidableEq

/-- The entry of a kept element. -/
def Field.entry? {α : Type} : Field α → Option α
  | .kept entry => some entry
  | .dropped | .outOfScope => none

/-- An optional text field: `none` for a value of the wrong type. -/
def nullableString (obj : Object) (key : String) : Option (Option String) :=
  match obj.get key with
  | none | some .null => some none
  | some (.string text) => some (some text)
  | some _ => none

/-- What the loop has read so far. -/
structure Tally (α κ : Type) where
  entries : List α
  seen : Finset κ
  dropped : ℕ
  outOfScope : ℕ

/-- Nothing is read yet. -/
def Tally.empty {α κ : Type} : Tally α κ where
  entries := []
  seen := ∅
  dropped := 0
  outOfScope := 0

section

variable {α κ : Type} [DecidableEq κ]

/-- The step of the loop. -/
def Tally.add (key : α → κ) (tally : Tally α κ) : Field α → Tally α κ
  | .kept entry =>
    if key entry ∈ tally.seen then tally
    else { tally with entries := tally.entries ++ [entry], seen := insert (key entry) tally.seen }
  | .dropped => { tally with dropped := tally.dropped + 1 }
  | .outOfScope => { tally with outOfScope := tally.outOfScope + 1 }

/-- A run of the loop adds the kept elements whose keys are new, and no key twice. -/
lemma Tally.foldl_add (key : α → κ) (fields : List (Field α)) (tally : Tally α κ) :
    (fields.foldl (Tally.add key) tally).entries =
      tally.entries ++ firstWinsFrom key tally.seen (fields.filterMap Field.entry?) := by
  induction fields generalizing tally with
  | nil => simp [firstWinsFrom]
  | cons field fields ih =>
    rw [List.foldl_cons, ih]
    cases field with
    | kept entry =>
      have hkept : (Field.kept entry :: fields).filterMap Field.entry? =
          entry :: fields.filterMap Field.entry? := rfl
      rw [hkept]
      by_cases hseen : key entry ∈ tally.seen
      · simp [Tally.add, firstWinsFrom, hseen]
      · simp [Tally.add, firstWinsFrom, hseen]
    | dropped => rfl
    | outOfScope => rfl

/-- **The entries of a list**: the kept elements that are the first ones of their keys, in order. -/
theorem Tally.entries_foldl (key : α → κ) (fields : List (Field α)) :
    (fields.foldl (Tally.add key) Tally.empty).entries =
      firstWins key (fields.filterMap Field.entry?) := by
  rw [Tally.foldl_add]
  rfl

/-- A kept element counts as neither dropped nor out of scope. -/
@[simp] lemma Tally.add_kept_dropped (key : α → κ) (tally : Tally α κ) (entry : α) :
    (tally.add key (.kept entry)).dropped = tally.dropped := by
  unfold Tally.add
  dsimp only
  split_ifs <;> rfl

/-- A kept element is not out of scope. -/
@[simp] lemma Tally.add_kept_outOfScope (key : α → κ) (tally : Tally α κ) (entry : α) :
    (tally.add key (.kept entry)).outOfScope = tally.outOfScope := by
  unfold Tally.add
  dsimp only
  split_ifs <;> rfl

/-- The count of the dropped elements of a list. -/
lemma Tally.dropped_foldl [DecidableEq α] (key : α → κ) (fields : List (Field α))
    (tally : Tally α κ) :
    (fields.foldl (Tally.add key) tally).dropped =
      tally.dropped + fields.countP (· = .dropped) := by
  induction fields generalizing tally with
  | nil => rfl
  | cons field fields ih =>
    rw [List.foldl_cons, ih, List.countP_cons]
    cases field with
    | kept entry => simp
    | dropped => simp [Tally.add]; omega
    | outOfScope => simp [Tally.add]

/-- The count of the elements of a list that are out of scope. -/
lemma Tally.outOfScope_foldl [DecidableEq α] (key : α → κ) (fields : List (Field α))
    (tally : Tally α κ) :
    (fields.foldl (Tally.add key) tally).outOfScope =
      tally.outOfScope + fields.countP (· = .outOfScope) := by
  induction fields generalizing tally with
  | nil => rfl
  | cons field fields ih =>
    rw [List.foldl_cons, ih, List.countP_cons]
    cases field with
    | kept entry => simp
    | dropped => simp [Tally.add]
    | outOfScope => simp [Tally.add]; omega

/-- The number of dropped elements of a list. -/
lemma Tally.dropped_foldl_empty [DecidableEq α] (key : α → κ) (fields : List (Field α)) :
    (fields.foldl (Tally.add key) Tally.empty).dropped = fields.countP (· = .dropped) := by
  rw [Tally.dropped_foldl]
  exact Nat.zero_add _

/-- The number of elements of a list that are out of scope. -/
lemma Tally.outOfScope_foldl_empty [DecidableEq α] (key : α → κ) (fields : List (Field α)) :
    (fields.foldl (Tally.add key) Tally.empty).outOfScope = fields.countP (· = .outOfScope) := by
  rw [Tally.outOfScope_foldl]
  exact Nat.zero_add _

end

/-- Every element is kept, dropped, or out of scope. -/
lemma length_fields {α : Type} [DecidableEq α] (fields : List (Field α)) :
    (fields.filterMap Field.entry?).length + fields.countP (· = .dropped) +
      fields.countP (· = .outOfScope) = fields.length := by
  induction fields with
  | nil => rfl
  | cons field fields ih =>
    rw [List.length_cons, ← ih, List.countP_cons, List.countP_cons]
    cases field with
    | kept entry =>
      have hkept : (Field.kept entry :: fields).filterMap Field.entry? =
          entry :: fields.filterMap Field.entry? := rfl
      rw [hkept, List.length_cons]
      simp
      omega
    | dropped =>
      rw [List.filterMap_cons_none rfl]
      simp
      omega
    | outOfScope =>
      rw [List.filterMap_cons_none rfl]
      simp
      omega

end PsStore
