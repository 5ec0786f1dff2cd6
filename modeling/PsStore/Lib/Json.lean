import Mathlib.Data.Int.Notation
import Mathlib.Data.List.Forall2
import Mathlib.Data.Nat.Notation

set_option relaxedAutoImplicit false
set_option autoImplicit false

/-!
# JSON values and their shapes

A parsed JSON value, the shapes that a schema of strings, lists and records describes, and what a
value of such a shape says. A field of a record may be absent or `null`, and a record may have other
fields.

## Main definitions

* `Json.Value`, `Json.Object` — a JSON value; the fields of an object.
* `Json.IsString`, `Json.IsListOf`, `Json.IsRecord` — the shapes.
* `Json.ObjectAt`, `Json.ItemsAt` — an object at a path of keys; the elements of an optional list.
* `Json.TextReads`, `Json.ListReads`, `Json.FieldReads` — what a value of a shape says.
* `Json.ElementsRead` — what the elements of a list say, and how many say nothing.

## Main results

* `Json.reading_filterMap` — what a reader of values makes of the elements of a list.
* `Json.ElementsRead.eq_filterMap` — a list has one reading.
-/

namespace Json

/-- A JSON number: an integer with its sign, or a number with a fraction or an exponent, of whose
binary64 value only the integer is kept, where it is one. -/
inductive Number where
  | posInt (n : ℕ)
  | negInt (n : ℕ)
  | float (integer : Option ℤ)
deriving DecidableEq

/-- A JSON value. -/
inductive Value where
  | null
  | bool (value : Bool)
  | number (value : Number)
  | string (text : String)
  | array (items : List Value)
  | object (fields : List (String × Value))

/-- The fields of a JSON object. -/
abbrev Object := List (String × Value)

/-- The value of a key. -/
def Object.get (obj : Object) (key : String) : Option Value := obj.lookup key

namespace Value

/-- The value is `null`. -/
def isNull : Value → Bool
  | null => true
  | _ => false

/-- The fields of an object. -/
def asObject : Value → Option Object
  | object fields => some fields
  | _ => none

/-- The elements of an array. -/
def asArray : Value → Option (List Value)
  | array items => some items
  | _ => none

/-- The text of a string. -/
def asString : Value → Option String
  | string text => some text
  | _ => none

/-- The truth value of a boolean. -/
def asBool : Value → Option Bool
  | bool value => some value
  | _ => none

/-- A natural number. -/
def asNat : Value → Option ℕ
  | number (.posInt n) => some n
  | _ => none

/-- A value has fields where it is an object. -/
@[simp] lemma asObject_eq_some_iff {value : Value} {obj : Object} :
    value.asObject = some obj ↔ value = .object obj := by
  cases value <;> simp [asObject]

/-- A value has elements where it is an array. -/
@[simp] lemma asArray_eq_some_iff {value : Value} {items : List Value} :
    value.asArray = some items ↔ value = .array items := by
  cases value <;> simp [asArray]

end Value

/-! ## Shapes -/

/-- The value is a string. -/
def IsString (value : Value) : Prop := ∃ text, value = .string text

/-- The value is an array whose elements have a shape. -/
def IsListOf (shape : Value → Prop) (value : Value) : Prop :=
  ∃ items, value = .array items ∧ ∀ item ∈ items, shape item

/-- The field is absent, `null`, or of a shape. -/
def HasField (obj : Object) (key : String) (shape : Value → Prop) : Prop :=
  ∀ value ∈ obj.get key, value.isNull = false → shape value

/-- The value is an object each of whose listed fields is absent, `null`, or of its shape. -/
def IsRecord (fields : List (String × (Value → Prop))) (value : Value) : Prop :=
  ∃ obj, value = .object obj ∧ ∀ field ∈ fields, HasField obj field.1 field.2

/-- The object at a path of keys, each of which belongs to an object. -/
def ObjectAt (json : Value) : List String → Object → Prop
  | [], obj => json = .object obj
  | key :: path, obj =>
    ∃ (outer : Object) (value : Value), json = .object outer ∧ outer.get key = some value ∧
      ObjectAt value path obj

/-- The elements of an optional list: an absent key and `null` have none. -/
def ItemsAt (obj : Object) (key : String) (items : List Value) : Prop :=
  (obj.get key = none ∨ obj.get key = some .null) ∧ items = [] ∨ obj.get key = some (.array items)

/-! ## Readings -/

section

variable {α : Type}

/-- The value is the text. -/
def TextReads (value : Value) (text : String) : Prop := value = .string text

/-- The value is the truth value. -/
def BoolReads (value : Value) (b : Bool) : Prop := value = .bool b

/-- The value is `null`, or the text. -/
def NullableTextReads (value : Value) : Option String → Prop
  | none => value = .null
  | some text => value = .string text

/-- The value is an array, and its elements read as these ones, each in its place. -/
def ListReads (reads : Value → α → Prop) (value : Value) (as : List α) : Prop :=
  ∃ items, value = .array items ∧ List.Forall₂ reads items as

/-- The field is absent or `null`, or its value reads as this one. -/
def FieldReads (reads : Value → α → Prop) (obj : Object) (key : String) : Option α → Prop
  | none => obj.get key = none ∨ obj.get key = some .null
  | some a => ∃ value, obj.get key = some value ∧ value.isNull = false ∧ reads value a

/-- The value says nothing. -/
def SaysNothing (reads : Value → α → Prop) (value : Value) : Prop := ∀ a, ¬ reads value a

/-- The elements of a list that read as something, in their order, with the number of those that
read as nothing. -/
inductive ElementsRead (reads : Value → α → Prop) : List Value → List α → ℕ → Prop
  | nil : ElementsRead reads [] [] 0
  | kept {item : Value} {a : α} {items : List Value} {as : List α} {dropped : ℕ}
      (h : reads item a) (rest : ElementsRead reads items as dropped) :
      ElementsRead reads (item :: items) (a :: as) dropped
  | dropped {item : Value} {items : List Value} {as : List α} {dropped : ℕ}
      (h : SaysNothing reads item) (rest : ElementsRead reads items as dropped) :
      ElementsRead reads (item :: items) as (dropped + 1)

variable {f : Value → Option α} {reads : Value → α → Prop}

/-- A reader of values that gives exactly what a value says gives nothing exactly where the value
says nothing. -/
lemma eq_none_iff_saysNothing (h : ∀ value a, f value = some a ↔ reads value a) {value : Value} :
    f value = none ↔ SaysNothing reads value := by
  rw [Option.eq_none_iff_forall_ne_some]
  exact forall_congr' fun a => not_congr (h value a)

/-- **A reader of values** that gives exactly what a value says keeps what the elements of a list
say, and misses those that say nothing. -/
theorem reading_filterMap (h : ∀ value a, f value = some a ↔ reads value a) (items : List Value) :
    ElementsRead reads items (items.filterMap f) (items.countP fun item => (f item).isNone) := by
  induction items with
  | nil => exact .nil
  | cons item items ih =>
    cases hitem : f item with
    | some a =>
      rw [List.filterMap_cons_some hitem, List.countP_cons_of_neg (by simp [hitem])]
      exact .kept ((h item a).mp hitem) ih
    | none =>
      rw [List.filterMap_cons_none hitem, List.countP_cons_of_pos (by simp [hitem])]
      exact .dropped ((eq_none_iff_saysNothing h).mp hitem) ih

/-- A list has one reading. -/
lemma ElementsRead.eq_filterMap (h : ∀ value a, f value = some a ↔ reads value a)
    {items : List Value} {as : List α} {dropped : ℕ}
    (hreading : ElementsRead reads items as dropped) :
    as = items.filterMap f ∧ dropped = items.countP fun item => (f item).isNone := by
  induction hreading with
  | nil => exact ⟨rfl, rfl⟩
  | @kept item a items as dropped hread _ ih =>
    have hitem : f item = some a := (h item a).mpr hread
    rw [List.filterMap_cons_some hitem, List.countP_cons_of_neg (by simp [hitem])]
    exact ⟨congrArg _ ih.1, ih.2⟩
  | @dropped item items as dropped hnothing _ ih =>
    have hitem : f item = none := (eq_none_iff_saysNothing h).mpr hnothing
    rw [List.filterMap_cons_none hitem, List.countP_cons_of_pos (by simp [hitem])]
    exact ⟨ih.1, congrArg (· + 1) ih.2⟩

/-- Every element of a list is selected or not. -/
lemma length_filterMap_add_countP {ι β : Type} (f : ι → Option β) (items : List ι) :
    (items.filterMap f).length + items.countP (fun item => (f item).isNone) = items.length := by
  rw [List.length_filterMap_eq_countP,
    List.length_eq_countP_add_countP fun item => (f item).isSome]
  congr 2
  funext item
  cases f item <;> rfl

end

end Json
