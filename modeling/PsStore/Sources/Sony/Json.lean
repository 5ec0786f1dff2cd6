import PsStore.Lib.Except
import PsStore.Lib.Json

set_option relaxedAutoImplicit false
set_option autoImplicit false

/-!
# The decode rules of the store boundary

The functions of `sources/sony/catalog/json.rs` over a parsed JSON value. An absent key or `null` is
`none`; a value of another type fails the whole record; one failing element fails a whole array.

## Main definitions

* `optional` — an optional, nullable field; `optString`, `optBool`, `optList`, `optListOf`,
  `optStrings`, `optNullableStrings`, `optObjectOf` — the fields that the decoders read.
* `Accepts` — a decoder accepts exactly the values of a shape.
* `Decodes` — a decoder gives exactly what a value says.

## Main results

* `accepts_listOf`, `exists_optional_iff` — a decoder of a field accepts its shape where the decoder
  of its values does.
* `decodes_listOf`, `optional_eq_ok_iff` — a decoder of a field gives what the field says where the
  decoder of its values does.
* `Decodes.toOption_eq_some_iff` — a decoder is a reader of values.
-/

namespace PsStore

open Json

/-- A value that does not have the expected shape. -/
structure Invalid where
deriving DecidableEq

/-- The value of an `Option`, or the failure. -/
def orInvalid {α : Type} : Option α → Except Invalid α
  | some value => .ok value
  | none => .error {}

/-- The value must be an object. -/
def object (value : Value) : Except Invalid Object := orInvalid value.asObject

/-- The value of a string. -/
def string (value : Value) : Except Invalid String := orInvalid value.asString

/-- The value of an optional key: `none` when absent or `null`. -/
def present (obj : Object) (key : String) : Option Value :=
  (obj.get key).filter fun value => !value.isNull

/-- An optional key whose value must decode. -/
def optional {α : Type} (decode : Value → Except Invalid α) (obj : Object) (key : String) :
    Except Invalid (Option α) :=
  match present obj key with
  | none => .ok none
  | some value => some <$> decode value

/-- An optional string. -/
def optString : Object → String → Except Invalid (Option String) := optional string

/-- An optional boolean. -/
def optBool : Object → String → Except Invalid (Option Bool) :=
  optional fun value => orInvalid value.asBool

/-- An optional array. The elements stay undecoded. -/
def optList : Object → String → Except Invalid (Option (List Value)) :=
  optional fun value => orInvalid value.asArray

/-- Every element of a value that must be an array. -/
def listOf {α : Type} (decode : Value → Except Invalid α) (value : Value) :
    Except Invalid (List α) := do
  (← orInvalid value.asArray).mapM decode

/-- An optional array whose elements must decode. -/
def optListOf {α : Type} (decode : Value → Except Invalid α) :
    Object → String → Except Invalid (Option (List α)) :=
  optional (listOf decode)

/-- An optional array of strings. -/
def optStrings : Object → String → Except Invalid (Option (List String)) := optListOf string

/-- An optional array of strings and nulls. -/
def optNullableStrings : Object → String → Except Invalid (Option (List (Option String))) :=
  optListOf fun value => if value.isNull then .ok none else some <$> string value

/-- An optional nested record. -/
def optObjectOf {α : Type} (decode : Value → Except Invalid α) :
    Object → String → Except Invalid (Option α) :=
  optional decode

/-! ## Which values decode -/

/-- A decoder accepts exactly the values of a shape. -/
def Accepts {α : Type} (decode : Value → Except Invalid α) (shape : Value → Prop) : Prop :=
  ∀ value, (∃ a, decode value = .ok a) ↔ shape value

/-- The decoder of a string accepts strings. -/
lemma accepts_string : Accepts string IsString := by
  intro value
  cases value <;> simp [string, orInvalid, Value.asString, IsString]

/-- A record is an object. -/
@[simp] lemma object_eq_ok_iff {value : Value} {obj : Object} :
    object value = .ok obj ↔ value = .object obj := by
  cases value <;> simp [object, orInvalid, Value.asObject]

/-- The decoder of an array accepts the arrays of the elements that its decoder accepts. -/
lemma accepts_listOf {α : Type} {decode : Value → Except Invalid α} {shape : Value → Prop}
    (h : Accepts decode shape) : Accepts (listOf decode) (IsListOf shape) := by
  intro value
  unfold listOf IsListOf
  rw [exists_bind_eq_ok_iff]
  constructor
  · rintro ⟨items, hitems, hdecode⟩
    refine ⟨items, ?_, fun item hitem => (h item).mp (exists_mapM_eq_ok_iff.mp hdecode item hitem)⟩
    cases value <;> simp_all [orInvalid, Value.asArray]
  · rintro ⟨items, rfl, hitems⟩
    refine ⟨items, rfl, exists_mapM_eq_ok_iff.mpr fun item hitem => ?_⟩
    exact (h item).mpr (hitems item hitem)

/-- A present value is the value of its key and not `null`. -/
lemma present_eq_some_iff {obj : Object} {key : String} {value : Value} :
    present obj key = some value ↔ obj.get key = some value ∧ value.isNull = false := by
  simp [present, Option.filter_eq_some_iff]

/-- A value is not present where its key is absent or `null`. -/
lemma present_eq_none_iff {obj : Object} {key : String} :
    present obj key = none ↔ obj.get key = none ∨ obj.get key = some .null := by
  unfold present
  cases obj.get key with
  | none => simp
  | some value => cases value <;> simp [Option.filter, Value.isNull]

/-- An optional field has no value exactly where its key is absent or `null`. -/
lemma optional_eq_none_iff {α : Type} {decode : Value → Except Invalid α} {obj : Object}
    {key : String} :
    optional decode obj key = .ok none ↔ obj.get key = none ∨ obj.get key = some .null := by
  rw [← present_eq_none_iff]
  unfold optional
  cases present obj key with
  | none => simp
  | some value =>
    dsimp only
    cases decode value <;> simp [Functor.map, Except.map]

/-- An optional field has a value exactly where the value of its key is not `null` and decodes. -/
lemma optional_eq_some_iff {α : Type} {decode : Value → Except Invalid α} {obj : Object}
    {key : String} {a : α} :
    optional decode obj key = .ok (some a) ↔
      ∃ value, obj.get key = some value ∧ value.isNull = false ∧ decode value = .ok a := by
  have hpresent : ∀ value, present obj key = some value ↔
      obj.get key = some value ∧ value.isNull = false := fun value => present_eq_some_iff
  unfold optional
  cases h : present obj key with
  | none =>
    refine ⟨fun hok => (nomatch hok), ?_⟩
    rintro ⟨value, hget, hnull, -⟩
    rw [(hpresent value).mpr ⟨hget, hnull⟩] at h
    cases h
  | some value =>
    obtain ⟨hget, hnull⟩ := (hpresent value).mp h
    dsimp only
    rw [hget]
    cases hdecode : decode value with
    | error e => simp [hdecode, Functor.map, Except.map]
    | ok b => simp [hdecode, hnull, Functor.map, Except.map]

/-- **An optional field decodes** exactly where it is absent, `null`, or of the shape that its
decoder accepts. -/
theorem exists_optional_iff {α : Type} {decode : Value → Except Invalid α} {shape : Value → Prop}
    (h : Accepts decode shape) (obj : Object) (key : String) :
    (∃ a, optional decode obj key = .ok a) ↔ HasField obj key shape := by
  unfold optional
  cases hpresent : present obj key with
  | none =>
    refine ⟨fun _ value hget hnull => ?_, fun _ => ⟨none, rfl⟩⟩
    rw [present_eq_some_iff.mpr ⟨hget, hnull⟩] at hpresent
    cases hpresent
  | some value =>
    obtain ⟨hget, hnull⟩ := present_eq_some_iff.mp hpresent
    dsimp only
    rw [exists_map_eq_ok_iff, h value]
    constructor
    · intro hshape value' hget' _
      rw [hget] at hget'
      cases hget'
      exact hshape
    · intro hfield
      exact hfield value hget hnull

/-- An optional string field decodes exactly where it has its shape. -/
@[simp] lemma exists_optString_iff (obj : Object) (key : String) :
    (∃ a, optString obj key = .ok a) ↔ HasField obj key IsString :=
  exists_optional_iff accepts_string obj key

/-- An optional array field decodes exactly where it has its shape. -/
lemma exists_optListOf_iff {α : Type} {decode : Value → Except Invalid α} {shape : Value → Prop}
    (h : Accepts decode shape) (obj : Object) (key : String) :
    (∃ a, optListOf decode obj key = .ok a) ↔ HasField obj key (IsListOf shape) :=
  exists_optional_iff (accepts_listOf h) obj key

/-! ## Values of decoded fields -/

/-- The strings of an array decode to their texts. -/
lemma mapM_string_eq_ok_iff {items : List Value} {texts : List String} :
    items.mapM string = .ok texts ↔ items = texts.map .string := by
  induction items generalizing texts with
  | nil => cases texts <;> simp [pure, Except.pure]
  | cons item items ih =>
    rw [List.mapM_cons]
    constructor
    · intro h
      obtain ⟨text, htext, h⟩ := bind_eq_ok h
      obtain ⟨rest, hrest, h⟩ := bind_eq_ok h
      cases h
      rw [ih.mp hrest, List.map_cons]
      cases item <;> simp_all [string, orInvalid, Value.asString]
    · intro h
      cases texts with
      | nil => cases h
      | cons text texts =>
        rw [List.map_cons, List.cons.injEq] at h
        obtain ⟨rfl, hrest⟩ := h
        rw [ih.mpr hrest]
        rfl

/-- A present string field is the text of its key. -/
lemma optString_eq_some_iff {obj : Object} {key text : String} :
    optString obj key = .ok (some text) ↔ obj.get key = some (.string text) := by
  unfold optString
  rw [optional_eq_some_iff]
  constructor
  · intro h
    obtain ⟨value, hget, -, hdecode⟩ := h
    cases value with
    | string text' => cases hdecode; exact hget
    | _ => cases hdecode
  · intro hget
    exact ⟨.string text, hget, rfl, rfl⟩

/-- A present boolean field is the truth value of its key. -/
lemma optBool_eq_some_iff {obj : Object} {key : String} {b : Bool} :
    optBool obj key = .ok (some b) ↔ obj.get key = some (.bool b) := by
  unfold optBool
  rw [optional_eq_some_iff]
  constructor
  · intro h
    obtain ⟨value, hget, -, hdecode⟩ := h
    cases value with
    | bool b' => cases hdecode; exact hget
    | _ => cases hdecode
  · intro hget
    exact ⟨.bool b, hget, rfl, rfl⟩

/-- A present list field is the elements of its key. -/
lemma optList_eq_some_iff {obj : Object} {key : String} {items : List Value} :
    optList obj key = .ok (some items) ↔ obj.get key = some (.array items) := by
  unfold optList
  rw [optional_eq_some_iff]
  constructor
  · intro h
    obtain ⟨value, hget, -, hdecode⟩ := h
    cases value with
    | array items' => cases hdecode; exact hget
    | _ => cases hdecode
  · intro hget
    exact ⟨.array items, hget, rfl, rfl⟩

/-- An optional list is read exactly where the key has elements or none. -/
lemma optList_iff {obj : Object} {key : String} {items : List Value} :
    (∃ list, optList obj key = .ok list ∧ list.getD [] = items) ↔ ItemsAt obj key items := by
  unfold ItemsAt
  constructor
  · intro h
    obtain ⟨_ | list, hlist, rfl⟩ := h
    · exact .inl ⟨optional_eq_none_iff.mp hlist, rfl⟩
    · exact .inr (optList_eq_some_iff.mp hlist)
  · rintro (⟨habsent, rfl⟩ | hget)
    · exact ⟨none, optional_eq_none_iff.mpr habsent, rfl⟩
    · exact ⟨some items, optList_eq_some_iff.mpr hget, rfl⟩

/-- A present field of strings is the texts of its key. -/
lemma optStrings_eq_some_iff {obj : Object} {key : String} {texts : List String} :
    optStrings obj key = .ok (some texts) ↔ obj.get key = some (.array (texts.map .string)) := by
  unfold optStrings optListOf
  rw [optional_eq_some_iff]
  constructor
  · intro h
    obtain ⟨value, hget, -, hdecode⟩ := h
    cases value with
    | array items =>
      have hitems : items.mapM string = .ok texts := hdecode
      rw [hget, mapM_string_eq_ok_iff.mp hitems]
    | _ => cases hdecode
  · intro hget
    exact ⟨_, hget, rfl, mapM_string_eq_ok_iff.mpr rfl⟩

/-! ## What values say -/

section

variable {α : Type} {decode : Value → Except Invalid α} {reads : Value → α → Prop}

/-- A decoder gives exactly what a value says. -/
def Decodes (decode : Value → Except Invalid α) (reads : Value → α → Prop) : Prop :=
  ∀ value a, decode value = .ok a ↔ reads value a

/-- The decoder of a string gives its text. -/
lemma decodes_string : Decodes string TextReads := by
  intro value text
  cases value <;> simp [string, orInvalid, Value.asString, TextReads]

/-- The decoder of a boolean gives its truth value. -/
lemma decodes_bool : Decodes (fun value => orInvalid value.asBool) BoolReads := by
  intro value b
  cases value <;> simp [orInvalid, Value.asBool, BoolReads]

/-- The decoder of a string or `null` gives its text, if it has one. -/
lemma decodes_nullable :
    Decodes (fun value => if value.isNull then .ok none else some <$> string value)
      NullableTextReads := by
  intro value text
  cases value <;> cases text <;>
    simp [string, orInvalid, Value.asString, Value.isNull, NullableTextReads, Functor.map,
      Except.map]

/-- The elements of an array decode where each says something. -/
lemma mapM_eq_ok_iff (h : Decodes decode reads) {items : List Value} {as : List α} :
    items.mapM decode = .ok as ↔ List.Forall₂ reads items as := by
  induction items generalizing as with
  | nil => cases as <;> simp [pure, Except.pure]
  | cons item items ih =>
    rw [List.mapM_cons, bind_eq_ok_iff]
    constructor
    · rintro ⟨a, ha, hsteps⟩
      obtain ⟨rest, hrest, hcons⟩ := bind_eq_ok hsteps
      cases hcons
      exact .cons ((h item a).mp ha) (ih.mp hrest)
    · intro hreads
      cases hreads with
      | cons ha hrest =>
        refine ⟨_, (h item _).mpr ha, ?_⟩
        rw [ih.mpr hrest]
        rfl

/-- The decoder of an array gives what its elements say. -/
lemma decodes_listOf (h : Decodes decode reads) : Decodes (listOf decode) (ListReads reads) := by
  intro value as
  unfold listOf ListReads
  rw [bind_eq_ok_iff]
  constructor
  · rintro ⟨items, hitems, hdecode⟩
    refine ⟨items, ?_, (mapM_eq_ok_iff h).mp hdecode⟩
    cases value <;> simp_all [orInvalid, Value.asArray]
  · rintro ⟨items, rfl, hreads⟩
    exact ⟨items, rfl, (mapM_eq_ok_iff h).mpr hreads⟩

/-- **The decoder of an optional field** gives what the field says. -/
theorem optional_eq_ok_iff (h : Decodes decode reads) {obj : Object} {key : String}
    {field : Option α} : optional decode obj key = .ok field ↔ FieldReads reads obj key field := by
  cases field with
  | none => exact optional_eq_none_iff
  | some a =>
    rw [optional_eq_some_iff]
    unfold FieldReads
    simp only [h _ a]

/-- An optional string field. -/
lemma optString_eq_ok_iff {obj : Object} {key : String} {field : Option String} :
    optString obj key = .ok field ↔ FieldReads TextReads obj key field :=
  optional_eq_ok_iff decodes_string

/-- An optional boolean field. -/
lemma optBool_eq_ok_iff {obj : Object} {key : String} {field : Option Bool} :
    optBool obj key = .ok field ↔ FieldReads BoolReads obj key field :=
  optional_eq_ok_iff decodes_bool

/-- An optional field of an array. -/
lemma optListOf_eq_ok_iff (h : Decodes decode reads) {obj : Object} {key : String}
    {field : Option (List α)} :
    optListOf decode obj key = .ok field ↔ FieldReads (ListReads reads) obj key field :=
  optional_eq_ok_iff (decodes_listOf h)

/-- An optional field of an array of strings. -/
lemma optStrings_eq_ok_iff {obj : Object} {key : String} {field : Option (List String)} :
    optStrings obj key = .ok field ↔ FieldReads (ListReads TextReads) obj key field :=
  optListOf_eq_ok_iff decodes_string

/-- An optional field of an array of strings and nulls. -/
lemma optNullableStrings_eq_ok_iff {obj : Object} {key : String}
    {field : Option (List (Option String))} :
    optNullableStrings obj key = .ok field ↔
      FieldReads (ListReads NullableTextReads) obj key field :=
  optListOf_eq_ok_iff decodes_nullable

/-- A decoder as a reader of values. -/
lemma Decodes.toOption_eq_some_iff (h : Decodes decode reads) (value : Value) (a : α) :
    (decode value).toOption = some a ↔ reads value a := by
  rw [← h value a]
  cases decode value <;> simp [Except.toOption]

end

end PsStore
