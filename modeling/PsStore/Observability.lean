import Mathlib.Algebra.Group.Int.Defs
import Mathlib.Data.List.Induction
import Mathlib.Data.List.Nodup
import PsStore.Lib.Json

set_option relaxedAutoImplicit false
set_option autoImplicit false

/-!
# Structured logs with allowlisted fields only

The log layer of `observability.rs` behind its filter: it keeps the allowlisted fields of the spans
and of the events, and writes one line for each event of this crate that passes the filter, as JSON
or as text. The layer sees a sequence of span creations, span records, span ends and events, which
`tracing` brings about; an event comes with the spans around it. The serialiser of JSON values, the
clock and the filter are parameters; `initFilter` is the filter of `init`.

## Main definitions

* `Observability.Fields` — the kept values and the dropped names of a span or an event.
* `Observability.Registry.onAction`, `Observability.output` — the layer over a sequence of actions.
* `Observability.OthersDiffer`, `Observability.SamePresence` — two runs of one program differ only
  in values that are not allowlisted, and in which of these there are.
* `Observability.winningValue` — the value of a name that an event shows.

## Main results

* `Observability.eventFields_spec` — the fields of an event, given what was recorded before it.
* `Observability.initFilter_iff` — which events of this crate pass the filter of `init`.
* `Observability.log_allowlist` — the output does not depend on the other values but for the names
  of those that are there, every event of this crate that passes the filter writes one line, and
  both formats show the same fields.
-/

namespace PsStore.Observability

open Json

/-! ## Names and values -/

/-- `char::is_control`. -/
def isControl (c : Char) : Bool := c.toNat < 0x20 || (0x7f ≤ c.toNat && c.toNat ≤ 0x9f)

/-- `char::is_whitespace`. -/
def isWhitespace (c : Char) : Bool :=
  (0x09 ≤ c.toNat && c.toNat ≤ 0x0d) || (0x2000 ≤ c.toNat && c.toNat ≤ 0x200a) ||
    [0x20, 0x85, 0xa0, 0x1680, 0x2028, 0x2029, 0x202f, 0x205f, 0x3000].contains c.toNat

/-- A name from the code or a time: a text without control characters. -/
structure Name where
  text : String
  printable : text.toList.any isControl = false
deriving DecidableEq

/-- The level of an event. -/
inductive Level where
  | error
  | warn
  | info
  | debug
  | trace
deriving DecidableEq

/-- The name of a level. -/
def Level.asStr : Level → String
  | .error => "ERROR"
  | .warn => "WARN"
  | .info => "INFO"
  | .debug => "DEBUG"
  | .trace => "TRACE"

/-- A value as the visitor receives it. A value of another type arrives as a text: an error, or a
value that the event formats with `%`, as its `Display` text, and every other one as its `Debug`
text. -/
inductive Recorded where
  | str (value : String)
  | u64 (value : UInt64)
  | i64 (value : Int64)
  | bool (value : Bool)
  | debug (text : String)
deriving DecidableEq

/-- The number of an integer. -/
def intValue (value : ℤ) : Value :=
  .number (if 0 ≤ value then .posInt value.toNat else .negInt value.natAbs)

/-- The JSON value of a recorded value. -/
def Recorded.value : Recorded → Value
  | .str value => .string value
  | .u64 value => .number (.posInt value.toNat)
  | .i64 value => intValue value.toInt
  | .bool value => .bool value
  | .debug text => .string text

/-- Field names that a log line may contain. -/
def allowedFields : List String :=
  ["message", "request_id", "route", "method", "status", "elapsed_ms", "reason", "operation",
    "feature", "stage", "bind", "panic_location", "count", "entries", "priced", "dropped", "kept",
    "event", "failed", "out_of_scope"]

/-- The crate prefix of events that the layer writes. -/
def crateTarget : String := "psstore_server"

/-- The format of a log line. -/
inductive LogFormat where
  | json
  | text
deriving DecidableEq

/-! ## The fields of a span or an event -/

/-- The allowlisted field values of an event or a span, and the names of the dropped fields. -/
structure Fields where
  kept : Std.TreeMap String Value
  dropped : List Name

namespace Fields

/-- No field. -/
def empty : Fields where
  kept := ∅
  dropped := []

/-- `drop_name`: a dropped name is listed once. -/
def dropName (fields : Fields) (name : Name) : Fields :=
  if name ∈ fields.dropped then fields else { fields with dropped := fields.dropped ++ [name] }

/-- `put`: keeps the value of an allowed name, and only the name of another one. -/
def put (fields : Fields) (name : Name) (value : Value) : Fields :=
  if name.text ∈ allowedFields then { fields with kept := fields.kept.insert name.text value }
  else fields.dropName name

/-- Adds the fields of an enclosing span. A later span or the event itself replaces a value with the
same name. -/
def merge (fields other : Fields) : Fields :=
  other.dropped.foldl dropName { fields with kept := fields.kept ∪ other.kept }

/-- The visit of the values of a span, a record or an event. -/
def record (fields : Fields) (values : List (Name × Recorded)) : Fields :=
  values.foldl (fun fields field => fields.put field.1 field.2.value) fields

end Fields

/-! ## The lines -/

section

variable (toJson : Value → String)

/-- The object of a JSON line. -/
def jsonObject (timestamp : Name) (level : Level) (target : Name) (fields : Fields) :
    Std.TreeMap String Value :=
  let line : Std.TreeMap String Value := ∅
  let line := line.insert "timestamp" (.string timestamp.text)
  let line := line.insert "level" (.string level.asStr)
  let line := line.insert "target" (.string target.text)
  let line := line ∪ fields.kept
  if fields.dropped = [] then line
  else line.insert "dropped_fields" (.array (fields.dropped.map fun name => .string name.text))

/-- One JSON object. -/
def jsonLine (timestamp : Name) (level : Level) (target : Name) (fields : Fields) : String :=
  toJson (.object (jsonObject timestamp level target fields).toList)

/-- A message as is. A message with a control character is written as a JSON string. -/
def textMessage : Value → String
  | .string text => if text.toList.any isControl then toJson (.string text) else text
  | other => toJson other

/-- A string value as is when it has no white space, quote, `=`, or control character; otherwise a
JSON string. -/
def textValue : Value → String
  | .string text =>
    if text ≠ "" ∧ (text.toList.any fun c =>
        isWhitespace c || isControl c || c == '"' || c == '=') = false then
      text
    else toJson (.string text)
  | other => toJson other

/-- A text at the right of a field of a width. -/
def padLeft (width : ℕ) (text : String) : String :=
  String.ofList (List.replicate (width - text.length) ' ') ++ text

/-- The start of a text line. -/
def textHeader (timestamp : Name) (level : Level) (target : Name) : String :=
  timestamp.text ++ " " ++ padLeft 5 level.asStr ++ " " ++ target.text ++ ":"

/-- One text line: the time, the level, the target, the message, and then `name=value` for each kept
field in name order. -/
def textLine (timestamp : Name) (level : Level) (target : Name) (fields : Fields) : String :=
  let line := textHeader timestamp level target
  let line :=
    match fields.kept["message"]? with
    | some message => line ++ " " ++ textMessage toJson message
    | none => line
  let line := (fields.kept.erase "message").toList.foldl
    (fun line field => line ++ " " ++ field.1 ++ "=" ++ textValue toJson field.2) line
  if fields.dropped = [] then line
  else line ++ " dropped_fields=" ++ ",".intercalate (fields.dropped.map Name.text)

/-! ## The layer -/

/-- What is fixed where an event or a span is written. -/
structure Metadata where
  level : Level
  target : Name
deriving DecidableEq

/-- The event is one of this crate. -/
def Metadata.isOwn (metadata : Metadata) : Bool :=
  metadata.target.text == crateTarget ||
    "psstore_server::".toList.isPrefixOf metadata.target.text.toList

/-- The level filter `info` of the layer that `init` installs, for the targets of this crate. -/
def initFilter (metadata : Metadata) : Bool :=
  crateTarget.toList.isPrefixOf metadata.target.text.toList &&
    [Level.error, .warn, .info].contains metadata.level

/-- What is recorded where an event or a span is written: its fields, each with its value. A field
may have no value: it is `None`, or `Empty` until a later record. -/
abbrev Values := List (Name × Option Recorded)

/-- The values that the visitor sees: a field without a value is not visited. -/
def visited (values : Values) : List (Name × Recorded) :=
  values.filterMap fun field => field.2.map (field.1, ·)

/-- What the layer hears of. Spans have ids; the spans around an event are listed from the root to
the innermost one. -/
inductive Action where
  | newSpan (id : ℕ) (metadata : Metadata) (values : Values)
  | record (id : ℕ) (values : Values)
  | closeSpan (id : ℕ)
  | event (metadata : Metadata) (scope : List ℕ) (values : Values)

/-- The fields of the open spans, and the chunks written so far. -/
structure Registry where
  spans : ℕ → Option Fields
  written : List String

/-- Before any action. -/
def Registry.empty : Registry where
  spans := fun _ => none
  written := []

/-- The fields of an event: those of its spans from the root to the innermost one, then its own. -/
def eventFields (spans : ℕ → Option Fields) (scope : List ℕ) (values : List (Name × Recorded)) :
    Fields :=
  ((scope.filterMap spans).foldl Fields.merge Fields.empty).record values

/-- The line of an event. -/
def line (format : LogFormat) (timestamp : Name) (metadata : Metadata) (fields : Fields) : String :=
  match format with
  | .json => jsonLine toJson timestamp metadata.level metadata.target fields
  | .text => textLine toJson timestamp metadata.level metadata.target fields

variable (clock : ℕ → Name) (filter : Metadata → Bool) (format : LogFormat)

/-- What the layer does behind its filter, which hides the spans and events that it does not let
through. The clock is read once for each line. -/
def Registry.onAction (registry : Registry) : Action → Registry
  | .newSpan id metadata values =>
    let fields := if filter metadata then some (Fields.empty.record (visited values)) else none
    { registry with spans := Function.update registry.spans id fields }
  | .record id values =>
    match registry.spans id with
    | none => registry
    | some fields =>
      { registry with
        spans := Function.update registry.spans id (some (fields.record (visited values))) }
  | .closeSpan id => { registry with spans := Function.update registry.spans id none }
  | .event metadata scope values =>
    if filter metadata && metadata.isOwn then
      let fields := eventFields registry.spans scope (visited values)
      let text := line toJson format (clock registry.written.length) metadata fields ++ "\n"
      { registry with written := registry.written ++ [text] }
    else registry

/-- The state after a sequence of actions. -/
def run (actions : List Action) : Registry :=
  actions.foldl (Registry.onAction toJson clock filter format) Registry.empty

/-- The chunks that the layer writes. -/
def output (actions : List Action) : List String := (run toJson clock filter format actions).written

end

/-! ## What an event shows -/

/-- The last value of a name. -/
def lastValue (values : List (Name × Recorded)) (name : String) : Option Value :=
  (values.reverse.find? (·.1.text = name)).map (·.2.value)

/-- The value of a name in the last source that has one. -/
def winningValue (sources : List (List (Name × Recorded))) (name : String) : Option Value :=
  sources.reverse.findSome? (lastValue · name)

/-- What is recorded for an open span after an action. The filter hides spans. -/
def spanAction (filter : Metadata → Bool) (id : ℕ) (recorded : Option (List (Name × Recorded))) :
    Action → Option (List (Name × Recorded))
  | .newSpan i metadata values =>
    if i = id then if filter metadata then some (visited values) else none else recorded
  | .record i values => if i = id then recorded.map (· ++ visited values) else recorded
  | .closeSpan i => if i = id then none else recorded
  | .event _ _ _ => recorded

/-- What was recorded for an open span: at its creation and by later records. -/
def spanValues (filter : Metadata → Bool) (actions : List Action) (id : ℕ) :
    Option (List (Name × Recorded)) :=
  actions.foldl (spanAction filter id) none

/-- The sources of the fields of an event after a sequence of actions: the open spans around it from
the root to the innermost one, then the event itself. -/
def sources (filter : Metadata → Bool) (actions : List Action) (scope : List ℕ) (values : Values) :
    List (List (Name × Recorded)) :=
  scope.filterMap (spanValues filter actions) ++ [visited values]

/-- Two fields of one place in the code, whose values differ only if the name is not allowlisted. -/
def OthersDiffer (field field' : Name × Option Recorded) : Prop :=
  field.1 = field'.1 ∧ (field.1.text ∈ allowedFields → field.2 = field'.2)

/-- Two such fields that both have a value or both have none. -/
def SamePresence (field field' : Name × Option Recorded) : Prop :=
  OthersDiffer field field' ∧ field.2.isSome = field'.2.isSome

/-- Two actions of one place in the code, with values that are related field by field. -/
inductive Related (R : Name × Option Recorded → Name × Option Recorded → Prop) :
    Action → Action → Prop where
  | newSpan (id : ℕ) (metadata : Metadata) {values values' : Values}
    (h : List.Forall₂ R values values') :
    Related R (.newSpan id metadata values) (.newSpan id metadata values')
  | record (id : ℕ) {values values' : Values} (h : List.Forall₂ R values values') :
    Related R (.record id values) (.record id values')
  | closeSpan (id : ℕ) : Related R (.closeSpan id) (.closeSpan id)
  | event (metadata : Metadata) (scope : List ℕ) {values values' : Values}
    (h : List.Forall₂ R values values') :
    Related R (.event metadata scope values) (.event metadata scope values')

/-- The serialiser escapes the control characters of ASCII, as JSON requires, and adds none. -/
def EscapesControls (toJson : Value → String) : Prop :=
  ∀ value, ∀ c ∈ (toJson value).toList, 0x20 ≤ c.toNat

/-! ## The fields of an event -/

/-- A record after another. -/
lemma Fields.record_append (fields : Fields) (values values' : List (Name × Recorded)) :
    fields.record (values ++ values') = (fields.record values).record values' :=
  List.foldl_append

/-- The last value of a name is that of the rest of the list, if it has one. -/
lemma lastValue_cons (field : Name × Recorded) (values : List (Name × Recorded)) (name : String) :
    lastValue (field :: values) name =
      (lastValue values name).or (if field.1.text = name then some field.2.value else none) := by
  unfold lastValue
  rw [List.reverse_cons, List.find?_append]
  cases values.reverse.find? (·.1.text = name) with
  | some last => rfl
  | none =>
    rw [Option.none_or, List.find?_singleton]
    by_cases hname : field.1.text = name
    · simp [hname]
    · simp [hname]

/-- A drop keeps the kept values. -/
@[simp] lemma Fields.dropName_kept (fields : Fields) (name : Name) :
    (fields.dropName name).kept = fields.kept := by
  unfold Fields.dropName
  split_ifs <;> rfl

/-- A name is listed after a drop where it was listed before or is the one that is dropped. -/
lemma Fields.mem_dropName {fields : Fields} {name other : Name} :
    other ∈ (fields.dropName name).dropped ↔ other ∈ fields.dropped ∨ other = name := by
  unfold Fields.dropName
  split_ifs with h
  · refine ⟨Or.inl, ?_⟩
    rintro (hmem | rfl)
    · exact hmem
    · exact h
  · simp

/-- A dropped name does not touch the kept values. -/
lemma Fields.foldl_dropName_kept (fields : Fields) (names : List Name) :
    (names.foldl Fields.dropName fields).kept = fields.kept := by
  induction names generalizing fields with
  | nil => rfl
  | cons name names ih => rw [List.foldl_cons, ih, Fields.dropName_kept]

/-- The names that are listed after the drops of a list. -/
lemma Fields.mem_foldl_dropName {fields : Fields} {names : List Name} {other : Name} :
    other ∈ (names.foldl Fields.dropName fields).dropped ↔
      other ∈ fields.dropped ∨ other ∈ names := by
  induction names generalizing fields with
  | nil => simp
  | cons name names ih =>
    rw [List.foldl_cons, ih, Fields.mem_dropName, List.mem_cons, or_assoc]

/-- The kept value of a name after a record: the last one that is allowed. -/
lemma Fields.record_kept (fields : Fields) (values : List (Name × Recorded)) (name : String) :
    (fields.record values).kept[name]? =
      if name ∈ allowedFields then (lastValue values name).or fields.kept[name]?
      else fields.kept[name]? := by
  induction values generalizing fields with
  | nil => simp [Fields.record, lastValue]
  | cons field values ih =>
    show ((fields.put field.1 field.2.value).record values).kept[name]? = _
    rw [ih, lastValue_cons]
    unfold Fields.put
    by_cases hfield : field.1.text ∈ allowedFields
    · rw [if_pos hfield]
      dsimp only
      rw [Std.TreeMap.getElem?_insert]
      by_cases hname : field.1.text = name
      · subst hname
        simp [hfield]
      · simp [hname]
    · rw [if_neg hfield, Fields.dropName_kept]
      by_cases hname : field.1.text = name
      · subst hname
        simp [hfield]
      · simp [hname]

/-- The dropped names after a record: those that are not allowed. -/
lemma Fields.mem_record_dropped {fields : Fields} {values : List (Name × Recorded)} {name : Name} :
    name ∈ (fields.record values).dropped ↔
      name ∈ fields.dropped ∨ name.text ∉ allowedFields ∧ ∃ value, (name, value) ∈ values := by
  induction values generalizing fields with
  | nil => simp [Fields.record]
  | cons field values ih =>
    show name ∈ ((fields.put field.1 field.2.value).record values).dropped ↔ _
    rw [ih]
    unfold Fields.put
    split_ifs with hfield
    · refine or_congr_right (and_congr_right fun hname => ?_)
      have hne : ∀ value, (name, value) ≠ field := by
        rintro value rfl
        exact hname hfield
      simp [hne]
    · rw [Fields.mem_dropName, or_assoc]
      refine or_congr_right ?_
      constructor
      · rintro (rfl | ⟨hname, value, hmem⟩)
        · exact ⟨hfield, field.2, List.mem_cons_self⟩
        · exact ⟨hname, value, List.mem_cons_of_mem _ hmem⟩
      · intro h
        obtain ⟨hname, value, hmem⟩ := h
        rcases List.mem_cons.mp hmem with rfl | hmem
        · exact .inl rfl
        · exact .inr ⟨hname, value, hmem⟩

/-- The kept value of a name after a merge: that of the inner span, if it has one. -/
lemma Fields.merge_kept (fields other : Fields) (name : String) :
    (fields.merge other).kept[name]? = other.kept[name]?.or fields.kept[name]? := by
  unfold Fields.merge
  rw [Fields.foldl_dropName_kept, Std.TreeMap.getElem?_union]

/-- The names that are listed after a merge. -/
lemma Fields.mem_merge_dropped {fields other : Fields} {name : Name} :
    name ∈ (fields.merge other).dropped ↔ name ∈ fields.dropped ∨ name ∈ other.dropped := by
  unfold Fields.merge
  rw [Fields.mem_foldl_dropName]

/-- The kept value of a name after the merges of a list: that of the last one that has it. -/
lemma Fields.foldl_merge_kept (fields : Fields) (others : List Fields) (name : String) :
    (others.foldl Fields.merge fields).kept[name]? =
      (others.reverse.findSome? fun other => other.kept[name]?).or fields.kept[name]? := by
  induction others generalizing fields with
  | nil => rfl
  | cons other others ih =>
    rw [List.foldl_cons, ih, Fields.merge_kept, List.reverse_cons, List.findSome?_append,
      Option.or_assoc]
    simp

/-- The names that are listed after the merges of a list. -/
lemma Fields.mem_foldl_merge_dropped {fields : Fields} {others : List Fields} {name : Name} :
    name ∈ (others.foldl Fields.merge fields).dropped ↔
      name ∈ fields.dropped ∨ ∃ other ∈ others, name ∈ other.dropped := by
  induction others generalizing fields with
  | nil => simp
  | cons other others ih =>
    rw [List.foldl_cons, ih, Fields.mem_merge_dropped, or_assoc, List.exists_mem_cons_iff]

/-- The span of an id after an action. -/
lemma Registry.onAction_spans (toJson : Value → String) (clock : ℕ → Name)
    (filter : Metadata → Bool) (format : LogFormat) (registry : Registry) (action : Action)
    (id : ℕ) :
    (registry.onAction toJson clock filter format action).spans id =
      match action with
      | .newSpan i metadata values =>
        if i = id then if filter metadata then some (Fields.empty.record (visited values)) else none
        else registry.spans id
      | .record i values =>
        if i = id then (registry.spans id).map (·.record (visited values)) else registry.spans id
      | .closeSpan i => if i = id then none else registry.spans id
      | .event _ _ _ => registry.spans id := by
  cases action with
  | newSpan i metadata values =>
    by_cases hi : i = id
    · subst hi
      simp [Registry.onAction]
    · simp [Registry.onAction, hi, Function.update_of_ne (Ne.symm hi)]
  | record i values =>
    unfold Registry.onAction
    by_cases hi : i = id
    · subst hi
      cases hspan : registry.spans i <;> simp [hspan]
    · cases hspan : registry.spans i <;> simp [hi, hspan, Function.update_of_ne (Ne.symm hi)]
  | closeSpan i =>
    by_cases hi : i = id
    · subst hi
      simp [Registry.onAction]
    · simp [Registry.onAction, hi, Function.update_of_ne (Ne.symm hi)]
  | event metadata scope values =>
    unfold Registry.onAction
    dsimp only
    split_ifs <;> rfl

/-- The spans of a registry hold what was recorded for them.

**Proof sketch.** By induction on the actions from the end. A new span starts from its own values, a
record adds its values behind the others (`Fields.record_append`), a closed span is gone, and an
event changes no span. -/
lemma run_spans (toJson : Value → String) (clock : ℕ → Name) (filter : Metadata → Bool)
    (format : LogFormat) (actions : List Action) (id : ℕ) :
    (run toJson clock filter format actions).spans id =
      (spanValues filter actions id).map Fields.empty.record := by
  induction actions using List.reverseRecOn with
  | nil => rfl
  | append_singleton actions action ih =>
    unfold run spanValues at ih ⊢
    rw [List.foldl_concat, List.foldl_concat, Registry.onAction_spans, ih]
    cases action with
    | newSpan i metadata values =>
      dsimp only [spanAction]
      split_ifs <;> rfl
    | record i values =>
      dsimp only [spanAction]
      split_ifs
      · rw [Option.map_map, Option.map_map]
        congr 1
        funext before
        exact (Fields.record_append Fields.empty before (visited values)).symm
      · rfl
    | closeSpan i =>
      dsimp only [spanAction]
      split_ifs <;> rfl
    | event metadata scope values => rfl

/-- **The fields of an event.** A name has the value that wins among the spans around the event and
the event itself, if it is allowed; the other names are dropped.

**Proof sketch.** The fields of an event are a fold of merges over the spans, so a name is kept with
the value of the last of them that has it (`Fields.foldl_merge_kept`), and dropped where one of them
drops it (`Fields.mem_foldl_merge_dropped`). The event comes last. The fields of a span are those of
its own records. -/
theorem eventFields_spec {spans : ℕ → Option Fields}
    {recorded : ℕ → Option (List (Name × Recorded))}
    (hspans : ∀ id, spans id = (recorded id).map Fields.empty.record) (scope : List ℕ)
    (values : List (Name × Recorded)) :
    (∀ name, (eventFields spans scope values).kept[name]? =
      if name ∈ allowedFields then winningValue (scope.filterMap recorded ++ [values]) name
      else none) ∧
    (∀ name, name ∈ (eventFields spans scope values).dropped ↔
      name.text ∉ allowedFields ∧
        ∃ source ∈ scope.filterMap recorded ++ [values], ∃ value, (name, value) ∈ source) := by
  have hscope : scope.filterMap spans =
      (scope.filterMap recorded).map Fields.empty.record := by
    rw [List.map_filterMap]
    exact List.filterMap_congr fun id _ => hspans id
  have hempty : ∀ name : String, Fields.empty.kept[name]? = none := fun name => by
    simp [Fields.empty]
  constructor
  · intro name
    unfold eventFields winningValue
    rw [Fields.record_kept, Fields.foldl_merge_kept, hscope, ← List.map_reverse,
      List.findSome?_map, List.reverse_append, hempty, Option.or_none]
    have hkept : ∀ source,
        ((fun other : Fields => other.kept[name]?) ∘ Fields.empty.record) source =
        if name ∈ allowedFields then lastValue source name else none := by
      intro source
      show (Fields.empty.record source).kept[name]? = _
      rw [Fields.record_kept, hempty, Option.or_none]
    by_cases hname : name ∈ allowedFields
    · have hlast : ((fun other : Fields => other.kept[name]?) ∘ Fields.empty.record) =
          (lastValue · name) := by
        funext source
        rw [hkept, if_pos hname]
      rw [if_pos hname, if_pos hname, hlast, List.reverse_singleton, List.findSome?_append,
        List.findSome?_singleton]
    · rw [if_neg hname, if_neg hname, List.findSome?_eq_none_iff]
      intro source _
      rw [hkept, if_neg hname]
  · intro name
    unfold eventFields
    rw [Fields.mem_record_dropped, Fields.mem_foldl_merge_dropped, hscope]
    have hnone : ∀ name, name ∉ Fields.empty.dropped := fun name => List.not_mem_nil
    simp only [List.mem_map, exists_exists_and_eq_and, Fields.mem_record_dropped, hnone, false_or,
      List.mem_append, List.mem_singleton]
    constructor
    · rintro (⟨source, hmem, hname, hvalue⟩ | ⟨hname, hvalue⟩)
      · exact ⟨hname, source, .inl hmem, hvalue⟩
      · exact ⟨hname, values, .inr rfl, hvalue⟩
    · intro h
      obtain ⟨hname, source, hmem | rfl, hvalue⟩ := h
      · exact .inl ⟨source, hmem, hname, hvalue⟩
      · exact .inr ⟨hname, hvalue⟩

/-- A drop lists no name twice. -/
lemma Fields.nodup_dropName {fields : Fields} (h : fields.dropped.Nodup) (name : Name) :
    (fields.dropName name).dropped.Nodup := by
  unfold Fields.dropName
  split_ifs with hmem
  · exact h
  · refine List.Nodup.append h (List.nodup_singleton name) fun other hother hname => ?_
    exact hmem (List.mem_singleton.mp hname ▸ hother)

/-- The drops of a list list no name twice. -/
lemma Fields.nodup_foldl_dropName {fields : Fields} (h : fields.dropped.Nodup) (names : List Name) :
    (names.foldl Fields.dropName fields).dropped.Nodup := by
  induction names generalizing fields with
  | nil => exact h
  | cons name names ih => exact ih (Fields.nodup_dropName h name)

/-- An event drops no name twice. -/
lemma nodup_eventFields_dropped (spans : ℕ → Option Fields) (scope : List ℕ)
    (values : List (Name × Recorded)) : (eventFields spans scope values).dropped.Nodup := by
  have hmerge : ∀ (others : List Fields) (fields : Fields), fields.dropped.Nodup →
      (others.foldl Fields.merge fields).dropped.Nodup := by
    intro others
    induction others with
    | nil => exact fun fields h => h
    | cons other others ih =>
      intro fields h
      exact ih (fields.merge other)
        (@Fields.nodup_foldl_dropName { fields with kept := fields.kept ∪ other.kept } h _)
  have hrecord : ∀ fields : Fields, fields.dropped.Nodup →
      (fields.record values).dropped.Nodup := by
    induction values with
    | nil => exact fun fields h => h
    | cons field values ih =>
      intro fields h
      refine ih (fields.put field.1 field.2.value) ?_
      unfold Fields.put
      split_ifs
      · exact h
      · exact Fields.nodup_dropName h field.1
  exact hrecord _ (hmerge _ _ List.nodup_nil)

/-! ## What a line shows -/

/-- The part of a text line for a kept field. -/
def renderField (toJson : Value → String) (field : String × Value) : String :=
  if field.1 = "message" then " " ++ textMessage toJson field.2
  else " " ++ field.1 ++ "=" ++ textValue toJson field.2

/-- The part of a text line for the dropped names. -/
def renderDropped (dropped : List Name) : String :=
  if dropped = [] then "" else " dropped_fields=" ++ ",".intercalate (dropped.map Name.text)

/-- The kept fields in the order of a text line: the message first. -/
def textFields (fields : Fields) : List (String × Value) :=
  (fields.kept["message"]?.map fun message => ("message", message)).toList ++
    (fields.kept.erase "message").toList

/-- The keys of a map occur once. -/
lemma nodup_toList (map : Std.TreeMap String Value) : map.toList.Nodup := by
  have hkeys := map.distinct_keys_toList
  refine hkeys.imp fun hne heq => hne ?_
  rw [heq]
  exact Std.ReflCmp.compare_self

/-- The kept fields without the message. -/
lemma mem_erase_message {fields : Fields} {field : String × Value} :
    field ∈ (fields.kept.erase "message").toList ↔
      field.1 ≠ "message" ∧ field ∈ fields.kept.toList := by
  obtain ⟨name, value⟩ := field
  rw [Std.TreeMap.mem_toList_iff_getElem?_eq_some, Std.TreeMap.mem_toList_iff_getElem?_eq_some,
    Std.TreeMap.getElem?_erase]
  by_cases hname : name = "message"
  · simp [hname]
  · simp [hname, Ne.symm hname]

/-- The text line shows the kept fields, each once. -/
lemma textFields_perm (fields : Fields) : (textFields fields).Perm fields.kept.toList := by
  have hmessage : ∀ field : String × Value,
      field ∈ (fields.kept["message"]?.map fun message => ("message", message)).toList ↔
        field.1 = "message" ∧ field ∈ fields.kept.toList := by
    rintro ⟨name, value⟩
    rw [Std.TreeMap.mem_toList_iff_getElem?_eq_some]
    simp only [Option.mem_toList, Option.map_eq_some_iff, Prod.mk.injEq]
    constructor
    · intro h
      obtain ⟨message, hmessage, rfl, rfl⟩ := h
      exact ⟨rfl, hmessage⟩
    · intro h
      obtain ⟨rfl, hvalue⟩ := h
      exact ⟨value, hvalue, rfl, rfl⟩
  refine (List.perm_ext_iff_of_nodup ?_ (nodup_toList _)).mpr fun field => ?_
  · refine List.Nodup.append ?_ (nodup_toList _) ?_
    · exact Option.toList_nodup _
    · intro field hleft hright
      exact (mem_erase_message.mp hright).1 ((hmessage field).mp hleft).1
  · rw [textFields, List.mem_append, mem_erase_message, hmessage, ← or_and_right]
    exact and_iff_right (em _)

/-- The loop over the kept fields without the message. -/
lemma foldl_renderField (toJson : Value → String) {fields : List (String × Value)}
    (hfields : ∀ field ∈ fields, field.1 ≠ "message") (line : String) :
    fields.foldl (fun line field => line ++ " " ++ field.1 ++ "=" ++ textValue toJson field.2)
        line = line ++ String.join (fields.map (renderField toJson)) := by
  induction fields generalizing line with
  | nil => simp
  | cons field fields ih =>
    have hfield : field.1 ≠ "message" := hfields field List.mem_cons_self
    rw [List.foldl_cons, ih fun other hother => hfields other (List.mem_cons_of_mem _ hother),
      List.map_cons, String.join_cons, renderField, if_neg hfield]
    simp only [String.append_assoc]

/-- A text line renders its fields one after another. -/
lemma textLine_eq (toJson : Value → String) (timestamp : Name) (level : Level) (target : Name)
    (fields : Fields) :
    textLine toJson timestamp level target fields =
      textHeader timestamp level target ++
        String.join ((textFields fields).map (renderField toJson)) ++
        renderDropped fields.dropped := by
  have hrest : ∀ field ∈ (fields.kept.erase "message").toList, field.1 ≠ "message" :=
    fun field hfield => (mem_erase_message.mp hfield).1
  unfold textLine textFields renderDropped
  dsimp only
  rw [foldl_renderField toJson hrest]
  cases fields.kept["message"]? with
  | none =>
    split_ifs
    · simp
    · simp [String.append_assoc]
  | some message =>
    have hmessage : renderField toJson ("message", message) = " " ++ textMessage toJson message :=
      if_pos rfl
    split_ifs
    · simp [hmessage, String.append_assoc]
    · simp [hmessage, String.append_assoc]

/-- The value of a key after an insertion. -/
lemma getElem?_insert (map : Std.TreeMap String Value) (key name : String) (value : Value) :
    (map.insert key value)[name]? = if key = name then some value else map[name]? := by
  rw [Std.TreeMap.getElem?_insert]
  simp only [Std.LawfulEqCmp.compare_eq_iff_eq]

/-- The object of a JSON line: the time, the level and the target, the kept fields, and the dropped
names.

**Proof sketch.** The names that the line sets itself are not on the allow-list, so no kept field
has one of them. The name is thus one of these four, each set once, or another one, for which only
the kept fields count. -/
lemma mem_jsonObject {timestamp : Name} {level : Level} {target : Name} {fields : Fields}
    (hallowed : ∀ name value, (name, value) ∈ fields.kept.toList → name ∈ allowedFields)
    (name : String) (value : Value) :
    (name, value) ∈ (jsonObject timestamp level target fields).toList ↔
      (name, value) ∈ [("timestamp", .string timestamp.text), ("level", .string level.asStr),
        ("target", .string target.text)] ∨
      (name, value) ∈ fields.kept.toList ∨
      fields.dropped ≠ [] ∧ name = "dropped_fields" ∧
        value = .array (fields.dropped.map fun name => .string name.text) := by
  simp only [Std.TreeMap.mem_toList_iff_getElem?_eq_some] at hallowed ⊢
  have hreserved : ∀ name, name ∉ allowedFields → fields.kept[name]? = none := by
    intro name hname
    cases hkept : fields.kept[name]? with
    | none => rfl
    | some value => exact absurd (hallowed name value hkept) hname
  have hdropped := hreserved "dropped_fields" (by decide)
  have htimestamp := hreserved "timestamp" (by decide)
  have hlevel := hreserved "level" (by decide)
  have htarget := hreserved "target" (by decide)
  have hcases : name = "dropped_fields" ∨ name = "timestamp" ∨ name = "level" ∨ name = "target" ∨
      name ≠ "dropped_fields" ∧ name ≠ "timestamp" ∧ name ≠ "level" ∧ name ≠ "target" := by
    tauto
  unfold jsonObject
  dsimp only
  split_ifs with hempty
  · rw [Std.TreeMap.getElem?_union, getElem?_insert, getElem?_insert, getElem?_insert]
    obtain rfl | rfl | rfl | rfl | ⟨hd, ht, hl, htg⟩ := hcases
    · simp [hdropped, hempty]
    · simp [htimestamp, hempty, eq_comm (a := value)]
    · simp [hlevel, hempty, eq_comm (a := value)]
    · simp [htarget, hempty, eq_comm (a := value)]
    · simp [hempty, Ne.symm ht, Ne.symm hl, Ne.symm htg, ht, hl, htg]
  · rw [getElem?_insert, Std.TreeMap.getElem?_union, getElem?_insert, getElem?_insert,
      getElem?_insert]
    obtain rfl | rfl | rfl | rfl | ⟨hd, ht, hl, htg⟩ := hcases
    · simp [hdropped, hempty, eq_comm (a := value)]
    · simp [htimestamp, eq_comm (a := value)]
    · simp [hlevel, eq_comm (a := value)]
    · simp [htarget, eq_comm (a := value)]
    · simp [hd, Ne.symm hd, Ne.symm ht, Ne.symm hl, Ne.symm htg, ht, hl, htg]

/-! ## One line for each event -/

/-- The text has no line break. -/
def NoBreak (text : String) : Prop := '\n' ∉ text.toList

/-- The chunk is one line with its line break. -/
def OneLine (chunk : String) : Prop := ∃ line, chunk = line ++ "\n" ∧ NoBreak line

/-- A concatenation has no line break where its parts have none. -/
@[simp] lemma noBreak_append {text text' : String} :
    NoBreak (text ++ text') ↔ NoBreak text ∧ NoBreak text' := by
  simp [NoBreak]

/-- A join of texts without line breaks has none. -/
lemma noBreak_join {texts : List String} (h : ∀ text ∈ texts, NoBreak text) :
    NoBreak (String.join texts) := by
  induction texts with
  | nil => simp [NoBreak]
  | cons text texts ih =>
    rw [String.join_cons, noBreak_append]
    exact ⟨h text List.mem_cons_self,
      ih fun other hother => h other (List.mem_cons_of_mem _ hother)⟩

/-- A list of texts without line breaks, with a separator that has none, has none. -/
lemma noBreak_intercalate {separator : String} {texts : List String} (hsep : NoBreak separator)
    (h : ∀ text ∈ texts, NoBreak text) : NoBreak (separator.intercalate texts) := by
  induction texts with
  | nil => simp [NoBreak]
  | cons text texts ih =>
    have htext := h text List.mem_cons_self
    have htexts : ∀ other ∈ texts, NoBreak other :=
      fun other hother => h other (List.mem_cons_of_mem _ hother)
    cases texts with
    | nil => rwa [String.intercalate_singleton]
    | cons text' texts =>
      rw [String.intercalate_cons_cons, noBreak_append, noBreak_append]
      exact ⟨⟨htext, hsep⟩, ih htexts⟩

/-- A text without control characters has no line break. -/
lemma noBreak_of_not_isControl {text : String} (h : text.toList.any isControl = false) :
    NoBreak text := by
  intro hmem
  have hbreak := List.any_eq_false.mp h '\n' hmem
  exact hbreak (by decide)

/-- A name has no line break. -/
lemma Name.noBreak (name : Name) : NoBreak name.text := noBreak_of_not_isControl name.printable

section

variable {toJson : Value → String} (hjson : EscapesControls toJson)

include hjson

/-- A JSON text has no line break. -/
lemma noBreak_toJson (value : Value) : NoBreak (toJson value) := by
  intro hmem
  have hbreak := hjson value '\n' hmem
  revert hbreak
  decide

/-- A message stays on its line. -/
lemma noBreak_textMessage (value : Value) : NoBreak (textMessage toJson value) := by
  unfold textMessage
  split
  · split_ifs with hcontrol
    · exact noBreak_toJson hjson _
    · exact noBreak_of_not_isControl (Bool.not_eq_true _ ▸ hcontrol)
  · exact noBreak_toJson hjson _

/-- A value stays on its line. -/
lemma noBreak_textValue (value : Value) : NoBreak (textValue toJson value) := by
  unfold textValue
  split
  · split_ifs with hplain
    · refine noBreak_of_not_isControl (List.any_eq_false.mpr fun c hc hcontrol => ?_)
      have hother := List.any_eq_false.mp hplain.2 c hc
      simp [hcontrol] at hother
    · exact noBreak_toJson hjson _
  · exact noBreak_toJson hjson _

/-- **The line of an event** has no line break, whatever its values are.

**Proof sketch.** Every part of the line is free of breaks: the fixed texts and the allowed names by
evaluation, the timestamp and the target as they are names, and the values as both renderings escape
them. -/
lemma noBreak_line (format : LogFormat) (timestamp : Name) (metadata : Metadata) {fields : Fields}
    (hallowed : ∀ name value, (name, value) ∈ fields.kept.toList → name ∈ allowedFields) :
    NoBreak (line toJson format timestamp metadata fields) := by
  cases format with
  | json => exact noBreak_toJson hjson _
  | text =>
    show NoBreak (textLine _ _ _ _ _)
    rw [textLine_eq, noBreak_append, noBreak_append]
    refine ⟨⟨?_, noBreak_join ?_⟩, ?_⟩
    · have hlevel : NoBreak (padLeft 5 metadata.level.asStr) := by
        cases metadata.level <;> (unfold NoBreak; decide)
      have hspace : NoBreak " " := by
        unfold NoBreak
        decide
      have hcolon : NoBreak ":" := by
        unfold NoBreak
        decide
      simp only [textHeader, noBreak_append]
      exact ⟨⟨⟨⟨⟨timestamp.noBreak, hspace⟩, hlevel⟩, hspace⟩, metadata.target.noBreak⟩, hcolon⟩
    · intro text htext
      obtain ⟨⟨name, value⟩, hfield, rfl⟩ := List.mem_map.mp htext
      have hname : NoBreak name := by
        have hall : ∀ name ∈ allowedFields, NoBreak name := by
          unfold NoBreak
          decide
        exact hall name (hallowed name value ((textFields_perm fields).mem_iff.mp hfield))
      unfold renderField
      split_ifs
      · rw [noBreak_append]
        exact ⟨by unfold NoBreak; decide, noBreak_textMessage hjson value⟩
      · rw [noBreak_append, noBreak_append, noBreak_append]
        exact ⟨⟨⟨by unfold NoBreak; decide, hname⟩, by unfold NoBreak; decide⟩,
          noBreak_textValue hjson value⟩
    · unfold renderDropped
      split_ifs
      · simp [NoBreak]
      · rw [noBreak_append]
        refine ⟨by unfold NoBreak; decide, noBreak_intercalate (by unfold NoBreak; decide) ?_⟩
        intro text htext
        obtain ⟨name, -, rfl⟩ := List.mem_map.mp htext
        exact name.noBreak

end

/-- The kept fields of an event are allowed. -/
lemma eventFields_allowed {spans : ℕ → Option Fields}
    {recorded : ℕ → Option (List (Name × Recorded))}
    (hspans : ∀ id, spans id = (recorded id).map Fields.empty.record) (scope : List ℕ)
    (values : List (Name × Recorded)) :
    ∀ name value, (name, value) ∈ (eventFields spans scope values).kept.toList →
      name ∈ allowedFields := by
  intro name value hmem
  rw [Std.TreeMap.mem_toList_iff_getElem?_eq_some, (eventFields_spec hspans scope values).1] at hmem
  split_ifs at hmem with hname
  exact hname

/-! ## The output -/

section

variable (toJson : Value → String) (clock : ℕ → Name) (filter : Metadata → Bool)
  (format : LogFormat)

/-- The action is an event of this crate that passes the filter. -/
def Action.writesLine : Action → Bool
  | .event metadata _ _ => filter metadata && metadata.isOwn
  | .newSpan _ _ _ | .record _ _ | .closeSpan _ => false

/-- The chunk of an event. -/
def chunk (actions : List Action) (metadata : Metadata) (scope : List ℕ) (values : Values) :
    String :=
  line toJson format (clock (output toJson clock filter format actions).length) metadata
    (eventFields (run toJson clock filter format actions).spans scope (visited values)) ++ "\n"

/-- An event of this crate that passes the filter adds its chunk. -/
lemma output_event (actions : List Action) {metadata : Metadata}
    (hwrites : (filter metadata && metadata.isOwn) = true) (scope : List ℕ) (values : Values) :
    output toJson clock filter format (actions ++ [.event metadata scope values]) =
      output toJson clock filter format actions ++
        [chunk toJson clock filter format actions metadata scope values] := by
  unfold chunk output run
  rw [List.foldl_concat]
  show (Registry.onAction _ _ _ _ _ (.event metadata scope values)).written = _
  unfold Registry.onAction
  dsimp only
  rw [if_pos hwrites]

/-- Another action writes nothing. -/
lemma output_other (actions : List Action) {action : Action}
    (hother : action.writesLine filter = false) :
    output toJson clock filter format (actions ++ [action]) =
      output toJson clock filter format actions := by
  unfold output run
  rw [List.foldl_concat]
  generalize actions.foldl _ Registry.empty = registry
  unfold Registry.onAction
  cases action with
  | newSpan id metadata values => rfl
  | record id values =>
    dsimp only
    cases registry.spans id <;> rfl
  | closeSpan id => rfl
  | event metadata scope values =>
    have hsilent : (filter metadata && metadata.isOwn) = false := hother
    dsimp only
    rw [hsilent]
    rfl

/-- **One line for each event.** The chunks are the lines of the events of this crate that pass the
filter.

**Proof sketch.** By induction on the actions from their end: an event that writes adds one chunk
(`output_event`), which has no line break but its last one (`noBreak_line`), and every other action
adds none (`output_other`). -/
theorem output_oneLine (hjson : EscapesControls toJson) (actions : List Action) :
    (output toJson clock filter format actions).length =
        actions.countP (Action.writesLine filter) ∧
      ∀ text ∈ output toJson clock filter format actions, OneLine text := by
  induction actions using List.reverseRecOn with
  | nil => exact ⟨rfl, fun text htext => by cases htext⟩
  | append_singleton actions action ih =>
    obtain ⟨hlength, hlines⟩ := ih
    rw [List.countP_append, List.countP_singleton]
    cases hwrites : action.writesLine filter with
    | false =>
      rw [output_other toJson clock filter format actions hwrites]
      exact ⟨hlength, hlines⟩
    | true =>
      cases action with
      | event metadata scope values =>
        rw [output_event toJson clock filter format actions hwrites, List.length_append, hlength]
        refine ⟨rfl, fun text htext => ?_⟩
        rcases List.mem_append.mp htext with htext | htext
        · exact hlines text htext
        · rw [List.mem_singleton.mp htext]
          exact ⟨_, rfl, noBreak_line hjson format _ metadata
            (eventFields_allowed (run_spans toJson clock filter format actions) scope _)⟩
      | _ => cases hwrites

end

/-- **The level filter.** An event of this crate passes the filter of `init` exactly at the levels
`error`, `warn` and `info`. -/
theorem initFilter_iff {metadata : Metadata} (hown : metadata.isOwn = true) :
    initFilter metadata = true ↔
      metadata.level = .error ∨ metadata.level = .warn ∨ metadata.level = .info := by
  have htarget : crateTarget.toList.isPrefixOf metadata.target.text.toList = true := by
    rw [List.isPrefixOf_iff_prefix]
    rcases Bool.or_eq_true_iff.mp hown with hcrate | hmodule
    · have htext : crateTarget.toList = metadata.target.text.toList := by rw [eq_of_beq hcrate]
      exact ⟨[], by rw [List.append_nil, htext]⟩
    · refine List.IsPrefix.trans ?_ (List.isPrefixOf_iff_prefix.mp hmodule)
      decide
  unfold initFilter
  rw [htarget, Bool.true_and]
  cases metadata.level <;> simp

/-! ## Two runs -/

/-- Values that are not allowlisted leave no trace in the fields but whether they are there. -/
lemma Fields.record_visited_congr (fields : Fields) {values values' : Values}
    (h : List.Forall₂ SamePresence values values') :
    fields.record (visited values) = fields.record (visited values') := by
  induction h generalizing fields with
  | nil => rfl
  | @cons field field' values values' hfield hvalues ih =>
    obtain ⟨name, value⟩ := field
    obtain ⟨name', value'⟩ := field'
    obtain ⟨⟨rfl, hvalue⟩, hpresent⟩ := hfield
    cases value with
    | none =>
      obtain rfl : value' = none := by simpa using hpresent
      exact ih fields
    | some value =>
      obtain ⟨value', rfl⟩ : ∃ other, value' = some other := by
        simpa [Option.isSome_iff_exists] using hpresent
      show (fields.put name value.value).record (visited values) =
        (fields.put name value'.value).record (visited values')
      rw [ih]
      unfold Fields.put
      by_cases hallowed : name.text ∈ allowedFields
      · rw [Option.some.inj (hvalue hallowed)]
      · rw [if_neg hallowed, if_neg hallowed]

/-- **One step of two runs** that differ only in values that are not allowlisted, of fields that
have a value in both. -/
lemma Registry.onAction_congr (toJson : Value → String) (clock : ℕ → Name)
    (filter : Metadata → Bool) (format : LogFormat) (registry : Registry) {action action' : Action}
    (h : Related SamePresence action action') :
    registry.onAction toJson clock filter format action =
      registry.onAction toJson clock filter format action' := by
  cases h with
  | newSpan id metadata hvalues =>
    unfold Registry.onAction
    dsimp only
    rw [Fields.record_visited_congr _ hvalues]
  | record id hvalues =>
    unfold Registry.onAction
    dsimp only
    cases registry.spans id with
    | none => rfl
    | some fields =>
      dsimp only
      rw [Fields.record_visited_congr _ hvalues]
  | closeSpan id => rfl
  | event metadata scope hvalues =>
    unfold Registry.onAction eventFields
    dsimp only
    rw [Fields.record_visited_congr _ hvalues]

/-- **Noninterference.** Two such runs go through the same states. -/
theorem run_congr (toJson : Value → String) (clock : ℕ → Name) (filter : Metadata → Bool)
    (format : LogFormat) {actions actions' : List Action}
    (h : List.Forall₂ (Related SamePresence) actions actions') :
    run toJson clock filter format actions = run toJson clock filter format actions' := by
  unfold run
  generalize Registry.empty = registry
  induction h generalizing registry with
  | nil => rfl
  | cons haction _ ih =>
    rw [List.foldl_cons, List.foldl_cons,
      Registry.onAction_congr toJson clock filter format _ haction]
    exact ih _

/-- The last value of a name in two lists, one after the other. -/
lemma lastValue_append (values values' : List (Name × Recorded)) (name : String) :
    lastValue (values ++ values') name = (lastValue values' name).or (lastValue values name) := by
  unfold lastValue
  rw [List.reverse_append, List.find?_append]
  cases values'.reverse.find? (·.1.text = name) with
  | some last => rfl
  | none => rfl

/-- The last value of an allowed name is the same in two lists that differ only in other values. -/
lemma lastValue_visited_congr {values values' : Values}
    (h : List.Forall₂ OthersDiffer values values') {name : String} (hname : name ∈ allowedFields) :
    lastValue (visited values) name = lastValue (visited values') name := by
  have hcons : ∀ (field : Name × Option Recorded) (values : Values),
      lastValue (visited (field :: values)) name = (lastValue (visited values) name).or
        (if field.1.text = name then field.2.map Recorded.value else none) := by
    rintro ⟨other, value⟩ values
    cases value with
    | none => simp [visited]
    | some value => exact lastValue_cons (other, value) (visited values) name
  induction h with
  | nil => rfl
  | @cons field field' values values' hfield hvalues ih =>
    rw [hcons, hcons, ih, ← hfield.1]
    by_cases hsame : field.1.text = name
    · rw [hfield.2 (hsame ▸ hname)]
    · rw [if_neg hsame, if_neg hsame]

/-- What two such runs recorded for a span has the same last value of an allowed name.

**Proof sketch.** By induction on the two runs: an action that creates, extends or removes the
record of the span does so in both, with values whose allowed names agree, and every other action
leaves it as it is. -/
lemma lastValue_spanValues_congr (filter : Metadata → Bool) {actions actions' : List Action}
    (h : List.Forall₂ (Related OthersDiffer) actions actions') (id : ℕ) {name : String}
    (hname : name ∈ allowedFields) :
    (spanValues filter actions id).map (lastValue · name) =
      (spanValues filter actions' id).map (lastValue · name) := by
  have hstep : ∀ {recorded recorded' : Option (List (Name × Recorded))} {action action' : Action},
      Related OthersDiffer action action' →
      recorded.map (lastValue · name) = recorded'.map (lastValue · name) →
      (spanAction filter id recorded action).map (lastValue · name) =
        (spanAction filter id recorded' action').map (lastValue · name) := by
    intro recorded recorded' action action' hrelated hsame
    cases hrelated with
    | newSpan i metadata hvalues =>
      dsimp only [spanAction]
      split_ifs
      · exact congrArg some (lastValue_visited_congr hvalues hname)
      · rfl
      · exact hsame
    | @record i values values' hvalues =>
      dsimp only [spanAction]
      split_ifs
      · have happend : ∀ (recorded : Option (List (Name × Recorded))) (values : Values),
            (recorded.map (· ++ visited values)).map (lastValue · name) =
              (recorded.map (lastValue · name)).map
                ((lastValue (visited values) name).or ·) := by
          intro recorded values
          cases recorded with
          | none => rfl
          | some before => exact congrArg some (lastValue_append before (visited values) name)
        rw [happend, happend, hsame, lastValue_visited_congr hvalues hname]
      · exact hsame
    | closeSpan i =>
      dsimp only [spanAction]
      split_ifs
      · rfl
      · exact hsame
    | event metadata scope hvalues => exact hsame
  have hrun : ∀ recorded recorded' : Option (List (Name × Recorded)),
      recorded.map (lastValue · name) = recorded'.map (lastValue · name) →
      (actions.foldl (spanAction filter id) recorded).map (lastValue · name) =
        (actions'.foldl (spanAction filter id) recorded').map (lastValue · name) := by
    induction h with
    | nil => exact fun recorded recorded' hsame => hsame
    | cons haction _ ih =>
      intro recorded recorded' hsame
      exact ih _ _ (hstep haction hsame)
  exact hrun none none rfl

/-- **The kept values.** Two runs that differ only in values that are not allowlisted show the same
values of the allowed names.

**Proof sketch.** The value that wins is the last one among the spans around the event and the event
itself. The last value of an allowed name is the same in both runs, in the event
(`lastValue_visited_congr`) and in every span (`lastValue_spanValues_congr`). -/
theorem winningValue_congr (filter : Metadata → Bool) {actions actions' : List Action}
    (h : List.Forall₂ (Related OthersDiffer) actions actions') (scope : List ℕ)
    {values values' : Values} (hvalues : List.Forall₂ OthersDiffer values values') {name : String}
    (hname : name ∈ allowedFields) :
    winningValue (sources filter actions scope values) name =
      winningValue (sources filter actions' scope values') name := by
  have hlast : ∀ list : List (List (Name × Recorded)),
      winningValue list name = (list.map (lastValue · name)).reverse.findSome? id := by
    intro list
    rw [winningValue, ← List.map_reverse, List.findSome?_map]
    rfl
  have hspans : ∀ actions : List Action, (scope.filterMap (spanValues filter actions)).map
      (lastValue · name) =
        scope.filterMap fun id => (spanValues filter actions id).map (lastValue · name) :=
    fun actions => List.map_filterMap
  rw [hlast, hlast, sources, sources, List.map_append, List.map_append, hspans, hspans,
    List.map_singleton, List.map_singleton, lastValue_visited_congr hvalues hname]
  simp only [lastValue_spanValues_congr filter h _ hname]

/-- **The log allowlist.** Two runs that differ only in values that are not allowlisted, of fields
that have a value in both or in neither, write the same output under the same clock; where one run
has a value that the other lacks, the allowed names still have the same values. Every event of this
crate that passes the filter writes one line. A line shows an allowed name with the value of the
event, or else of the innermost span that has one, and the names of the other fields that have a
value; the JSON and the text line of an event show the same fields.

**Proof sketch.** The fields of an event are described by what was recorded for its spans and by its
own values: the last source that has an allowed name gives its value, and every other name is listed
once. Both lines render those fields. A value that is not allowlisted only reaches the list of
names, so two runs with the same fields go through the same states, step by step. A line break can
only come from a value, and both renderings escape it. -/
theorem log_allowlist {toJson : Value → String} (hjson : EscapesControls toJson)
    (clock : ℕ → Name) (filter : Metadata → Bool) :
    (∀ format actions actions', List.Forall₂ (Related SamePresence) actions actions' →
      output toJson clock filter format actions = output toJson clock filter format actions') ∧
    (∀ actions actions' scope values values',
      List.Forall₂ (Related OthersDiffer) actions actions' →
      List.Forall₂ OthersDiffer values values' → ∀ name ∈ allowedFields,
      winningValue (sources filter actions scope values) name =
        winningValue (sources filter actions' scope values') name) ∧
    (∀ format actions,
      (output toJson clock filter format actions).length =
          actions.countP (Action.writesLine filter) ∧
        ∀ text ∈ output toJson clock filter format actions, OneLine text) ∧
    (∀ actions metadata scope values, filter metadata = true → metadata.isOwn = true →
      ∃ (kept : List (String × Value)) (dropped : List Name)
          (object fields : List (String × Value)),
        kept.Nodup ∧ dropped.Nodup ∧ object.Nodup ∧
        (∀ name value, (name, value) ∈ kept ↔
          name ∈ allowedFields ∧
            winningValue (sources filter actions scope values) name = some value) ∧
        (∀ name, name ∈ dropped ↔
          name.text ∉ allowedFields ∧
            ∃ source ∈ sources filter actions scope values, ∃ value, (name, value) ∈ source) ∧
        output toJson clock filter .json (actions ++ [.event metadata scope values]) =
          output toJson clock filter .json actions ++ [toJson (.object object) ++ "\n"] ∧
        (∀ name value, (name, value) ∈ object ↔
          (name, value) ∈
              [("timestamp",
                  .string (clock (output toJson clock filter .json actions).length).text),
                ("level", .string metadata.level.asStr),
                ("target", .string metadata.target.text)] ∨
            (name, value) ∈ kept ∨
            dropped ≠ [] ∧ name = "dropped_fields" ∧
              value = .array (dropped.map fun name => .string name.text)) ∧
        output toJson clock filter .text (actions ++ [.event metadata scope values]) =
          output toJson clock filter .text actions ++
            [textHeader (clock (output toJson clock filter .text actions).length) metadata.level
                metadata.target ++
              String.join (fields.map (renderField toJson)) ++ renderDropped dropped ++ "\n"] ∧
        fields.Perm kept) := by
  refine ⟨fun format actions actions' h => ?_,
    fun actions actions' scope values values' h hvalues name hname =>
      winningValue_congr filter h scope hvalues hname,
    fun format actions => output_oneLine toJson clock filter format hjson actions, ?_⟩
  · unfold output
    rw [run_congr toJson clock filter format h]
  · intro actions metadata scope values hfilter hown
    have hwrites : (filter metadata && metadata.isOwn) = true := by rw [hfilter, hown]; rfl
    -- both formats keep the same fields of the spans
    have hspans : ∀ format, (run toJson clock filter format actions).spans =
        fun id => (spanValues filter actions id).map Fields.empty.record :=
      fun format => funext (run_spans toJson clock filter format actions)
    obtain ⟨hkept, hdropped⟩ := @eventFields_spec
      (fun id => (spanValues filter actions id).map Fields.empty.record) (spanValues filter actions)
      (fun _ => rfl) scope (visited values)
    have hallowed := @eventFields_allowed
      (fun id => (spanValues filter actions id).map Fields.empty.record) (spanValues filter actions)
      (fun _ => rfl) scope (visited values)
    have hchunk : ∀ format, chunk toJson clock filter format actions metadata scope values =
        line toJson format (clock (output toJson clock filter format actions).length) metadata
          (eventFields (fun id => (spanValues filter actions id).map Fields.empty.record) scope
            (visited values)) ++ "\n" := by
      intro format
      unfold chunk
      rw [hspans format]
    have hnodup := nodup_eventFields_dropped
      (fun id => (spanValues filter actions id).map Fields.empty.record) scope (visited values)
    generalize eventFields (fun id => (spanValues filter actions id).map Fields.empty.record) scope
      (visited values) = fields at hkept hdropped hallowed hchunk hnodup
    refine ⟨fields.kept.toList, fields.dropped,
      (jsonObject (clock (output toJson clock filter .json actions).length) metadata.level
        metadata.target fields).toList, textFields fields, nodup_toList _, hnodup,
      nodup_toList _, ?_, hdropped, ?_, mem_jsonObject hallowed, ?_, textFields_perm fields⟩
    · intro name value
      rw [Std.TreeMap.mem_toList_iff_getElem?_eq_some, hkept]
      split_ifs with hname
      · simp [hname, sources]
      · simp [hname]
    · rw [output_event toJson clock filter .json actions hwrites, hchunk]
      rfl
    · rw [output_event toJson clock filter .text actions hwrites, hchunk]
      show _ ++ [textLine _ _ _ _ _ ++ _] = _
      rw [textLine_eq]

/-- The JSON text of a string without a control character, a quote or a backslash. -/
def plainJson : Value → String
  | .string text =>
    if text.toList.all fun c => 0x20 ≤ c.toNat && c != '"' && c != '\\' then
      "\"" ++ text ++ "\""
    else "\"\""
  | _ => "null"

/-- This serialiser of plain texts writes no control character. -/
lemma escapesControls_plainJson : EscapesControls plainJson := by
  intro value c hc
  unfold plainJson at hc
  split at hc
  · split_ifs at hc with hplain
    · rename_i text
      have hquote : 0x20 ≤ '"'.toNat := by decide
      simp only [String.toList_append, List.mem_append] at hc
      rcases hc with (hc | hc) | hc
      · rw [List.mem_singleton.mp hc]
        exact hquote
      · have hchar := List.all_eq_true.mp hplain c hc
        simp only [Bool.and_eq_true, decide_eq_true_eq] at hchar
        exact hchar.1.1
      · rw [List.mem_singleton.mp hc]
        exact hquote
    · have hall : ("\"\"".toList.all fun c => 0x20 ≤ c.toNat) = true := by decide
      exact of_decide_eq_true (List.all_eq_true.mp hall c hc)
  · have hall : ("null".toList.all fun c => 0x20 ≤ c.toNat) = true := by decide
    exact of_decide_eq_true (List.all_eq_true.mp hall c hc)

/-- The clock of the samples. -/
def noon (_ : ℕ) : Name := ⟨"2026-10-03T12:00:00Z", by decide⟩

/-- A place of this crate. -/
def httpMetadata (level : Level) : Metadata :=
  { level, target := ⟨"psstore_server::http", by decide⟩ }

/-- A request that logs its URL, if it has one. -/
def loggedRequest (url : Option String) : List Action :=
  [.newSpan 1 (httpMetadata .info) [(⟨"route", by decide⟩, some (.str "/api/games/search")),
      (⟨"url", by decide⟩, url.map .str)],
    .event (httpMetadata .info) [1] [(⟨"message", by decide⟩, some (.debug "request completed")),
      (⟨"reason", by decide⟩, some (.str "two words"))]]

/-- The output of a request does not depend on its URL. -/
theorem log_allowlist_url :
    output plainJson noon initFilter .text (loggedRequest (some "/?q=a")) =
      output plainJson noon initFilter .text (loggedRequest (some "/?q=b\n")) := by
  refine (log_allowlist escapesControls_plainJson noon initFilter).1 .text _ _ ?_
  refine .cons (.newSpan 1 _ ?_) (.cons (.event _ [1] ?_) .nil)
  · exact .cons ⟨⟨rfl, fun _ => rfl⟩, rfl⟩
      (.cons ⟨⟨rfl, fun hurl => absurd hurl (by decide)⟩, rfl⟩ .nil)
  · exact .cons ⟨⟨rfl, fun _ => rfl⟩, rfl⟩ (.cons ⟨⟨rfl, fun _ => rfl⟩, rfl⟩ .nil)

/-- **A URL that is not there.** Two requests differ only in the value of their URL, which is no
allowed field: the first has one, the second has none. The line of the first lists the name among
the dropped ones, the line of the second does not. An event of the level `debug` writes no line. -/
theorem log_allowlist_noUrl :
    List.Forall₂ (Related OthersDiffer) (loggedRequest (some "/?q=a")) (loggedRequest none) ∧
      output plainJson noon initFilter .text (loggedRequest (some "/?q=a")) ≠
        output plainJson noon initFilter .text (loggedRequest none) ∧
      output plainJson noon initFilter .text [.event (httpMetadata .debug) [] []] = [] := by
  refine ⟨.cons (.newSpan 1 _ ?_) (.cons (.event _ [1] ?_) .nil), ?_, by decide +kernel⟩
  · exact .cons ⟨rfl, fun _ => rfl⟩ (.cons ⟨rfl, fun hurl => absurd hurl (by decide)⟩ .nil)
  · exact .cons ⟨rfl, fun _ => rfl⟩ (.cons ⟨rfl, fun _ => rfl⟩ .nil)
  · decide +kernel

end PsStore.Observability
