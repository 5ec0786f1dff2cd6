import Mathlib.Data.List.Infix
import PsStore.Lib.Json

set_option relaxedAutoImplicit false
set_option autoImplicit false

/-!
# The errors inside a GraphQL answer with HTTP 200

The functions of `sources/sony/graphql_errors.rs`: a rotated persisted query, and a failure of
Sony's backend, both reported by the `errors` array of the body.

## Main definitions

* `isPersistedQueryRotation` — Sony no longer knows the hash of the query.
* `isGraphqlServerError` — Sony's backend failed, and the answer has no data.

## Main results

* `isGraphqlServerError_eq_false_of_data` — an answer with a non-null field of `data` is no server
  error.
-/

namespace PsStore

open Json

/-- The canonical Apollo persisted-query protocol code. -/
def persistedQueryNotFound : String := "PERSISTED_QUERY_NOT_FOUND"

/-- A field that is absent or a string; `none` for any other value, `null` included. -/
def optionalString (obj : Object) (key : String) : Option (Option String) :=
  match obj.get key with
  | none => some none
  | some (.string text) => some (some text)
  | some _ => none

/-- The message and the code of one error, or `none` for a wrong shape. -/
def decodeError (error : Value) : Option (Option String × Option String) := do
  let error ← error.asObject
  let message ← optionalString error "message"
  match error.get "extensions" with
  | none => some (message, none)
  | some (.object extensions) =>
    let code ← optionalString extensions "code"
    some (message, code)
  | some _ => none

/-- True when the lower-case text contains `needle`. Lower case is ASCII here: outside ASCII only
the letters U+0130 and U+212A have an ASCII letter in their lower case, which is an `i` before a
combining dot and a `k`, and the needles of the source hold neither. -/
def containsLower (needle text : String) : Bool :=
  decide (needle.toList <:+: text.toList.map Char.toLower)

/-- True when the body reports a persisted-query rotation. One element of the wrong shape fails the
whole envelope. -/
def isPersistedQueryRotation (body : Value) : Bool :=
  match body.asObject.bind fun root => root.get "errors" with
  | some (.array errors) =>
    match errors.mapM decodeError with
    | none => false
    | some decoded => decoded.any fun (message, code) =>
        code == some persistedQueryNotFound ||
          ([code, message].filterMap id).any (containsLower "persistedquerynotfound")
  | _ => false

example : isPersistedQueryRotation (.object [("errors", .array [.object
    [("message", .string "PersistedQueryNotFound")]])]) = true := by
  decide

/-- The `statusCode` of an object is 500 to 599. -/
def isServerStatus (obj : Object) : Bool :=
  ((obj.get "statusCode").bind Value.asNat).any fun status =>
    decide (500 ≤ status) && decide (status < 600)

/-- True when one error element has a 5xx `statusCode`, at its top or in its `extensions`. -/
def hasServerStatus (error : Value) : Bool :=
  match error.asObject with
  | none => false
  | some error =>
    ([some error, (error.get "extensions").bind Value.asObject].filterMap id).any isServerStatus

/-- The answer has no `data`, or only null fields in it. -/
def hasNoData (root : Object) : Bool :=
  match root.get "data" with
  | none | some .null => true
  | some (.object fields) => fields.all fun field => field.2.isNull
  | some _ => false

/-- True when Sony reports a server error inside an HTTP 200 answer. A server error next to a
non-null node is a partial answer. -/
def isGraphqlServerError (body : Value) : Bool :=
  match body.asObject with
  | none => false
  | some root =>
    match root.get "errors" with
    | some (.array errors) => hasNoData root && errors.any hasServerStatus
    | _ => false

/-- **A partial answer is no server error**: some field of its `data` is not `null`. -/
theorem isGraphqlServerError_eq_false_of_data {root data : Object} {key : String} {node : Value}
    (hdata : root.get "data" = some (.object data)) (hnode : data.get key = some node)
    (hnull : node.isNull = false) : isGraphqlServerError (.object root) = false := by
  have hmem : (key, node) ∈ data := by
    obtain ⟨l₁, l₂, rfl, -⟩ := List.lookup_eq_some_iff.mp hnode
    simp
  have hnodata : hasNoData root = false := by
    unfold hasNoData
    rw [hdata]
    apply List.all_eq_false.mpr
    exact ⟨_, hmem, by simp [hnull]⟩
  unfold isGraphqlServerError
  simp only [Value.asObject, hnodata, Bool.false_and]
  split <;> rfl

end PsStore
