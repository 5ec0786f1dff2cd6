import PsStore.Domain.Payload
import PsStore.Lib.FormUrlencoded
import PsStore.Lib.JsonString
import PsStore.Sources.Sony.Grid

set_option relaxedAutoImplicit false
set_option autoImplicit false

/-!
# The search boundary

The query of a search in `sources/sony/catalog/request.rs`, and the `universalSearch` node as
`sources/sony/catalog/search.rs` decodes it. The variables of the query are JSON, and the query is
their form encoding. Sony applies no platform filter to search, so the decoded entries are not yet
in scope.

## Main definitions

* `searchVariables` — the variables of the search operation.
* `graphqlQuery` — the query of a persisted-query GET.
* `SearchesFor` — the query names a search term.
* `searchEntry` — the decode of one result.
* `parseSearchResponse` — the outcome of a search answer.

## Main results

* `searchesFor_graphqlQuery` — the query names the term that it is built for.
-/

namespace PsStore

open Json

/-! ## The request -/

/-- The variables of a search. -/
def searchVariablesJson (term : List Char) (offset size : ℕ) : Value :=
  .object [("countryCode", .string "FI"), ("languageCode", .string "en"),
    ("nextCursor", .string ""), ("pageOffset", natToJson offset), ("pageSize", natToJson size),
    ("searchTerm", .string (String.ofList term))]

/-- `search_variables`: the text of the variables. -/
def searchVariables (term : List Char) (offset size : ℕ) : List Char :=
  write (searchVariablesJson term offset size)

/-- The extensions of a persisted query. -/
def persistedQuery (hash : String) : List Char :=
  "\x7b\"persistedQuery\":\x7b\"version\":1,\"sha256Hash\":".toList ++
    writeString hash.toList ++ ['\x7d', '\x7d']

/-- `graphql_query`: the query of a persisted-query GET. -/
def graphqlQuery (operation hash : String) (vars : List Char) : List UInt8 :=
  FormUrlencoded.serialize [("operationName", operation), ("variables", String.ofList vars),
    ("extensions", String.ofList (persistedQuery hash))]

/-- The last member of the variables in the query is a search term that spells the text. -/
def SearchesFor (query : List UInt8) (term : List Char) : Prop :=
  ∃ vars front spelling,
    (FormUrlencoded.parse query).find? (fun pair => pair.1 == "variables") =
      some ("variables", vars) ∧
    toUtf8 vars.toList =
      front ++ toUtf8 ",\"searchTerm\":".toList ++ quoted spelling ++ [ascii '\x7d'] ∧
    Spells spelling term

/-- The text of the variables, field by field.

**Proof sketch.** The text is the written object, field by field. The names and the fixed texts are
evaluated on their own, and then abstracted, so that the join of the pieces is only a matter of
appending. -/
lemma searchVariables_eq (term : List Char) (offset size : ℕ) :
    searchVariables term offset size =
      "\x7b\"countryCode\":\"FI\",\"languageCode\":\"en\",".toList ++
        "\"nextCursor\":\"\",\"pageOffset\":".toList ++
        Nat.toDigits 10 offset ++ ",\"pageSize\":".toList ++ Nat.toDigits 10 size ++
        ",\"searchTerm\":".toList ++ writeString term ++ ['\x7d'] := by
  have hfront : '\x7b' :: (writeString "countryCode".toList ++ ':' :: (writeString "FI".toList ++
      ',' :: (writeString "languageCode".toList ++ ':' :: (writeString "en".toList ++ [','])))) =
      "\x7b\"countryCode\":\"FI\",\"languageCode\":\"en\",".toList := by decide +kernel
  have hcursor : writeString "nextCursor".toList ++ ':' :: (writeString "".toList ++ ',' ::
      (writeString "pageOffset".toList ++ [':'])) =
      "\"nextCursor\":\"\",\"pageOffset\":".toList := by decide +kernel
  have hsize : ',' :: (writeString "pageSize".toList ++ [':']) = ",\"pageSize\":".toList := by
    decide +kernel
  have hterm : ',' :: (writeString "searchTerm".toList ++ [':']) = ",\"searchTerm\":".toList := by
    decide +kernel
  have hnumber : ∀ n, write (natToJson n) = Nat.toDigits 10 n := fun n => rfl
  have htext : (String.ofList term).toList = term := String.toList_ofList
  unfold searchVariables searchVariablesJson
  rw [← hfront, ← hcursor, ← hsize, ← hterm, write, writeFields, writeFields, writeFields,
    writeFields, writeFields, writeFields, write, write, write, write, hnumber, hnumber,
    htext]
  generalize writeString "countryCode".toList = country
  generalize writeString "languageCode".toList = language
  generalize writeString "nextCursor".toList = cursor
  generalize writeString "pageOffset".toList = pageOffset
  generalize writeString "pageSize".toList = pageSize
  generalize writeString "searchTerm".toList = searchTerm
  generalize writeString "FI".toList = fi
  generalize writeString "en".toList = en
  generalize writeString "".toList = empty
  simp only [List.cons_append, List.append_assoc, List.nil_append]

/-- **The query names the term.**

**Proof sketch.** The pairs of the query are read back from it (`FormUrlencoded.parse_serialize`),
and the last field of the variables is the escaped term (`searchVariables_eq`), which spells the
term (`spells_escapeChar`). -/
theorem searchesFor_graphqlQuery (operation hash : String) (term : List Char) (offset size : ℕ) :
    SearchesFor (graphqlQuery operation hash (searchVariables term offset size)) term := by
  have hquoted : toUtf8 (writeString term) =
      quoted (toUtf8 (term.flatMap escapeChar)) := by
    show toUtf8 (['"'] ++ (term.flatMap escapeChar ++ ['"'])) = _
    rw [toUtf8_append, toUtf8_append]
    rfl
  obtain ⟨front, hvars⟩ : ∃ front, searchVariables term offset size =
      front ++ ",\"searchTerm\":".toList ++ writeString term ++ ['\x7d'] :=
    ⟨_, searchVariables_eq term offset size⟩
  refine ⟨String.ofList (searchVariables term offset size), toUtf8 front, _, ?_, ?_,
    spells_escapeChar term⟩
  · unfold graphqlQuery
    rw [FormUrlencoded.parse_serialize]
    rfl
  · rw [String.toList_ofList, hvars, toUtf8_append, toUtf8_append, toUtf8_append, hquoted]
    rfl

/-! ## The response -/

/-- The outcome of a search response. -/
inductive SearchOutcome where
  /-- The node, its `results` list, or `pageInfo.isLast` is absent or unintelligible. -/
  | drift
  /-- The decoded entries, Sony's flag of the last page, and the number of elements that failed to
  decode or have an unknown typename. -/
  | ok (entries : List SearchEntry) (isLast : Bool) (dropped : ℕ)
deriving DecidableEq

/-- One search result. -/
def searchEntry (element : Value) : Option SearchEntry := do
  let obj ← element.asObject
  let typename ← (optString obj "__typename").toOption
  match typename with
  | some "Product" => (gridProduct element).toOption.map .product
  | some "Concept" => (concept element).toOption.map .concept
  | _ => none

/-- The `universalSearch` object of an answer. -/
def searchNode (json : Value) : Option Object := do
  let data ← (← json.asObject).get "data"
  let node ← (← data.asObject).get "universalSearch"
  node.asObject

/-- Decodes a whole search response. -/
def parseSearchResponse (json : Value) : SearchOutcome :=
  match searchNode json with
  | none => .drift
  | some node =>
    let pageInfo := optObjectOf (fun value => do optBool (← object value) "isLast") node "pageInfo"
    match pageInfo, optList node "results" with
    | .ok (some (some isLast)), .ok (some results) =>
      .ok (results.filterMap searchEntry) isLast
        (results.countP fun element => (searchEntry element).isNone)
    | _, _ => .drift

end PsStore
