import PsStore.Domain.Mapper
import PsStore.Sources.Sony.Json

set_option relaxedAutoImplicit false
set_option autoImplicit false

/-!
# The category grid boundary

The grid of NEW, UPCOMING, DISCOUNTED and BROWSE, as `sources/sony/catalog/grid.rs` decodes it. The
elements decode one by one, so one odd element is dropped and counted.

## Main definitions

* `concept`, `gridProduct` — the decode of one element.
* `decodeEach`, `parseGrid` — the decode of a grid node, element by element.
* `extractCategoryGrid`, `extractBrowsePage` — the outcome of a grid answer.

## Main results

* `decodeEach_fst`, `decodeEach_snd` — an element is kept exactly where it decodes, and every other
  element is counted.
-/

namespace PsStore

open Json

/-! ## Elements -/

/-- One media element. -/
def media (value : Value) : Except Invalid Media := do
  let obj ← object value
  return { url := ← optString obj "url", role := ← optString obj "role",
           kind := ← optString obj "type" }

/-- The price of a concept. -/
def conceptPrice (value : Value) : Except Invalid ConceptPrice := do
  let obj ← object value
  return {
    basePrice := ← optString obj "basePrice"
    discountedPrice := ← optString obj "discountedPrice"
    discountText := ← optString obj "discountText"
    serviceBranding := ← optStrings obj "serviceBranding"
    upsellServiceBranding := ← optStrings obj "upsellServiceBranding"
    upsellText := ← optString obj "upsellText" }

/-- One product of a concept. -/
def productRef (value : Value) : Except Invalid ConceptProductRef := do
  let obj ← object value
  return {
    id := ← optString obj "id"
    releaseDate := ← optString obj "releaseDate"
    providerName := ← optString obj "providerName"
    genres := ← optStrings obj "genres" }

/-- One concept element. -/
def concept (value : Value) : Except Invalid Concept := do
  let obj ← object value
  return {
    id := ← optString obj "id"
    name := ← optString obj "name"
    media := ← optListOf media obj "media"
    price := ← optObjectOf conceptPrice obj "price"
    products := ← optListOf productRef obj "products" }

/-- One product element. The schema declares `npTitleId`, although no code reads it. -/
def gridProduct (value : Value) : Except Invalid CategoryGridProduct := do
  let obj ← object value
  let _ ← optString obj "npTitleId"
  return {
    id := ← optString obj "id"
    name := ← optString obj "name"
    media := ← optListOf media obj "media"
    price := ← optObjectOf conceptPrice obj "price"
    platforms := ← optStrings obj "platforms"
    storeDisplayClassification := ← optString obj "storeDisplayClassification" }

/-! ## The grid -/

/-- Decodes each element on its own and counts the failures. -/
def decodeEach {α : Type} (decode : Value → Except Invalid α) : List Value → List α × ℕ
  | [] => ([], 0)
  | item :: items =>
    let (kept, dropped) := decodeEach decode items
    match decode item with
    | .ok value => (value :: kept, dropped)
    | .error _ => (kept, dropped + 1)

/-- The `data.categoryGridRetrieve` node, unless an envelope is missing, `null`, or no object. -/
def gridNode (json : Value) : Option Value := do
  let data ← (← json.asObject).get "data"
  ((← data.asObject).get "categoryGridRetrieve").filter fun node => !node.isNull

/-- The `categoryGridRetrieve` object is read exactly where the answer has it. -/
lemma gridNode_iff {json : Value} {node : Object} :
    gridNode json = some (.object node) ↔ ObjectAt json ["data", "categoryGridRetrieve"] node := by
  simp [gridNode, ObjectAt, Value.isNull, Option.bind_eq_some_iff]

/-- A grid node decoded per element. -/
structure ParsedGrid where
  concepts : List Concept
  products : List CategoryGridProduct
  dropped : ℕ
deriving DecidableEq

/-- The node decoded per element, or `none` when its outer shape is unintelligible. -/
def parseGrid (node : Value) : Option ParsedGrid := do
  let obj ← node.asObject
  let concepts ← (optList obj "concepts").toOption
  let products ← (optList obj "products").toOption
  let (concepts, droppedConcepts) := decodeEach concept (concepts.getD [])
  let (products, droppedProducts) := decodeEach gridProduct (products.getD [])
  return { concepts, products, dropped := droppedConcepts + droppedProducts }

/-- The outcome of a NEW, UPCOMING, or DISCOUNTED grid response. -/
inductive CategoryGridOutcome where
  /-- The node is absent or its outer shape is unintelligible. -/
  | drift
  /-- The kept concepts and the number of elements that failed to decode. -/
  | ok (concepts : List Concept) (dropped : ℕ)
deriving DecidableEq

/-- A grid response: the concepts when there are any, otherwise the products as concepts. -/
def extractCategoryGrid (json : Value) : CategoryGridOutcome :=
  match (gridNode json).bind parseGrid with
  | none => .drift
  | some grid =>
    let concepts :=
      if grid.concepts = [] then grid.products.map productToConcept else grid.concepts
    .ok concepts grid.dropped

/-- Sony's `pageInfo.isLast`, or `none` when the node has no readable value. -/
def parseGridIsLast (node : Value) : Option Bool := do
  let obj ← node.asObject
  let pageInfo ← (optObjectOf (fun value => do optBool (← object value) "isLast") obj
    "pageInfo").toOption
  pageInfo.join

/-- The outcome of a BROWSE grid response. -/
inductive BrowseOutcome where
  | drift
  | ok (concepts : List Concept) (isLast : Bool) (dropped : ℕ)
deriving DecidableEq

/-- A BROWSE page. Without readable page info, a page shorter than `size` is the last one. -/
def extractBrowsePage (json : Value) (size : ℕ) : BrowseOutcome :=
  match gridNode json with
  | none => .drift
  | some node =>
    match parseGrid node with
    | none => .drift
    | some grid =>
      let isLast := (parseGridIsLast node).getD (decide (grid.concepts.length < size))
      .ok grid.concepts isLast grid.dropped

/-! ## What the element decode keeps -/

/-- **The kept elements** are those that decode, in order. -/
theorem decodeEach_fst {α : Type} (decode : Value → Except Invalid α) (items : List Value) :
    (decodeEach decode items).1 = items.filterMap fun item => (decode item).toOption := by
  induction items with
  | nil => rfl
  | cons item items ih =>
    rw [decodeEach, List.filterMap_cons, ← ih]
    cases decode item <;> rfl

/-- Every element that is not kept is counted. -/
theorem decodeEach_snd {α : Type} (decode : Value → Except Invalid α) (items : List Value) :
    (decodeEach decode items).1.length + (decodeEach decode items).2 = items.length := by
  induction items with
  | nil => rfl
  | cons item items ih =>
    rw [decodeEach, List.length_cons, ← ih]
    cases decode item with
    | ok value => simp only [List.length_cons]; omega
    | error e => simp only; omega

end PsStore
