import PsStore.Domain.Listing
import PsStore.Sources.Sony.Grid

set_option relaxedAutoImplicit false
set_option autoImplicit false

/-!
# The product detail boundary

The product detail of `sources/sony/catalog/product.rs`. Any field of the wrong type fails the whole
node, and a missing or failed node degrades to the empty detail.

## Main definitions

* `productNode`, `extractProductDetail` — the decode of a `productRetrieve` node, and of an answer.
* `IsProductNode` — the declared shape of the node.

## Main results

* `accepts_productNode` — the node decodes exactly where it has its declared shape.
-/

namespace PsStore

open Json

/-- A description of a product. -/
structure Description where
  kind : Option String
  value : Option String
deriving DecidableEq

/-- The `productRetrieve` node. -/
structure ProductNode where
  name : Option String
  media : Option (List Media)
  releaseDate : Option String
  publisherName : Option String
  storeDisplayClassification : Option String
  platforms : Option (List String)
  descriptions : Option (List Description)
  genres : Option (List (Option String))
deriving DecidableEq

/-- One description. -/
def description (value : Value) : Except Invalid Description := do
  let obj ← object value
  let _ ← optString obj "subType"
  return { kind := ← optString obj "type", value := ← optString obj "value" }

/-- One genre. -/
def localizedGenre (value : Value) : Except Invalid (Option String) := do
  optString (← object value) "value"

/-- The product node. Any field of the wrong type fails it. -/
def productNode (value : Value) : Except Invalid ProductNode := do
  let obj ← object value
  let _ ← optString obj "id"
  return {
    name := ← optString obj "name"
    media := ← optListOf media obj "media"
    releaseDate := ← optString obj "releaseDate"
    publisherName := ← optString obj "publisherName"
    storeDisplayClassification := ← optString obj "storeDisplayClassification"
    platforms := ← optStrings obj "platforms"
    descriptions := ← optListOf description obj "descriptions"
    genres := ← optListOf localizedGenre obj "combinedLocalizedGenres" }

/-- The node of an answer whose body and `data` are objects. -/
def productRetrieve (json : Value) : Option Value := do
  let data ← (← json.asObject).get "data"
  (← data.asObject).get "productRetrieve"

/-- The first entry of the description type, its text or the empty string. -/
def descriptionByType (descriptions : List Description) (kind : String) : String :=
  ((descriptions.find? fun entry => entry.kind == some kind).bind Description.value).getD ""

/-- The decoded node of an answer, if it has one. -/
def decodedNode (json : Value) : Option ProductNode :=
  ((productRetrieve json).filter fun node => !node.isNull).bind fun node =>
    (productNode node).toOption

/-- The product detail of an answer. The description is the LONG text, else the SHORT one. -/
def extractProductDetail (json : Value) : ProductDetail :=
  match decodedNode json with
  | none => {}
  | some node =>
    let descriptions := node.descriptions.getD []
    let long := descriptionByType descriptions "LONG"
    { name := nonEmpty node.name
      media := node.media.getD []
      releaseDate := nonEmpty node.releaseDate
      genres := ((node.genres.getD []).filterMap id).filter fun genre => genre != ""
      description := if long = "" then descriptionByType descriptions "SHORT" else long
      publisherName := nonEmpty node.publisherName
      storeDisplayClassification := nonEmpty node.storeDisplayClassification
      platforms := node.platforms.getD [] }

/-! ## The declared shape -/

/-- The shape of a media element. -/
def IsMedia : Value → Prop :=
  IsRecord [("url", IsString), ("role", IsString), ("type", IsString)]

/-- The shape of a description. -/
def IsDescription : Value → Prop :=
  IsRecord [("subType", IsString), ("type", IsString), ("value", IsString)]

/-- The shape of a genre. -/
def IsLocalizedGenre : Value → Prop := IsRecord [("value", IsString)]

/-- The shape of the product node. -/
def IsProductNode : Value → Prop :=
  IsRecord [("id", IsString), ("name", IsString), ("media", IsListOf IsMedia),
    ("releaseDate", IsString), ("publisherName", IsString),
    ("storeDisplayClassification", IsString), ("platforms", IsListOf IsString),
    ("descriptions", IsListOf IsDescription),
    ("combinedLocalizedGenres", IsListOf IsLocalizedGenre)]

/-- A media element decodes exactly where it has its declared shape. -/
lemma accepts_media : Accepts media IsMedia := by
  intro value
  simp [media, IsMedia, IsRecord]

/-- A description decodes exactly where it has its declared shape. -/
lemma accepts_description : Accepts description IsDescription := by
  intro value
  simp [description, IsDescription, IsRecord]

/-- A genre decodes exactly where it has its declared shape. -/
lemma accepts_localizedGenre : Accepts localizedGenre IsLocalizedGenre := by
  intro value
  simp [localizedGenre, IsLocalizedGenre, IsRecord]

/-- **The product node decodes** exactly where it has its declared shape. -/
theorem accepts_productNode : Accepts productNode IsProductNode := by
  intro value
  simp [productNode, IsProductNode, IsRecord, optStrings, exists_optListOf_iff accepts_media,
    exists_optListOf_iff accepts_string, exists_optListOf_iff accepts_description,
    exists_optListOf_iff accepts_localizedGenre]

/-! ## What an answer proves about the scope -/

/-- The answer has no product: its node is absent or `null`. -/
def NoProduct (json : Value) : Prop := ∀ node ∈ productRetrieve json, node.isNull = true

/-- The answer has a product node that names its platforms and its classification. -/
def NamesScope (json : Value) (platforms : List String) (classification : String) : Prop :=
  ∃ obj : Object, productRetrieve json = some (.object obj) ∧
    obj.get "platforms" = some (.array (platforms.map .string)) ∧ platforms ≠ [] ∧
    obj.get "storeDisplayClassification" = some (.string classification) ∧ classification ≠ ""

/-- An answer names one scope. -/
lemma NamesScope.unique {json : Value} {platforms platforms' : List String} {c c' : String}
    (h : NamesScope json platforms c) (h' : NamesScope json platforms' c') :
    platforms = platforms' ∧ c = c' := by
  obtain ⟨obj, hobj, hplatforms, -, hclassification, -⟩ := h
  obtain ⟨obj', hobj', hplatforms', -, hclassification', -⟩ := h'
  rw [hobj] at hobj'
  cases hobj'
  rw [hplatforms] at hplatforms'
  rw [hclassification] at hclassification'
  have hinjective : Function.Injective Value.string := fun _ _ h => Value.string.inj h
  constructor
  · exact List.map_injective_iff.mpr hinjective (Value.array.inj (Option.some.inj hplatforms'))
  · exact Value.string.inj (Option.some.inj hclassification')

/-- Every field that the decode of the product node reads has its declared type. -/
def WellTyped (json : Value) : Prop := ∀ node ∈ productRetrieve json, IsProductNode node

/-- The scope fields of a decoded node are those of its object. -/
lemma productNode_scope {value : Value} {node : ProductNode} (h : productNode value = .ok node) :
    ∃ obj, value = .object obj ∧ optStrings obj "platforms" = .ok node.platforms ∧
      optString obj "storeDisplayClassification" = .ok node.storeDisplayClassification := by
  unfold productNode at h
  obtain ⟨obj, hobj, h⟩ := bind_eq_ok h
  obtain ⟨_, -, h⟩ := bind_eq_ok h
  obtain ⟨_, -, h⟩ := bind_eq_ok h
  obtain ⟨_, -, h⟩ := bind_eq_ok h
  obtain ⟨_, -, h⟩ := bind_eq_ok h
  obtain ⟨_, -, h⟩ := bind_eq_ok h
  obtain ⟨classification, hclassification, h⟩ := bind_eq_ok h
  obtain ⟨platforms, hplatforms, h⟩ := bind_eq_ok h
  obtain ⟨_, -, h⟩ := bind_eq_ok h
  obtain ⟨_, -, h⟩ := bind_eq_ok h
  cases h
  exact ⟨obj, object_eq_ok_iff.mp hobj, hplatforms, hclassification⟩

/-- A decoded node is the decode of the product node of the answer. -/
lemma decodedNode_eq_some {json : Value} {node : ProductNode} (h : decodedNode json = some node) :
    ∃ value, productRetrieve json = some value ∧ productNode value = .ok node := by
  obtain ⟨value, hvalue, hnode⟩ := Option.bind_eq_some_iff.mp h
  refine ⟨value, (Option.filter_eq_some_iff.mp hvalue).1, ?_⟩
  cases hdecode : productNode value with
  | error e => rw [hdecode] at hnode; cases hnode
  | ok node' => rw [hdecode] at hnode; cases hnode; rfl

/-- A PS5 game has a platform, and a classification that is not empty. -/
lemma isPs5Game_nonEmpty_iff {platforms : Option (List String)} {classification : Option String} :
    isPs5Game (platforms.getD []) (nonEmpty classification) = true ↔
      ∃ ps c, platforms = some ps ∧ ps ≠ [] ∧ classification = some c ∧ c ≠ "" ∧
        isPs5Game ps (some c) = true := by
  constructor
  · intro h
    obtain ⟨hplatform, hgame⟩ := Bool.and_eq_true_iff.mp h
    cases platforms with
    | none => cases hplatform
    | some ps =>
      cases classification with
      | none => cases hgame
      | some c =>
        have hc : c ≠ "" := by
          rintro rfl
          cases hgame
        have hnonEmpty : nonEmpty (some c) = some c := by simp [nonEmpty, hc]
        rw [hnonEmpty] at h
        refine ⟨ps, c, rfl, ?_, rfl, hc, h⟩
        rintro rfl
        cases hplatform
  · rintro ⟨ps, c, rfl, -, rfl, hc, h⟩
    have hnonEmpty : nonEmpty (some c) = some c := by simp [nonEmpty, hc]
    rw [hnonEmpty]
    exact h

/-- **When a detail proves a PS5 game.** The node names PS5 and a game classification, and every
field of it has its declared type.

**Proof sketch.** The detail has a platform and a classification only where the node decodes, and it
then has those of the node (`productNode_scope`). A node decodes exactly where every field has its
type (`accepts_productNode`). -/
theorem isPs5Game_extractProductDetail_iff {json : Value} :
    isPs5Game (extractProductDetail json).platforms
        (extractProductDetail json).storeDisplayClassification = true ↔
      ∃ platforms classification, NamesScope json platforms classification ∧
        isPs5Game platforms (some classification) = true ∧ WellTyped json := by
  constructor
  · intro hps5
    unfold extractProductDetail at hps5
    cases hnode : decodedNode json with
    | none => rw [hnode] at hps5; cases hps5
    | some node =>
      rw [hnode] at hps5
      obtain ⟨ps, c, hp, hps, hc, hne, hgame⟩ := isPs5Game_nonEmpty_iff.mp hps5
      obtain ⟨value, hvalue, hdecode⟩ := decodedNode_eq_some hnode
      obtain ⟨obj, rfl, hplatforms, hclassification⟩ := productNode_scope hdecode
      rw [hp, optStrings_eq_some_iff] at hplatforms
      rw [hc, optString_eq_some_iff] at hclassification
      refine ⟨ps, c, ⟨obj, hvalue, hplatforms, hps, hclassification, hne⟩, hgame, ?_⟩
      intro value hvalue'
      rw [hvalue] at hvalue'
      cases hvalue'
      exact (accepts_productNode _).mp ⟨node, hdecode⟩
  · intro h
    obtain ⟨ps, c, ⟨obj, hobj, hplatforms, hps, hclassification, hne⟩, hgame, htyped⟩ := h
    obtain ⟨node, hdecode⟩ := (accepts_productNode _).mpr (htyped _ hobj)
    have hnode : decodedNode json = some node := by
      unfold decodedNode
      rw [hobj]
      show (productNode (.object obj)).toOption = some node
      rw [hdecode]
      rfl
    obtain ⟨obj', hobj', hplatforms', hclassification'⟩ := productNode_scope hdecode
    cases hobj'
    rw [optStrings_eq_some_iff.mpr hplatforms] at hplatforms'
    rw [optString_eq_some_iff.mpr hclassification] at hclassification'
    unfold extractProductDetail
    rw [hnode]
    refine isPs5Game_nonEmpty_iff.mpr ⟨ps, c, ?_, hps, ?_, hne, hgame⟩
    · exact (Except.ok.inj hplatforms').symm
    · exact (Except.ok.inj hclassification').symm

end PsStore
