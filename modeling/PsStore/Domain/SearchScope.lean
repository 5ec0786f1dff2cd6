import PsStore.Domain.Listing

set_option relaxedAutoImplicit false
set_option autoImplicit false

/-!
# The scope of a search

What the scope check of `domain/listing.rs` keeps of Sony's search entries, in terms of the
entries alone: which entries are in scope, and which of them are the first of their product id.

## Main definitions

* `InScope` — an entry is in scope, with the candidate that it gives.
* `GivesAt`, `FirstAt` — what an index of a list of entries gives, and gives first.

## Main results

* `narrowSearchEntry_eq_some_iff` — the scope check of one entry gives its candidate.
* `forall₂_narrowSearchEntries` — the candidates are those of the first indices, in their order.
* `narrowSearchEntries_spec` — these, and the entries out of scope change nothing.
-/

namespace PsStore

/-! ## Entries in scope -/

/-- The entry is in scope and gives the candidate: a product with a valid id that names the PS5
and a game classification, or a concept whose first product has a valid id. -/
inductive InScope : SearchEntry → SearchCandidate → Prop
  | product {product : CategoryGridProduct} {id : ProductId} {platforms : List String}
      (hid : product.id = some id.text) (hplatforms : product.platforms = some platforms)
      (hps5 : "PS5" ∈ platforms)
      (hgame : product.storeDisplayClassification ∈ [some "FULL_GAME", some "GAME_BUNDLE"]) :
      InScope (.product product) (.known id (productToConcept product))
  | concept {concept : Concept} {id : ProductId} {first : ConceptProductRef}
      {others : List ConceptProductRef} (hproducts : concept.products = some (first :: others))
      (hid : first.id = some id.text) : InScope (.concept concept) (.unverified id concept)

/-- The entry at an index gives the candidate. -/
def GivesAt (entries : List SearchEntry) (i : ℕ) (candidate : SearchCandidate) : Prop :=
  ∃ entry, entries[i]? = some entry ∧ InScope entry candidate

/-- The entry at an index gives the candidate, and no earlier entry gives its product id. -/
def FirstAt (entries : List SearchEntry) (i : ℕ) (candidate : SearchCandidate) : Prop :=
  GivesAt entries i candidate ∧
    ∀ j < i, ∀ earlier, GivesAt entries j earlier → earlier.productId ≠ candidate.productId

/-! ## The scope check -/

/-- The two game classifications. -/
lemma isGameClassification_iff {classification : Option String} :
    isGameClassification classification = true ↔
      classification ∈ [some "FULL_GAME", some "GAME_BUNDLE"] := by
  unfold isGameClassification gameClassifications
  cases classification <;> simp

/-- A product without platforms is out of scope. -/
lemma isPs5Game_getD_iff {platforms : Option (List String)} {classification : Option String} :
    isPs5Game (platforms.getD []) classification = true ↔
      (∃ names, platforms = some names ∧ "PS5" ∈ names) ∧
        classification ∈ [some "FULL_GAME", some "GAME_BUNDLE"] := by
  unfold isPs5Game ps5Platform
  rw [Bool.and_eq_true, isGameClassification_iff]
  cases platforms <;> simp

/-- An optional text gives a product id exactly where it is the text of that id. -/
lemma bind_parse_eq_some_iff {text : Option String} {id : ProductId} :
    text.bind ProductId.parse = some id ↔ text = some id.text := by
  cases text with
  | none => simp
  | some value =>
    rw [Option.bind_some, ProductId.parse_eq_some_iff, Option.some_inj]
    exact eq_comm

/-- **One entry.** The scope check gives the candidate of an entry in scope, and nothing for any
other entry.

**Proof sketch.** By the kind of the entry. A product is checked by its id, its platforms and its
classification; a concept by the id of its first product. -/
theorem narrowSearchEntry_eq_some_iff {entry : SearchEntry} {candidate : SearchCandidate} :
    narrowSearchEntry entry = some candidate ↔ InScope entry candidate := by
  cases entry with
  | product product =>
    rw [narrowSearchEntry, Option.bind_eq_bind, Option.bind_eq_some_iff]
    simp only [bind_parse_eq_some_iff, Option.ite_none_right_eq_some, isPs5Game_getD_iff,
      Option.some_inj]
    constructor
    · intro h
      obtain ⟨id, hid, ⟨⟨platforms, hplatforms, hps5⟩, hgame⟩, rfl⟩ := h
      exact InScope.product hid hplatforms hps5 hgame
    · intro h
      cases h with
      | product hid hplatforms hps5 hgame =>
        exact ⟨_, hid, ⟨⟨_, hplatforms, hps5⟩, hgame⟩, rfl⟩
  | concept concept =>
    rw [narrowSearchEntry, Option.bind_eq_bind, Option.bind_eq_some_iff]
    simp only [bind_parse_eq_some_iff, Option.some_inj]
    constructor
    · intro h
      obtain ⟨id, hid, rfl⟩ := h
      obtain ⟨first, hfirst, hid⟩ := Option.bind_eq_some_iff.mp hid
      obtain ⟨products, hproducts, hhead⟩ := Option.bind_eq_some_iff.mp hfirst
      obtain ⟨others, rfl⟩ := List.head?_eq_some_iff.mp hhead
      exact InScope.concept hproducts hid
    · intro h
      cases h with
      | concept hproducts hid =>
        refine ⟨_, ?_, rfl⟩
        unfold firstProduct
        rw [hproducts, Option.bind_some, List.head?_cons, Option.bind_some, hid]

/-- An entry out of scope gives nothing. -/
lemma narrowSearchEntry_eq_none {entry : SearchEntry} (h : ∀ candidate, ¬ InScope entry candidate) :
    narrowSearchEntry entry = none := by
  apply Option.eq_none_iff_forall_ne_some.mpr
  intro candidate hcandidate
  exact h candidate (narrowSearchEntry_eq_some_iff.mp hcandidate)

/-! ## The list of candidates -/

/-- The candidate that the scope check finds at an index. -/
lemma bind_narrowSearchEntry_iff {entries : List SearchEntry} {i : ℕ}
    {candidate : SearchCandidate} :
    entries[i]?.bind narrowSearchEntry = some candidate ↔ GivesAt entries i candidate := by
  unfold GivesAt
  simp only [Option.bind_eq_some_iff, narrowSearchEntry_eq_some_iff]

/-- The first index of a product id, in the words of the filter. -/
lemma firstOf_narrowSearchEntry_eq (entries : List SearchEntry) :
    FirstOf narrowSearchEntry SearchCandidate.productId entries = FirstAt entries := by
  funext i candidate
  unfold FirstOf FirstAt
  simp only [bind_narrowSearchEntry_iff]

/-- **The order of the entries.** The candidates are those of the first index of each product id,
in the order of the indices. -/
theorem forall₂_narrowSearchEntries (entries : List SearchEntry) :
    ∃ indices : List ℕ, indices.Pairwise (· < ·) ∧
      (∀ i, i ∈ indices ↔ ∃ candidate, FirstAt entries i candidate) ∧
      List.Forall₂ (FirstAt entries) indices (narrowSearchEntries entries) := by
  rw [← firstOf_narrowSearchEntry_eq]
  exact forall₂_firstWins_filterMap entries

/-- No product id is lost. -/
lemma exists_mem_narrowSearchEntries {entries : List SearchEntry} {i : ℕ}
    {candidate : SearchCandidate} (h : GivesAt entries i candidate) :
    ∃ kept ∈ narrowSearchEntries entries, kept.productId = candidate.productId := by
  obtain ⟨entry, hentry, hscope⟩ := h
  have hmem : candidate ∈ entries.filterMap narrowSearchEntry :=
    List.mem_filterMap.mpr
      ⟨entry, List.mem_of_getElem? hentry, narrowSearchEntry_eq_some_iff.mpr hscope⟩
  exact exists_mem_firstWins SearchCandidate.productId hmem

/-- An entry out of scope changes nothing, at any place. -/
lemma narrowSearchEntries_insert {entry : SearchEntry}
    (h : ∀ candidate, ¬ InScope entry candidate) (before after : List SearchEntry) :
    narrowSearchEntries (before ++ entry :: after) = narrowSearchEntries (before ++ after) := by
  unfold narrowSearchEntries
  rw [List.filterMap_append, List.filterMap_cons_none (narrowSearchEntry_eq_none h),
    ← List.filterMap_append]

/-- **The scope of a search.** For every list of entries the candidates are those of the first
index of each product id among the entries in scope, in the order of the entries and no others; no
product id occurs twice and none is lost. An entry out of scope changes nothing, wherever it is
inserted.

**Proof sketch.** The code is first wins by product id over the candidates of the entries.
`forall₂_narrowSearchEntries` gives each kept candidate its index: the first one at which an entry
gives its id. An entry out of scope gives no candidate. -/
theorem narrowSearchEntries_spec :
    (∀ entries : List SearchEntry,
      (∃ indices : List ℕ, indices.Pairwise (· < ·) ∧
        (∀ i, i ∈ indices ↔ ∃ candidate, FirstAt entries i candidate) ∧
        List.Forall₂ (FirstAt entries) indices (narrowSearchEntries entries)) ∧
      ((narrowSearchEntries entries).map SearchCandidate.productId).Nodup ∧
      ∀ i candidate, GivesAt entries i candidate →
        ∃ kept ∈ narrowSearchEntries entries, kept.productId = candidate.productId) ∧
    ∀ entry : SearchEntry, (∀ candidate, ¬ InScope entry candidate) →
      ∀ before after : List SearchEntry,
        narrowSearchEntries (before ++ entry :: after) = narrowSearchEntries (before ++ after) := by
  refine ⟨fun entries => ⟨forall₂_narrowSearchEntries entries, ?_, ?_⟩, ?_⟩
  · exact nodup_map_firstWins _ _
  · intro i candidate h
    exact exists_mem_narrowSearchEntries h
  · intro entry h before after
    exact narrowSearchEntries_insert h before after

/-- The product id of two editions. -/
def twinId : ProductId := ⟨"EP0001-PPSA00002_00-SAMPLEGAME000002", by decide⟩

/-- A full game for one platform. -/
def twinProduct (platform : String) : CategoryGridProduct where
  id := some twinId.text
  platforms := some [platform]
  storeDisplayClassification := some "FULL_GAME"

/-- A PS4 edition in front does not hide the PS5 edition with the same product id. -/
theorem narrowSearchEntries_spec_twin :
    narrowSearchEntries [.product (twinProduct "PS4"), .product (twinProduct "PS5")] =
      narrowSearchEntries [.product (twinProduct "PS5")] ∧
    ∃ kept ∈ narrowSearchEntries [.product (twinProduct "PS4"), .product (twinProduct "PS5")],
      kept.productId = twinId := by
  obtain ⟨hlists, hinsert⟩ := narrowSearchEntries_spec
  constructor
  · apply hinsert (.product (twinProduct "PS4")) _ [] [.product (twinProduct "PS5")]
    intro candidate h
    cases h with
    | product hid hplatforms hps5 hgame =>
      cases hplatforms
      exact absurd hps5 (by decide)
  · obtain ⟨-, -, hkept⟩ := hlists [.product (twinProduct "PS4"), .product (twinProduct "PS5")]
    apply hkept 1 (.known twinId (productToConcept (twinProduct "PS5")))
    refine ⟨.product (twinProduct "PS5"), rfl, ?_⟩
    exact InScope.product rfl rfl (by decide) (by decide)

end PsStore
