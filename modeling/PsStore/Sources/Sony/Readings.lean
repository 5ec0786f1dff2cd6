import Mathlib.Data.List.ReduceOption
import PsStore.Sources.Sony.Account
import PsStore.Sources.Sony.Monthly
import PsStore.Sources.Sony.Search

set_option relaxedAutoImplicit false
set_option autoImplicit false

/-!
# What the elements of the store's lists say

Each list of the store has its own elements. What an element says is stated here on its JSON, apart
from the decoders: which fields an object must have, of which type, and which entry of the server's
own list it stands for. The decoder of an element gives exactly that.

## Main definitions

* `MediaReads`, `ConceptReads`, `GridProductReads`, `SearchEntryReads` — an element of a grid or of
  a search answer, and the record that it stands for.
* `MonthlyGame`, `PurchasedGame`, `WishlistElement` — an element of a list with a scope that has an
  id and a name.
* `MonthlyReads`, `PurchasedReads`, `WishlistReads` — such an element and its entry, or `none` where
  it is out of scope.

## Main results

* `decodes_concept`, `decodes_gridProduct`, `searchEntry_eq_some_iff` — the decoders of the elements
  without a scope.
* `decodes_monthlyField`, `decodes_purchasedField`, `decodes_wishlistField` — the decoders of the
  elements with a scope.
-/

namespace PsStore

open Json

/-! ## Elements without a scope -/

/-- A media object. -/
def MediaReads (value : Value) (media : Media) : Prop :=
  ∃ obj, value = .object obj ∧ FieldReads TextReads obj "url" media.url ∧
    FieldReads TextReads obj "role" media.role ∧ FieldReads TextReads obj "type" media.kind

/-- The price object of a concept or a product. -/
def ConceptPriceReads (value : Value) (price : ConceptPrice) : Prop :=
  ∃ obj, value = .object obj ∧ FieldReads TextReads obj "basePrice" price.basePrice ∧
    FieldReads TextReads obj "discountedPrice" price.discountedPrice ∧
    FieldReads TextReads obj "discountText" price.discountText ∧
    FieldReads (ListReads TextReads) obj "serviceBranding" price.serviceBranding ∧
    FieldReads (ListReads TextReads) obj "upsellServiceBranding" price.upsellServiceBranding ∧
    FieldReads TextReads obj "upsellText" price.upsellText

/-- A product object of a concept. -/
def ProductRefReads (value : Value) (product : ConceptProductRef) : Prop :=
  ∃ obj, value = .object obj ∧ FieldReads TextReads obj "id" product.id ∧
    FieldReads TextReads obj "releaseDate" product.releaseDate ∧
    FieldReads TextReads obj "providerName" product.providerName ∧
    FieldReads (ListReads TextReads) obj "genres" product.genres

/-- A concept object. -/
def ConceptReads (value : Value) (concept : Concept) : Prop :=
  ∃ obj, value = .object obj ∧ FieldReads TextReads obj "id" concept.id ∧
    FieldReads TextReads obj "name" concept.name ∧
    FieldReads (ListReads MediaReads) obj "media" concept.media ∧
    FieldReads ConceptPriceReads obj "price" concept.price ∧
    FieldReads (ListReads ProductRefReads) obj "products" concept.products

/-- A product object of a grid or of a search answer. Its `npTitleId` must be readable, although the
record leaves it out. -/
def GridProductReads (value : Value) (product : CategoryGridProduct) : Prop :=
  ∃ obj, value = .object obj ∧ (∃ npTitleId, FieldReads TextReads obj "npTitleId" npTitleId) ∧
    FieldReads TextReads obj "id" product.id ∧ FieldReads TextReads obj "name" product.name ∧
    FieldReads (ListReads MediaReads) obj "media" product.media ∧
    FieldReads ConceptPriceReads obj "price" product.price ∧
    FieldReads (ListReads TextReads) obj "platforms" product.platforms ∧
    FieldReads TextReads obj "storeDisplayClassification" product.storeDisplayClassification

/-- A search result: an object whose `__typename` names a product or a concept, and which reads as
one. -/
def SearchEntryReads (value : Value) : SearchEntry → Prop
  | .product product => ∃ obj, value = .object obj ∧
      Object.get obj "__typename" = some (.string "Product") ∧ GridProductReads value product
  | .concept concept => ∃ obj, value = .object obj ∧
      Object.get obj "__typename" = some (.string "Concept") ∧ ConceptReads value concept

/-- The decoder of a media object. -/
lemma decodes_media : Decodes media MediaReads := by
  rintro value ⟨url, role, kind⟩
  simp only [media, MediaReads, bind_eq_ok_iff, object_eq_ok_iff, optString_eq_ok_iff]
  constructor
  · rintro ⟨obj, hobj, _, hurl, _, hrole, _, hkind, ⟨⟩⟩
    exact ⟨obj, hobj, hurl, hrole, hkind⟩
  · rintro ⟨obj, hobj, hurl, hrole, hkind⟩
    exact ⟨obj, hobj, _, hurl, _, hrole, _, hkind, rfl⟩

/-- The decoder of a price object. -/
lemma decodes_conceptPrice : Decodes conceptPrice ConceptPriceReads := by
  rintro value ⟨base, discounted, text, branding, upsellBranding, upsellText⟩
  simp only [conceptPrice, ConceptPriceReads, bind_eq_ok_iff, object_eq_ok_iff,
    optString_eq_ok_iff, optStrings_eq_ok_iff]
  constructor
  · rintro ⟨obj, hobj, _, hbase, _, hdiscounted, _, htext, _, hbranding, _, hupsell, _, hupsellText,
      ⟨⟩⟩
    exact ⟨obj, hobj, hbase, hdiscounted, htext, hbranding, hupsell, hupsellText⟩
  · rintro ⟨obj, hobj, hbase, hdiscounted, htext, hbranding, hupsell, hupsellText⟩
    exact ⟨obj, hobj, _, hbase, _, hdiscounted, _, htext, _, hbranding, _, hupsell, _, hupsellText,
      rfl⟩

/-- The decoder of a product object of a concept. -/
lemma decodes_productRef : Decodes productRef ProductRefReads := by
  rintro value ⟨id, releaseDate, providerName, genres⟩
  simp only [productRef, ProductRefReads, bind_eq_ok_iff, object_eq_ok_iff, optString_eq_ok_iff,
    optStrings_eq_ok_iff]
  constructor
  · rintro ⟨obj, hobj, _, hid, _, hdate, _, hprovider, _, hgenres, ⟨⟩⟩
    exact ⟨obj, hobj, hid, hdate, hprovider, hgenres⟩
  · rintro ⟨obj, hobj, hid, hdate, hprovider, hgenres⟩
    exact ⟨obj, hobj, _, hid, _, hdate, _, hprovider, _, hgenres, rfl⟩

/-- The decoder of a concept. -/
lemma decodes_concept : Decodes concept ConceptReads := by
  rintro value ⟨id, name, media, price, products⟩
  simp only [concept, ConceptReads, bind_eq_ok_iff, object_eq_ok_iff, optString_eq_ok_iff,
    optListOf_eq_ok_iff decodes_media, optObjectOf, optional_eq_ok_iff decodes_conceptPrice,
    optListOf_eq_ok_iff decodes_productRef]
  constructor
  · rintro ⟨obj, hobj, _, hid, _, hname, _, hmedia, _, hprice, _, hproducts, ⟨⟩⟩
    exact ⟨obj, hobj, hid, hname, hmedia, hprice, hproducts⟩
  · rintro ⟨obj, hobj, hid, hname, hmedia, hprice, hproducts⟩
    exact ⟨obj, hobj, _, hid, _, hname, _, hmedia, _, hprice, _, hproducts, rfl⟩

/-- The decoder of a product. -/
lemma decodes_gridProduct : Decodes gridProduct GridProductReads := by
  rintro value ⟨id, name, media, price, platforms, classification⟩
  simp only [gridProduct, GridProductReads, bind_eq_ok_iff, object_eq_ok_iff, optString_eq_ok_iff,
    optListOf_eq_ok_iff decodes_media, optObjectOf, optional_eq_ok_iff decodes_conceptPrice,
    optStrings_eq_ok_iff]
  constructor
  · rintro ⟨obj, hobj, np, hnp, _, hid, _, hname, _, hmedia, _, hprice, _, hplatforms, _, hclass,
      ⟨⟩⟩
    exact ⟨obj, hobj, ⟨np, hnp⟩, hid, hname, hmedia, hprice, hplatforms, hclass⟩
  · rintro ⟨obj, hobj, ⟨np, hnp⟩, hid, hname, hmedia, hprice, hplatforms, hclass⟩
    exact ⟨obj, hobj, np, hnp, _, hid, _, hname, _, hmedia, _, hprice, _, hplatforms, _, hclass,
      rfl⟩

/-- The decoder of a search result. -/
lemma searchEntry_eq_some_iff {value : Value} {entry : SearchEntry} :
    searchEntry value = some entry ↔ SearchEntryReads value entry := by
  have hobject : ∀ {obj : Object} {typename : String},
      value = .object obj → (optString obj "__typename" = .ok (some typename) ↔
        Object.get obj "__typename" = some (.string typename)) := fun _ => optString_eq_some_iff
  unfold searchEntry
  simp only [Option.bind_eq_bind, Option.bind_eq_some_iff, Value.asObject_eq_some_iff,
    toOption_eq_some_iff]
  constructor
  · rintro ⟨obj, hobj, typename, htypename, hentry⟩
    split at hentry
    · obtain ⟨product, hproduct, rfl⟩ := Option.map_eq_some_iff.mp hentry
      exact ⟨obj, hobj, (hobject hobj).mp htypename,
        (decodes_gridProduct _ _).mp (toOption_eq_some_iff.mp hproduct)⟩
    · obtain ⟨concept, hconcept, rfl⟩ := Option.map_eq_some_iff.mp hentry
      exact ⟨obj, hobj, (hobject hobj).mp htypename,
        (decodes_concept _ _).mp (toOption_eq_some_iff.mp hconcept)⟩
    · cases hentry
  · cases entry with
    | product product =>
      rintro ⟨obj, hobj, htypename, hproduct⟩
      refine ⟨obj, hobj, some "Product", (hobject hobj).mpr htypename, ?_⟩
      rw [(decodes_gridProduct _ _).mpr hproduct]
      rfl
    | concept concept =>
      rintro ⟨obj, hobj, htypename, hconcept⟩
      refine ⟨obj, hobj, some "Concept", (hobject hobj).mpr htypename, ?_⟩
      rw [(decodes_concept _ _).mpr hconcept]
      rfl

/-! ## Elements with a scope

Such an element says an entry, that it is out of scope (`none`), or nothing. -/

/-- The fields of an element of the monthly feed. -/
def RawEntryReads (value : Value) (raw : RawEntry) : Prop :=
  ∃ obj, value = .object obj ∧ FieldReads TextReads obj "productId" raw.productId ∧
    FieldReads TextReads obj "name" raw.name ∧ FieldReads TextReads obj "imageUrl" raw.imageUrl ∧
    FieldReads TextReads obj "releaseDate" raw.releaseDate ∧
    FieldReads (ListReads NullableTextReads) obj "genre" raw.genre ∧
    FieldReads (ListReads NullableTextReads) obj "device" raw.device

/-- An element of the feed with an id and a name that are not empty. -/
def MonthlyGame (value : Value) (raw : RawEntry) (productId name : String) : Prop :=
  RawEntryReads value raw ∧ raw.productId = some productId ∧ productId ≠ "" ∧
    raw.name = some name ∧ name ≠ ""

/-- The game is listed for PS5, and its id is a product id. -/
def MonthlyInScope (raw : RawEntry) (productId : String) : Prop :=
  (∃ devices, raw.device = some devices ∧ some "PS5" ∈ devices) ∧
    ∃ id : ProductId, id.text = productId

/-- What an element of the feed says. The genres of an entry are the texts of its list that are not
empty. -/
def MonthlyReads (value : Value) : Option PlusMonthlyEntry → Prop
  | some entry => ∃ raw, MonthlyGame value raw entry.productId.text entry.name ∧
      MonthlyInScope raw entry.productId.text ∧ entry.imageUrl = raw.imageUrl.getD "" ∧
      entry.releaseDate = raw.releaseDate.getD "" ∧
      entry.genres = ((raw.genre.getD []).reduceOption.filter fun text => text ≠ "")
  | none => ∃ raw productId name, MonthlyGame value raw productId name ∧
      ¬ MonthlyInScope raw productId

/-- An image object with its URL. -/
def ImageReads (value : Value) (url : Option String) : Prop :=
  ∃ image, value = .object image ∧ FieldReads TextReads image "url" url

/-- A game of a library page with an id, a name that is not empty, its platform and its image. -/
def PurchasedGame (value : Value) (productId name : String) (platform : Option String)
    (image : Option (Option String)) : Prop :=
  ∃ game, value = .object game ∧ FieldReads TextReads game "productId" (some productId) ∧
    FieldReads TextReads game "name" (some name) ∧ name ≠ "" ∧
    FieldReads TextReads game "platform" platform ∧ FieldReads ImageReads game "image" image

/-- What a game of a library page says. -/
def PurchasedReads (value : Value) : Option PurchasedEntry → Prop
  | some entry => ∃ image,
      PurchasedGame value entry.productId.text entry.name (some "PS5") image ∧
      entry.imageUrl = image.join.getD ""
  | none => ∃ productId name platform image, PurchasedGame value productId name platform image ∧
      ¬ (platform = some "PS5" ∧ ∃ id : ProductId, id.text = productId)

/-- An element of the wishlist with an id and a name that are not empty, its type name and its
platforms. -/
def WishlistElement (entry : Object) (typename : Option String) (id name : String)
    (platforms : List Value) : Prop :=
  FieldReads TextReads entry "__typename" typename ∧
    FieldReads TextReads entry "id" (some id) ∧ id ≠ "" ∧
    FieldReads TextReads entry "name" (some name) ∧ name ≠ "" ∧
    ItemsAt entry "platforms" platforms

/-- The text is an id of the kind that the type name says. -/
def WishlistIdReads (typename : Option String) (text : String) : WishlistId → Prop
  | .product id => typename = some "Product" ∧ id.text = text
  | .concept id => typename = some "Concept" ∧ id.text = text

/-- The URL of the box art. -/
def HasBoxArt (entry : Object) (url : String) : Prop :=
  ∃ art : Object, entry.get "boxArt" = some (.object art) ∧ art.get "url" = some (.string url)

/-- What an element of the wishlist says. An entry without box art has an empty image URL. -/
def WishlistReads (value : Value) : Option WishlistEntry → Prop
  | some entry => ∃ obj typename id platforms, value = .object obj ∧
      WishlistElement obj typename id entry.name platforms ∧
      WishlistIdReads typename id entry.id ∧ .string "PS5" ∈ platforms ∧
      (HasBoxArt obj entry.imageUrl ∨ (¬∃ url, HasBoxArt obj url) ∧ entry.imageUrl = "")
  | none => ∃ obj typename id name platforms, value = .object obj ∧
      WishlistElement obj typename id name platforms ∧
      ¬ ((∃ wishlistId, WishlistIdReads typename id wishlistId) ∧ .string "PS5" ∈ platforms)

/-- What an element with a scope decodes to. -/
def Field.decoded {α : Type} : Field α → Except Invalid (Option α)
  | .kept entry => .ok (some entry)
  | .outOfScope => .ok none
  | .dropped => .error {}

/-! ### Their decoders -/

/-- An optional text field of an element with a scope. -/
lemma nullableString_eq_some_iff {obj : Object} {key : String} {field : Option String} :
    nullableString obj key = some field ↔ FieldReads TextReads obj key field := by
  unfold nullableString
  cases hget : obj.get key with
  | none => cases field <;> simp [FieldReads, hget]
  | some value => cases value <;> cases field <;> simp [FieldReads, TextReads, Value.isNull, hget]

/-- The decoder of the fields of an element of the feed. -/
lemma decodes_rawEntry : Decodes rawEntry RawEntryReads := by
  rintro value ⟨productId, name, imageUrl, releaseDate, genre, device⟩
  simp only [rawEntry, RawEntryReads, bind_eq_ok_iff, object_eq_ok_iff, optString_eq_ok_iff,
    optNullableStrings_eq_ok_iff]
  constructor
  · rintro ⟨obj, hobj, _, hid, _, hname, _, himage, _, hdate, _, hgenre, _, hdevice, ⟨⟩⟩
    exact ⟨obj, hobj, hid, hname, himage, hdate, hgenre, hdevice⟩
  · rintro ⟨obj, hobj, hid, hname, himage, hdate, hgenre, hdevice⟩
    exact ⟨obj, hobj, _, hid, _, hname, _, himage, _, hdate, _, hgenre, _, hdevice, rfl⟩

/-- The decoder of an element with a scope gives what the element says, where it keeps an element
with its entry, leaves out an element out of scope, and drops an element that says nothing. -/
lemma decodes_scope {α : Type} {field : Value → Field α} {reads : Value → Option α → Prop}
    (hkept : ∀ value entry, reads value (some entry) → field value = .kept entry)
    (hout : ∀ value, reads value none → field value = .outOfScope)
    (hdropped : ∀ value, (∀ outcome, ¬reads value outcome) → field value = .dropped) :
    Decodes (fun value => (field value).decoded) reads := by
  have hreads : ∀ value outcome, reads value outcome → (field value).decoded = .ok outcome := by
    intro value outcome h
    cases outcome with
    | some entry => rw [hkept value entry h, Field.decoded]
    | none => rw [hout value h, Field.decoded]
  intro value outcome
  constructor
  · intro h
    by_cases hnothing : ∀ said, ¬reads value said
    · have hfield : (field value).decoded = .ok outcome := h
      rw [hdropped value hnothing] at hfield
      cases hfield
    · push Not at hnothing
      obtain ⟨said, hsaid⟩ := hnothing
      have hsame : .ok outcome = Except.ok said := h.symm.trans (hreads value said hsaid)
      cases hsame
      exact hsaid
  · exact hreads value outcome

/-- The genres of an entry are the texts of its list that are not empty. -/
lemma strings_eq (texts : Option (List (Option String))) :
    strings texts = (texts.getD []).reduceOption.filter fun text => text ≠ "" := by
  unfold strings List.reduceOption
  refine List.filter_congr fun text _ => ?_
  rw [Bool.eq_iff_iff, bne_iff_ne, decide_eq_true_eq]

/-- A game of the feed in scope is kept with its entry. -/
lemma monthlyField_of_inScope {value : Value} {raw : RawEntry} {id : ProductId} {name : String}
    (h : MonthlyGame value raw id.text name)
    (hps5 : ∃ devices, raw.device = some devices ∧ some "PS5" ∈ devices) :
    monthlyField value = .kept {
      productId := id
      name
      imageUrl := raw.imageUrl.getD ""
      releaseDate := raw.releaseDate.getD ""
      genres := strings raw.genre } := by
  obtain ⟨hraw, hid, hidEmpty, hname, hnameEmpty⟩ := h
  obtain ⟨devices, hdevices, hmem⟩ := hps5
  have hany : ((strings raw.device).any fun device => device == ps5Platform) = true := by
    simp only [strings, hdevices, Option.getD_some, List.any_eq_true, List.mem_filter,
      List.mem_filterMap, id_eq, beq_iff_eq]
    exact ⟨"PS5", ⟨⟨some "PS5", hmem, rfl⟩, by decide⟩, rfl⟩
  unfold monthlyField
  rw [(decodes_rawEntry value raw).mpr hraw]
  simp only [hid, hname, hany, if_neg (not_or.mpr ⟨hidEmpty, hnameEmpty⟩), if_true,
    ProductId.parse_text]

/-- A game of the feed out of scope is left out. -/
lemma monthlyField_of_not_inScope {value : Value} {raw : RawEntry} {productId name : String}
    (h : MonthlyGame value raw productId name) (hscope : ¬ MonthlyInScope raw productId) :
    monthlyField value = .outOfScope := by
  obtain ⟨hraw, hid, hidEmpty, hname, hnameEmpty⟩ := h
  have hnone : (if (strings raw.device).any (fun device => device == ps5Platform) then
      ProductId.parse productId else none) = none := by
    split_ifs with hany
    · rw [Option.eq_none_iff_forall_ne_some]
      intro id hparse
      refine hscope ⟨?_, id, ProductId.parse_eq_some_iff.mp hparse⟩
      simp only [strings, List.any_eq_true, List.mem_filter, List.mem_filterMap, id_eq,
        beq_iff_eq] at hany
      obtain ⟨device, ⟨⟨_, hmem, rfl⟩, -⟩, rfl⟩ := hany
      cases hdevice : raw.device with
      | none => rw [hdevice] at hmem; cases hmem
      | some devices => rw [hdevice] at hmem; exact ⟨devices, rfl, hmem⟩
    · rfl
  unfold monthlyField
  rw [(decodes_rawEntry value raw).mpr hraw]
  simp only [hid, hname, if_neg (not_or.mpr ⟨hidEmpty, hnameEmpty⟩), hnone]

/-- **The decoder of an element of the feed** gives what the element says.

**Proof sketch.** By `decodes_scope` there are three parts: a game in scope is kept, one out of
scope is passed over, and a game whose fields the code accepts says one of the two. -/
theorem decodes_monthlyField :
    Decodes (fun value => (monthlyField value).decoded) MonthlyReads := by
  refine decodes_scope ?_ ?_ ?_
  · rintro value ⟨id, name, imageUrl, releaseDate, genres⟩ ⟨raw, hgame, ⟨hps5, -⟩, rfl, rfl, rfl⟩
    rw [monthlyField_of_inScope hgame hps5, strings_eq]
  · rintro value ⟨raw, productId, name, hgame, hscope⟩
    exact monthlyField_of_not_inScope hgame hscope
  · intro value hnothing
    unfold monthlyField
    cases hraw : rawEntry value with
    | error e => rfl
    | ok raw =>
      dsimp only
      split
      · next productId name hid hname =>
        by_cases hempty : productId = "" ∨ name = ""
        · rw [if_pos hempty]
        · exfalso
          obtain ⟨hidEmpty, hnameEmpty⟩ := not_or.mp hempty
          have hgame : MonthlyGame value raw productId name :=
            ⟨(decodes_rawEntry value raw).mp hraw, hid, hidEmpty, hname, hnameEmpty⟩
          by_cases hscope : MonthlyInScope raw productId
          · obtain ⟨hps5, id, rfl⟩ := hscope
            exact hnothing (some ⟨id, name, _, _, _⟩)
              ⟨raw, hgame, ⟨hps5, id, rfl⟩, rfl, rfl, rfl⟩
          · exact hnothing none ⟨raw, productId, name, hgame, hscope⟩
      · rfl

/-- The URL of an image field. -/
lemma imageUrl_eq_some_iff {game : Object} {url : Option String} :
    imageUrl game = some url ↔ ∃ image, FieldReads ImageReads game "image" image ∧
      url = image.join := by
  unfold imageUrl
  cases hget : game.get "image" with
  | none =>
    constructor
    · rintro ⟨⟩
      exact ⟨none, .inl hget, rfl⟩
    · rintro ⟨image, himage, rfl⟩
      cases image with
      | none => rfl
      | some image => simp [FieldReads, hget] at himage
  | some value =>
    have hfield : ∀ image, FieldReads ImageReads game "image" image ↔
        (image = none ∧ value = .null) ∨
          ∃ url, image = some url ∧ value.isNull = false ∧ ImageReads value url := by
      intro image
      cases image <;> simp [FieldReads, hget]
    simp only [hfield]
    cases value with
    | object image =>
      simp [ImageReads, nullableString_eq_some_iff, Value.isNull]
    | null => simp [Value.isNull, eq_comm]
    | _ => simp [ImageReads]

/-- A game of a library page in scope is kept with its entry. -/
lemma purchasedField_of_inScope {value : Value} {id : ProductId} {name : String}
    {image : Option (Option String)} (h : PurchasedGame value id.text name (some "PS5") image) :
    purchasedField value = .kept { productId := id, name, imageUrl := image.join.getD "" } := by
  obtain ⟨game, rfl, hid, hname, hnameEmpty, hplatform, himage⟩ := h
  unfold purchasedField
  simp only [Value.asObject, nullableString_eq_some_iff.mpr hid,
    nullableString_eq_some_iff.mpr hname, nullableString_eq_some_iff.mpr hplatform,
    imageUrl_eq_some_iff.mpr ⟨image, himage, rfl⟩, if_neg hnameEmpty, ProductId.parse_text,
    beq_self_eq_true]
  rfl

/-- A game of a library page out of scope is left out. -/
lemma purchasedField_of_not_inScope {value : Value} {productId name : String}
    {platform : Option String} {image : Option (Option String)}
    (h : PurchasedGame value productId name platform image)
    (hscope : ¬ (platform = some "PS5" ∧ ∃ id : ProductId, id.text = productId)) :
    purchasedField value = .outOfScope := by
  obtain ⟨game, rfl, hid, hname, hnameEmpty, hplatform, himage⟩ := h
  have hnone : (ProductId.parse productId).filter (fun _ => platform == some "PS5") = none := by
    rw [Option.filter_eq_none_iff]
    intro id hparse hps5
    exact hscope ⟨by simpa using hps5, id, ProductId.parse_eq_some_iff.mp hparse⟩
  unfold purchasedField
  simp only [Value.asObject, nullableString_eq_some_iff.mpr hid,
    nullableString_eq_some_iff.mpr hname, nullableString_eq_some_iff.mpr hplatform,
    imageUrl_eq_some_iff.mpr ⟨image, himage, rfl⟩, if_neg hnameEmpty, hnone]

/-- **The decoder of a game of a library page** gives what the game says.

**Proof sketch.** By `decodes_scope` there are three parts: a game in scope is kept, one out of
scope is passed over, and a game whose fields the code accepts says one of the two. -/
theorem decodes_purchasedField :
    Decodes (fun value => (purchasedField value).decoded) PurchasedReads := by
  refine decodes_scope ?_ ?_ ?_
  · rintro value ⟨id, name, imageUrl⟩ ⟨image, hgame, rfl⟩
    exact purchasedField_of_inScope hgame
  · rintro value ⟨productId, name, platform, image, hgame, hscope⟩
    exact purchasedField_of_not_inScope hgame hscope
  · intro value hnothing
    unfold purchasedField
    cases hobj : value.asObject with
    | none => rfl
    | some game =>
      dsimp only
      split
      · next productId name platform url hid hname hplatform hurl =>
        by_cases hempty : name = ""
        · rw [if_pos hempty]
        · exfalso
          obtain ⟨image, himage, -⟩ := imageUrl_eq_some_iff.mp hurl
          have hgame : PurchasedGame value productId name platform image :=
            ⟨game, Value.asObject_eq_some_iff.mp hobj, nullableString_eq_some_iff.mp hid,
              nullableString_eq_some_iff.mp hname, hempty,
              nullableString_eq_some_iff.mp hplatform, himage⟩
          by_cases hscope : platform = some "PS5" ∧ ∃ id : ProductId, id.text = productId
          · obtain ⟨rfl, id, rfl⟩ := hscope
            exact hnothing (some ⟨id, name, _⟩) ⟨image, hgame, rfl⟩
          · exact hnothing none ⟨productId, name, platform, image, hgame, hscope⟩
      · rfl

/-- An element of the wishlist is an id of its kind. -/
lemma wishlistId_eq_some_iff {typename : Option String} {text : String} {id : WishlistId} :
    wishlistId typename text = some id ↔ WishlistIdReads typename text id := by
  unfold wishlistId
  split
  · cases id <;> simp [WishlistIdReads, ProductId.parse_eq_some_iff]
  · cases id <;> simp [WishlistIdReads, ConceptId.parse_eq_some_iff]
  · next hproduct hconcept =>
    cases id with
    | product id => exact iff_of_false (fun h => nomatch h) fun h => hproduct h.1
    | concept id => exact iff_of_false (fun h => nomatch h) fun h => hconcept h.1

/-- The platforms of an element of the wishlist. -/
lemma wishlistPlatforms_eq_some_iff {entry : Object} {platforms : List Value} :
    wishlistPlatforms entry = some platforms ↔ ItemsAt entry "platforms" platforms := by
  unfold wishlistPlatforms ItemsAt
  split
  · next hget => simp [hget, eq_comm]
  · next hget => simp [hget, eq_comm]
  · next hget => simp [hget]
  · next value hnull harray hget =>
    simp only [hget, reduceCtorEq, Option.some.injEq, false_iff, false_or, not_or, not_and]
    exact ⟨fun h => absurd h hnull, harray platforms⟩

/-- The platforms include PS5. -/
lemma any_ps5_iff {platforms : List Value} :
    platforms.any (fun platform => platform.asString == some "PS5") = true ↔
      .string "PS5" ∈ platforms := by
  rw [List.any_eq_true]
  constructor
  · rintro ⟨platform, hmem, hps5⟩
    cases platform <;> simp [Value.asString] at hps5
    rwa [← hps5]
  · exact fun hmem => ⟨_, hmem, by simp [Value.asString]⟩

/-- The URL of the box art, or the empty text. -/
lemma boxArtUrl_spec (entry : Object) :
    HasBoxArt entry (boxArtUrl (entry.get "boxArt")) ∨
      (¬∃ url, HasBoxArt entry url) ∧ boxArtUrl (entry.get "boxArt") = "" := by
  unfold HasBoxArt boxArtUrl
  cases hart : entry.get "boxArt" with
  | none => simp
  | some value =>
    cases value with
    | object art =>
      simp only [Option.bind_some, Value.asObject, Option.some.injEq, Value.object.injEq,
        exists_eq_left']
      unfold nullableString
      cases hurl : Object.get art "url" with
      | none => simp
      | some value => cases value <;> simp
    | _ => simp [Value.asObject]

/-- An element of the wishlist in scope is kept with its entry. -/
lemma wishlistField_of_inScope {entry : Object} {typename : Option String} {text name : String}
    {platforms : List Value} {id : WishlistId}
    (h : WishlistElement entry typename text name platforms)
    (hid : WishlistIdReads typename text id) (hps5 : .string "PS5" ∈ platforms) :
    wishlistField (.object entry) =
      .kept { id, name, imageUrl := boxArtUrl (entry.get "boxArt") } := by
  obtain ⟨htypename, htext, htextEmpty, hname, hnameEmpty, hplatforms⟩ := h
  unfold wishlistField
  simp only [Value.asObject, wishlistPlatforms_eq_some_iff.mpr hplatforms,
    nullableString_eq_some_iff.mpr htypename, nullableString_eq_some_iff.mpr htext,
    nullableString_eq_some_iff.mpr hname, if_neg (not_or.mpr ⟨htextEmpty, hnameEmpty⟩),
    wishlistId_eq_some_iff.mpr hid, any_ps5_iff.mpr hps5, if_true]

/-- An element of the wishlist out of scope is left out. -/
lemma wishlistField_of_not_inScope {entry : Object} {typename : Option String}
    {text name : String} {platforms : List Value}
    (h : WishlistElement entry typename text name platforms)
    (hscope : ¬ ((∃ id, WishlistIdReads typename text id) ∧ .string "PS5" ∈ platforms)) :
    wishlistField (.object entry) = .outOfScope := by
  obtain ⟨htypename, htext, htextEmpty, hname, hnameEmpty, hplatforms⟩ := h
  unfold wishlistField
  simp only [Value.asObject, wishlistPlatforms_eq_some_iff.mpr hplatforms,
    nullableString_eq_some_iff.mpr htypename, nullableString_eq_some_iff.mpr htext,
    nullableString_eq_some_iff.mpr hname, if_neg (not_or.mpr ⟨htextEmpty, hnameEmpty⟩)]
  cases hid : wishlistId typename text with
  | none => rfl
  | some id =>
    dsimp only
    rw [if_neg]
    intro hps5
    exact hscope ⟨⟨id, wishlistId_eq_some_iff.mp hid⟩, any_ps5_iff.mp hps5⟩

/-- **The decoder of an element of the wishlist** gives what the element says.

**Proof sketch.** By `decodes_scope` there are three parts: an element in scope is kept with its id,
its name and the image that `boxArtUrl_spec` describes; one out of scope is passed over; and where
the code keeps or passes over an element, its fields are those of one that says so. -/
theorem decodes_wishlistField :
    Decodes (fun value => (wishlistField value).decoded) WishlistReads := by
  refine decodes_scope ?_ ?_ ?_
  · rintro value ⟨id, name, imageUrl⟩
    rintro ⟨obj, typename, text, platforms, rfl, helement, hid, hps5, hart⟩
    rw [wishlistField_of_inScope helement hid hps5]
    congr 2
    dsimp only at hart
    rcases boxArtUrl_spec obj with hurl | ⟨hnone, hurl⟩
    · rcases hart with ⟨art, hart, himage⟩ | ⟨hnone, -⟩
      · obtain ⟨art', hart', himage'⟩ := hurl
        rw [hart] at hart'
        cases hart'
        rw [himage] at himage'
        cases himage'
        rfl
      · exact absurd ⟨_, hurl⟩ hnone
    · rcases hart with hart | ⟨-, rfl⟩
      · exact absurd ⟨_, hart⟩ hnone
      · exact hurl
  · rintro value ⟨obj, typename, text, name, platforms, rfl, helement, hscope⟩
    exact wishlistField_of_not_inScope helement hscope
  · intro value hnothing
    unfold wishlistField
    cases hobj : value.asObject with
    | none => rfl
    | some entry =>
      obtain rfl := Value.asObject_eq_some_iff.mp hobj
      dsimp only
      split
      · next platforms typename text name hplatforms htypename htext hname =>
        by_cases hempty : text = "" ∨ name = ""
        · rw [if_pos hempty]
        · exfalso
          obtain ⟨htextEmpty, hnameEmpty⟩ := not_or.mp hempty
          have helement : WishlistElement entry typename text name platforms :=
            ⟨nullableString_eq_some_iff.mp htypename, nullableString_eq_some_iff.mp htext,
              htextEmpty, nullableString_eq_some_iff.mp hname, hnameEmpty,
              wishlistPlatforms_eq_some_iff.mp hplatforms⟩
          by_cases hscope :
              (∃ id, WishlistIdReads typename text id) ∧ .string "PS5" ∈ platforms
          · obtain ⟨⟨id, hid⟩, hps5⟩ := hscope
            refine hnothing (some ⟨id, name, boxArtUrl (entry.get "boxArt")⟩)
              ⟨entry, typename, text, platforms, rfl, helement, hid, hps5, ?_⟩
            exact boxArtUrl_spec entry
          · exact hnothing none
              ⟨entry, typename, text, name, platforms, rfl, helement, hscope⟩
      · rfl

end PsStore
