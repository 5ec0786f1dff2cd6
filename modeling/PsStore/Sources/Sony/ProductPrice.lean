import PsStore.Domain.Js
import PsStore.Sources.Sony.Product

set_option relaxedAutoImplicit false
set_option autoImplicit false

/-!
# The product price boundary

The calls to action of a price answer, as `sources/sony/catalog/product.rs` decodes them: the PS
Plus offer and the standard price, each from the first call to action that has one.

## Main definitions

* `cta` — the decode of one call to action.
* `offerFromCta`, `standardFromCta` — what one call to action gives.
* `parseProductPrice` — the price of an answer.
* `CtaReads` — an element of the answer is a call to action with these fields.
* `GivesOffer`, `GivesStandard` — an element of the answer qualifies, with its texts.

## Main results

* `entryOffer_eq_some_iff`, `entryStandard_eq_some_iff` — the two rules of qualification.
* `parseProductPrice_spec` — both selections take the first element that qualifies, never the same
  one, and no other element counts.
-/

namespace PsStore

open Json

/-! ## One call to action -/

/-- The types for which Sony includes the game in a PS Plus tier. -/
def includedCtaTypes : List String :=
  ["UPSELL_PS_PLUS_GAME_CATALOG", "UPSELL_PS_PLUS_FREE", "UPSELL_PS_PLUS_CLASSIC_GAME_COLLECTION"]

/-- The price of a call to action. -/
structure CtaPrice where
  applicability : Option String
  basePrice : Option String
  displayDiscountText : Option String
  discountedPrice : Option String
  isTiedToSubscription : Option Bool
  serviceBranding : Option (List (Option String))

/-- One call to action. -/
structure Cta where
  kind : Option String
  price : Option CtaPrice

/-- The decode of a price. -/
def ctaPrice (value : Value) : Except Invalid CtaPrice := do
  let obj ← object value
  return {
    applicability := ← optString obj "applicability"
    basePrice := ← optString obj "basePrice"
    displayDiscountText := ← optString obj "displayDiscountText"
    discountedPrice := ← optString obj "discountedPrice"
    isTiedToSubscription := ← optBool obj "isTiedToSubscription"
    serviceBranding := ← optNullableStrings obj "serviceBranding" }

/-- The decode of one call to action. -/
def cta (value : Value) : Except Invalid Cta := do
  let obj ← object value
  return {
    kind := ← optString obj "type"
    price := ← optObjectOf ctaPrice obj "price" }

/-- The PS Plus offer of a call to action. -/
def offerFromCta (cta : Cta) : Option PlusOffer := do
  let price ← cta.price
  if price.applicability ≠ some "UPSELL" ∨ some psPlus ∉ price.serviceBranding.getD [] then none
  else match price.isTiedToSubscription with
    | some true => (cta.kind.filter fun kind => kind ∈ includedCtaTypes).map fun _ => .included
    | some false =>
      (price.discountedPrice.filter fun text => !(jsTrim text.toList).isEmpty).map .price
    | none => none

/-- The standard price of a call to action. -/
def standardFromCta (cta : Cta) : Option StandardPrice := do
  let price ← cta.price
  if price.applicability = some "UPSELL" ∨ price.isTiedToSubscription = some true then none
  else
    let standard : StandardPrice := {
      basePrice := price.basePrice.getD ""
      discountedPrice := price.discountedPrice.getD ""
      discountText := price.displayDiscountText.getD "" }
    if standard.basePrice ≠ "" ∨ standard.discountedPrice ≠ "" then some standard else none

/-! ## The price of an answer -/

/-- The elements of the answer that should be calls to action. -/
def webctas (json : Value) : Option (List Value) := do
  let node ← (productRetrieve json).filter fun node => !node.isNull
  (optList (← node.asObject) "webctas").toOption.join

/-- The decoded calls to action. A malformed one is skipped; the others stay. -/
def decodedCtas (json : Value) : List Cta :=
  ((webctas json).getD []).filterMap fun entry => (cta entry).toOption

/-- The PS Plus offer and the standard price of a price answer. -/
def parseProductPrice (json : Value) : ProductPrice :=
  let ctas := decodedCtas json
  { plusOffer := ctas.findSome? offerFromCta
    standard := ctas.findSome? standardFromCta }

/-! ## What qualifies -/

/-- The elements of the price answer. -/
def HasWebctas (json : Value) (items : List Value) : Prop :=
  ∃ node, ObjectAt json ["data", "productRetrieve"] node ∧
    node.get "webctas" = some (.array items)

/-- The price object of a call to action. -/
def CtaPriceReads (value : Value) (price : CtaPrice) : Prop :=
  ∃ obj, value = .object obj ∧ FieldReads TextReads obj "applicability" price.applicability ∧
    FieldReads TextReads obj "basePrice" price.basePrice ∧
    FieldReads TextReads obj "displayDiscountText" price.displayDiscountText ∧
    FieldReads TextReads obj "discountedPrice" price.discountedPrice ∧
    FieldReads BoolReads obj "isTiedToSubscription" price.isTiedToSubscription ∧
    FieldReads (ListReads NullableTextReads) obj "serviceBranding" price.serviceBranding

/-- A call to action with its type and its price. -/
def CtaReads (value : Value) (cta : Cta) : Prop :=
  ∃ obj, value = .object obj ∧ FieldReads TextReads obj "type" cta.kind ∧
    FieldReads CtaPriceReads obj "price" cta.price

/-- The element is a call to action with a price. -/
def HasCtaPrice (entry : Value) (kind : Option String) (price : CtaPrice) : Prop :=
  CtaReads entry { kind, price := some price }

/-- The text has a character that is no blank. -/
def HasInk (text : String) : Prop := ∃ c ∈ text.toList, isJsSpace c = false

/-- The element is a PS Plus upsell with this offer: a subscription type that includes the game, or
a price that is not tied to a subscription. -/
def GivesOffer (entry : Value) (offer : PlusOffer) : Prop :=
  ∃ kind price branding, HasCtaPrice entry kind price ∧
    price.applicability = some "UPSELL" ∧ price.serviceBranding = some branding ∧
    some "PS_PLUS" ∈ branding ∧
    ((price.isTiedToSubscription = some true ∧ offer = .included ∧
        ∃ included ∈ includedCtaTypes, kind = some included) ∨
      (price.isTiedToSubscription = some false ∧
        ∃ text, price.discountedPrice = some text ∧ HasInk text ∧ offer = .price text))

/-- The element is a plain purchase with this price: neither an upsell nor tied to a subscription,
with a base price or a discounted one. -/
def GivesStandard (entry : Value) (standard : StandardPrice) : Prop :=
  ∃ kind price, HasCtaPrice entry kind price ∧
    price.applicability ≠ some "UPSELL" ∧ price.isTiedToSubscription ≠ some true ∧
    (standard.basePrice ≠ "" ∨ standard.discountedPrice ≠ "") ∧
    standard = {
      basePrice := price.basePrice.getD ""
      discountedPrice := price.discountedPrice.getD ""
      discountText := price.displayDiscountText.getD "" }

/-! ## The decoder of an element -/

/-- The elements of the price answer are read exactly where it has them. -/
lemma webctas_eq_some_iff {json : Value} {items : List Value} :
    webctas json = some items ↔ HasWebctas json items := by
  have hfield : ∀ obj : Object, (optList obj "webctas").toOption.join = some items ↔
      obj.get "webctas" = some (.array items) := by
    intro obj
    rw [Option.join_eq_some_iff, toOption_eq_some_iff, optList_eq_some_iff]
  simp only [webctas, productRetrieve, HasWebctas, ObjectAt, Option.bind_eq_bind,
    Option.bind_eq_some_iff, Option.filter_eq_some_iff, Value.asObject_eq_some_iff, hfield]
  constructor
  · rintro ⟨_, ⟨⟨root, rfl, _, hdata, data, rfl, hget⟩, -⟩, node, rfl, hitems⟩
    exact ⟨node, ⟨root, _, rfl, hdata, data, _, rfl, hget, rfl⟩, hitems⟩
  · rintro ⟨node, ⟨root, _, rfl, hdata, data, _, rfl, hget, rfl⟩, hitems⟩
    exact ⟨_, ⟨⟨root, rfl, _, hdata, data, rfl, hget⟩, rfl⟩, node, rfl, hitems⟩

/-- The decoder of a price. -/
lemma decodes_ctaPrice : Decodes ctaPrice CtaPriceReads := by
  rintro value ⟨applicability, base, text, discounted, tied, branding⟩
  simp only [ctaPrice, CtaPriceReads, bind_eq_ok_iff, object_eq_ok_iff, optString_eq_ok_iff,
    optBool_eq_ok_iff, optNullableStrings_eq_ok_iff]
  constructor
  · rintro ⟨obj, hobj, _, happlicability, _, hbase, _, htext, _, hdiscounted, _, htied, _,
      hbranding, ⟨⟩⟩
    exact ⟨obj, hobj, happlicability, hbase, htext, hdiscounted, htied, hbranding⟩
  · rintro ⟨obj, hobj, happlicability, hbase, htext, hdiscounted, htied, hbranding⟩
    exact ⟨obj, hobj, _, happlicability, _, hbase, _, htext, _, hdiscounted, _, htied, _,
      hbranding, rfl⟩

/-- The decoder of a call to action. -/
lemma decodes_cta : Decodes cta CtaReads := by
  rintro value ⟨kind, price⟩
  simp only [cta, CtaReads, bind_eq_ok_iff, object_eq_ok_iff, optString_eq_ok_iff, optObjectOf,
    optional_eq_ok_iff decodes_ctaPrice]
  constructor
  · rintro ⟨obj, hobj, _, hkind, _, hprice, ⟨⟩⟩
    exact ⟨obj, hobj, hkind, hprice⟩
  · rintro ⟨obj, hobj, hkind, hprice⟩
    exact ⟨obj, hobj, _, hkind, _, hprice, rfl⟩

/-- A text without ink is blank. -/
lemma jsTrim_isEmpty_iff {text : String} :
    (!(jsTrim text.toList).isEmpty) = true ↔ HasInk text := by
  rw [Bool.not_eq_true', Bool.eq_false_iff, Ne, List.isEmpty_iff]
  unfold jsTrim HasInk
  rw [trimBy_eq_nil_iff]
  simp

/-- The offer of an element of the answer. -/
def entryOffer (entry : Value) : Option PlusOffer := (cta entry).toOption.bind offerFromCta

/-- The standard price of an element of the answer. -/
def entryStandard (entry : Value) : Option StandardPrice :=
  (cta entry).toOption.bind standardFromCta

/-- **The upsell rule.**

**Proof sketch.** The call to action is decoded as it reads (`decodes_cta`). The code makes the
checks of the rule in turn, and the tie to a subscription decides whether the offer is an inclusion
or a price text. -/
lemma entryOffer_eq_some_iff {entry : Value} {offer : PlusOffer} :
    entryOffer entry = some offer ↔ GivesOffer entry offer := by
  unfold entryOffer GivesOffer
  constructor
  · intro h
    obtain ⟨⟨kind, price⟩, hcta, h⟩ := Option.bind_eq_some_iff.mp h
    rw [decodes_cta.toOption_eq_some_iff] at hcta
    obtain ⟨price, rfl, h⟩ := Option.bind_eq_some_iff.mp h
    split_ifs at h with hrule
    rw [not_or, not_not, not_not] at hrule
    obtain ⟨branding, hbranding, hplus⟩ : ∃ branding, price.serviceBranding = some branding ∧
        some "PS_PLUS" ∈ branding := by
      have hplus := hrule.2
      cases hbranding : price.serviceBranding with
      | none => rw [hbranding] at hplus; cases hplus
      | some branding => rw [hbranding] at hplus; exact ⟨branding, rfl, hplus⟩
    refine ⟨kind, price, branding, hcta, hrule.1, hbranding, hplus, ?_⟩
    cases htied : price.isTiedToSubscription with
    | none =>
      rw [htied] at h
      cases h
    | some tied =>
      rw [htied] at h
      cases tied with
      | true =>
        obtain ⟨included, hkind, rfl⟩ := Option.map_eq_some_iff.mp h
        obtain ⟨hkind, hincluded⟩ := Option.filter_eq_some_iff.mp hkind
        exact Or.inl ⟨rfl, rfl, included, of_decide_eq_true hincluded, hkind⟩
      | false =>
        obtain ⟨text, htext, rfl⟩ := Option.map_eq_some_iff.mp h
        obtain ⟨htext, hblank⟩ := Option.filter_eq_some_iff.mp htext
        exact Or.inr ⟨rfl, text, htext, jsTrim_isEmpty_iff.mp hblank, rfl⟩
  · intro h
    obtain ⟨kind, price, branding, hcta, hupsell, hbranding, hplus, hoffer⟩ := h
    have hmem : some psPlus ∈ price.serviceBranding.getD [] := by
      rw [hbranding]
      exact hplus
    rw [(decodes_cta.toOption_eq_some_iff _ _).mpr hcta]
    show (if _ then _ else _) = _
    rw [if_neg (not_or.mpr ⟨not_not.mpr hupsell, not_not.mpr hmem⟩)]
    rcases hoffer with ⟨htied, rfl, included, hincluded, rfl⟩ | ⟨htied, text, htext, hblank, rfl⟩
    · rw [htied]
      dsimp only
      rw [Option.filter_some, if_pos (decide_eq_true hincluded)]
      rfl
    · rw [htied]
      dsimp only
      rw [htext, Option.filter_some, if_pos (jsTrim_isEmpty_iff.mpr hblank)]
      rfl

/-- **The purchase rule.** -/
lemma entryStandard_eq_some_iff {entry : Value} {standard : StandardPrice} :
    entryStandard entry = some standard ↔ GivesStandard entry standard := by
  unfold entryStandard GivesStandard
  constructor
  · intro h
    obtain ⟨⟨kind, price⟩, hcta, h⟩ := Option.bind_eq_some_iff.mp h
    rw [decodes_cta.toOption_eq_some_iff] at hcta
    obtain ⟨price, rfl, hstandard⟩ := Option.bind_eq_some_iff.mp h
    dsimp only at hstandard
    split_ifs at hstandard with hrule hprice
    rw [not_or] at hrule
    obtain rfl := Option.some.inj hstandard
    exact ⟨kind, price, hcta, hrule.1, hrule.2, hprice, rfl⟩
  · intro h
    obtain ⟨kind, price, hcta, hupsell, htied, hprice, rfl⟩ := h
    rw [(decodes_cta.toOption_eq_some_iff _ _).mpr hcta]
    show (if _ then _ else _) = _
    rw [if_neg (not_or.mpr ⟨hupsell, htied⟩), if_pos hprice]

/-- No element gives both. -/
lemma not_givesStandard_of_givesOffer {entry : Value} {offer : PlusOffer}
    (hoffer : GivesOffer entry offer) (standard : StandardPrice) :
    ¬GivesStandard entry standard := by
  intro hstandard
  obtain ⟨kind, price, branding, hcta, hupsell, -⟩ := hoffer
  obtain ⟨kind', price', hcta', hplain, -⟩ := hstandard
  have hdecoded := (decodes_cta _ _).mpr hcta
  rw [(decodes_cta _ _).mpr hcta'] at hdecoded
  cases hdecoded
  exact hplain hupsell

/-! ## The texts -/

/-- The record has this text under the key: Sony's string, or the empty text where the key is absent
or `null`. -/
def ShowsText (obj : Object) (key text : String) : Prop :=
  obj.get key = some (.string text) ∨ text = "" ∧ (obj.get key = none ∨ obj.get key = some .null)

/-- A text field is Sony's text. -/
lemma showsText_of_fieldReads {obj : Object} {key : String} {text : Option String}
    (h : FieldReads TextReads obj key text) : ShowsText obj key (text.getD "") := by
  cases text with
  | none => exact Or.inr ⟨rfl, h⟩
  | some text =>
    obtain ⟨value, hget, -, rfl⟩ := h
    exact Or.inl hget

/-- A price is an object of the element, with Sony's texts. -/
lemma HasCtaPrice.showsText {entry : Value} {kind : Option String} {price : CtaPrice}
    (h : HasCtaPrice entry kind price) :
    ∃ obj priceObj : Object, entry = .object obj ∧ obj.get "price" = some (.object priceObj) ∧
      ShowsText priceObj "basePrice" (price.basePrice.getD "") ∧
      ShowsText priceObj "discountedPrice" (price.discountedPrice.getD "") ∧
      ShowsText priceObj "displayDiscountText" (price.displayDiscountText.getD "") := by
  obtain ⟨obj, rfl, -, value, hget, -, priceObj, rfl, -, hbase, htext, hdiscounted, -⟩ := h
  exact ⟨obj, priceObj, rfl, hget, showsText_of_fieldReads hbase,
    showsText_of_fieldReads hdiscounted, showsText_of_fieldReads htext⟩

/-! ## The selections -/

/-- The first element of a list that gives a value. -/
def FirstGives {β : Type} (gives : Value → β → Prop) (items : List Value) (b : β) : Prop :=
  ∃ before entry after, items = before ++ entry :: after ∧ gives entry b ∧
    ∀ e ∈ before, ∀ c, ¬gives e c

/-- A search takes the first element that gives a value. -/
lemma findSome?_eq_some_iff_firstGives {β : Type} {f : Value → Option β}
    {gives : Value → β → Prop} (hgives : ∀ {entry b}, f entry = some b ↔ gives entry b)
    {items : List Value} {b : β} : items.findSome? f = some b ↔ FirstGives gives items b := by
  unfold FirstGives
  rw [List.findSome?_eq_some_iff]
  simp only [hgives, Option.eq_none_iff_forall_ne_some, ne_eq]

/-- An element that gives nothing does not count, wherever it stands. -/
lemma findSome?_insert {β : Type} {f : Value → Option β} {entry : Value} (h : f entry = none)
    (before after : List Value) :
    (before ++ entry :: after).findSome? f = (before ++ after).findSome? f := by
  rw [List.findSome?_append, List.findSome?_append, List.findSome?_cons, h]

/-- A search of the decoded elements is a search of the elements. -/
lemma findSome?_filterMap {α β : Type} (decode : Value → Option α) (f : α → Option β)
    (items : List Value) :
    (items.filterMap decode).findSome? f = items.findSome? fun item => (decode item).bind f := by
  induction items with
  | nil => rfl
  | cons item items ih =>
    rw [List.filterMap_cons, List.findSome?_cons, ← ih]
    cases decode item with
    | none => rfl
    | some a => rw [List.findSome?_cons, Option.bind_some]

/-- The price of an answer, by its elements. -/
lemma parseProductPrice_of_webctas {json : Value} {items : List Value}
    (h : HasWebctas json items) :
    parseProductPrice json =
      { plusOffer := items.findSome? entryOffer, standard := items.findSome? entryStandard } := by
  unfold parseProductPrice decodedCtas
  dsimp only
  rw [webctas_eq_some_iff.mpr h, Option.getD_some, findSome?_filterMap, findSome?_filterMap]
  rfl

/-- **The price of an answer.** An answer without calls to action has no price. Otherwise the offer
comes from the first call to action that qualifies as a PS Plus upsell, and the standard price from
the first that qualifies as a plain purchase. No call to action qualifies for both. One that does
not qualify, such as a malformed one, changes nothing wherever it stands. The texts are Sony's.

**Proof sketch.** The price is two searches for the first entry that gives something, one for the
offer and one for the standard price (`findSome?_eq_some_iff_firstGives`), so an entry that gives
nothing does not change them. `entryOffer_eq_some_iff` and `entryStandard_eq_some_iff` describe on
the JSON what an entry gives, and a plain purchase is by definition none that qualifies as an
upsell. -/
theorem parseProductPrice_spec :
    (∀ json, (¬∃ items, HasWebctas json items) → parseProductPrice json = {}) ∧
    (∀ json items, HasWebctas json items →
      (∀ offer, (parseProductPrice json).plusOffer = some offer ↔
        FirstGives GivesOffer items offer) ∧
      ∀ standard, (parseProductPrice json).standard = some standard ↔
        FirstGives GivesStandard items standard) ∧
    (∀ entry offer standard, ¬(GivesOffer entry offer ∧ GivesStandard entry standard)) ∧
    (∀ json json' before entry after, HasWebctas json (before ++ after) →
      HasWebctas json' (before ++ entry :: after) →
      ((∀ offer, ¬GivesOffer entry offer) →
        (parseProductPrice json').plusOffer = (parseProductPrice json).plusOffer) ∧
      ((∀ standard, ¬GivesStandard entry standard) →
        (parseProductPrice json').standard = (parseProductPrice json).standard)) ∧
    (∀ entry text, GivesOffer entry (.price text) →
      ∃ obj price : Object, entry = .object obj ∧ obj.get "price" = some (.object price) ∧
        price.get "discountedPrice" = some (.string text)) ∧
    ∀ entry standard, GivesStandard entry standard →
      ∃ obj price : Object, entry = .object obj ∧ obj.get "price" = some (.object price) ∧
        ShowsText price "basePrice" standard.basePrice ∧
        ShowsText price "discountedPrice" standard.discountedPrice ∧
        ShowsText price "displayDiscountText" standard.discountText := by
  refine ⟨?_, ?_, ?_, ?_, ?_, ?_⟩
  · intro json h
    have hnone : webctas json = none := by
      rw [Option.eq_none_iff_forall_ne_some]
      intro items hitems
      exact h ⟨items, webctas_eq_some_iff.mp hitems⟩
    unfold parseProductPrice decodedCtas
    rw [hnone]
    rfl
  · intro json items h
    rw [parseProductPrice_of_webctas h]
    exact ⟨fun offer => findSome?_eq_some_iff_firstGives entryOffer_eq_some_iff,
      fun standard => findSome?_eq_some_iff_firstGives entryStandard_eq_some_iff⟩
  · intro entry offer standard h
    exact not_givesStandard_of_givesOffer h.1 standard h.2
  · intro json json' before entry after h h'
    rw [parseProductPrice_of_webctas h, parseProductPrice_of_webctas h']
    constructor
    · intro hnone
      apply findSome?_insert
      rw [Option.eq_none_iff_forall_ne_some]
      intro offer hoffer
      exact hnone offer (entryOffer_eq_some_iff.mp hoffer)
    · intro hnone
      apply findSome?_insert
      rw [Option.eq_none_iff_forall_ne_some]
      intro standard hstandard
      exact hnone standard (entryStandard_eq_some_iff.mp hstandard)
  · intro entry text h
    obtain ⟨kind, price, branding, hcta, -, -, -, hoffer⟩ := h
    rcases hoffer with ⟨-, hincluded, -⟩ | ⟨-, text, htext, hblank, ⟨⟩⟩
    · cases hincluded
    · obtain ⟨obj, priceObj, hentry, hprice, -, hshows, -⟩ := hcta.showsText
      rw [htext, Option.getD_some] at hshows
      refine ⟨obj, priceObj, hentry, hprice, ?_⟩
      rcases hshows with hget | ⟨rfl, -⟩
      · exact hget
      · obtain ⟨c, hc, -⟩ := hblank
        cases hc
  · intro entry standard h
    obtain ⟨kind, price, hcta, -, -, -, rfl⟩ := h
    exact hcta.showsText

/-- A price answer with these elements. -/
def priceAnswer (items : List Value) : Value :=
  .object [("data", .object [("productRetrieve", .object [("webctas", .array items)])])]

/-- An answer with calls to action has them. -/
lemma hasWebctas_priceAnswer (items : List Value) : HasWebctas (priceAnswer items) items :=
  ⟨_, ⟨_, _, rfl, rfl, _, _, rfl, rfl, rfl⟩, rfl⟩

/-- Between an upsell and a purchase stands a call to action that is no object. The game is included
in PS Plus, its price is that of the purchase, and without the odd element both stay. -/
theorem parseProductPrice_spec_malformed :
    let upsell := Value.object [("type", .string "UPSELL_PS_PLUS_FREE"),
      ("price", .object [("applicability", .string "UPSELL"),
        ("isTiedToSubscription", .bool true), ("serviceBranding", .array [.string "PS_PLUS"])])]
    let purchase := Value.object [("price", .object [("basePrice", .string "€49,95")])]
    let answer := priceAnswer [upsell, .null, purchase]
    (parseProductPrice answer).plusOffer = some .included ∧
      (parseProductPrice answer).standard = some { basePrice := "€49,95" } ∧
      (parseProductPrice answer).plusOffer =
        (parseProductPrice (priceAnswer [upsell, purchase])).plusOffer := by
  intro upsell purchase answer
  have hupsell : GivesOffer upsell .included :=
    entryOffer_eq_some_iff.mp (by decide)
  have hpurchase : GivesStandard purchase { basePrice := "€49,95" } :=
    entryStandard_eq_some_iff.mp (by decide)
  have hnull : ∀ offer, ¬GivesOffer .null offer := by
    intro offer h
    obtain ⟨kind, price, branding, ⟨obj, hobj, -⟩, -⟩ := h
    cases hobj
  have hplain : ∀ standard, ¬GivesStandard upsell standard :=
    not_givesStandard_of_givesOffer hupsell
  have hnull' : ∀ standard, ¬GivesStandard .null standard := by
    intro standard h
    obtain ⟨kind, price, ⟨obj, hobj, -⟩, -⟩ := h
    cases hobj
  obtain ⟨hoffer, hstandard⟩ := parseProductPrice_spec.2.1 answer _ (hasWebctas_priceAnswer _)
  refine ⟨(hoffer _).mpr ⟨[], upsell, _, rfl, hupsell, by simp⟩,
    (hstandard _).mpr ⟨[upsell, .null], purchase, [], rfl, hpurchase, ?_⟩,
    (parseProductPrice_spec.2.2.2.1 _ _ [upsell] .null [purchase] (hasWebctas_priceAnswer _)
      (hasWebctas_priceAnswer _)).1 hnull⟩
  intro entry hentry
  simp only [List.mem_cons, List.not_mem_nil, or_false] at hentry
  rcases hentry with rfl | rfl
  · exact hplain
  · exact hnull'

end PsStore
