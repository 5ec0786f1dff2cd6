import PsStore.Domain.Catalog
import PsStore.Domain.Js

set_option relaxedAutoImplicit false
set_option autoImplicit false

/-!
# Concepts and products to game cards

The mapping of `domain/mapper.rs` from Sony's concepts, product details and monthly entries to
game cards. The current time arrives as `nowMs`, the epoch milliseconds of the injected clock.

## Main definitions

* `conceptProductId` — the id that a concept gives its card.
* `conceptToGame`, `monthlyEntryToGame` — the card of a concept and of a monthly entry.
* `productDetailToGame` — the game of a product that no list contains.
* `fillCardFromDetail` — the game page of a list card.

## Main results

* `conceptToGame_price` — the price of a card is empty exactly where Sony names no price.
* `fillCardFromDetail_keeps` — a card with a price keeps its price fields on its game page.
-/

namespace PsStore

/-- A non-empty string or `none`, like JavaScript truthiness of a string. -/
def nonEmpty (value : Option String) : Option String := value.filter fun text => text ≠ ""

/-! ## Media -/

/-- An image of a concept. -/
structure Image where
  role : String
  url : String

/-- The cover image roles, most preferred first. -/
def coverRolePriority : List String :=
  ["MASTER", "GAMEHUB_COVER_ART", "PORTRAIT_BANNER", "FOUR_BY_THREE_BANNER",
    "SIXTEEN_BY_NINE_BANNER", "SCREENSHOT"]

/-- The media of a concept. -/
def mediaOf (concept : Concept) : List Media := concept.media.getD []

/-- The images of a concept that have a URL. -/
def imageMedia (concept : Concept) : List Image :=
  ((mediaOf concept).filter fun item => item.kind == some "IMAGE").filterMap fun item =>
    (nonEmpty item.url).map fun url => { role := item.role.getD "", url }

/-- The URLs of the screenshots. -/
def conceptScreenshots (concept : Concept) : List String :=
  ((imageMedia concept).filter fun image => image.role == "SCREENSHOT").map Image.url

/-- The URL of the image with the most preferred role, else of the first image. -/
def conceptCover (concept : Concept) : String :=
  let images := imageMedia concept
  let preferred := coverRolePriority.findSome? fun role =>
    images.find? fun image => image.role == role
  ((preferred.or images.head?).map Image.url).getD ""

/-- The URLs of the videos. -/
def conceptVideos (concept : Concept) : List String :=
  ((mediaOf concept).filter fun item => item.kind == some "VIDEO").filterMap fun item =>
    nonEmpty item.url

/-! ## Ids and prices -/

/-- The first product that a concept names. -/
def firstProduct (concept : Concept) : Option ConceptProductRef :=
  concept.products.bind List.head?

/-- Sony's subscription branding of PS Plus. -/
def psPlus : String := "PS_PLUS"

/-- The upper case of `c` is `target`, for the characters of `PS_PLUS`. No other character than
`ſ` has one of them as its upper case. -/
def uppercasesTo (target c : Char) : Bool :=
  c == target || c == target.toLower || (target == 'S' && c == 'ſ')

/-- The branding names PS Plus in any case. -/
def isPsPlus (branding : String) : Bool :=
  branding.length == psPlus.length &&
    matchesPattern (psPlus.toList.map uppercasesTo) branding.toList

/-- True when Sony shows a discount text, or a base price and a different discounted price. -/
def isConceptDiscounted (concept : Concept) : Bool :=
  let price := concept.price
  let base := (price.bind ConceptPrice.basePrice).getD ""
  let discounted := (price.bind ConceptPrice.discountedPrice).getD ""
  (nonEmpty (price.bind ConceptPrice.discountText)).isSome ||
    (base != "" && discounted != "" && base != discounted)

/-- The product id of a concept: its first product's id, else the concept id, else the empty
string. -/
def conceptProductId (concept : Concept) : String :=
  (((firstProduct concept).bind ConceptProductRef.id).or concept.id).getD ""

/-- A grid or search product as a concept that names only that product. -/
def productToConcept (product : CategoryGridProduct) : Concept where
  id := product.id
  name := product.name
  media := product.media
  price := product.price
  products := some [{ id := product.id }]

/-- Sony's PS Plus upsell text, verbatim, when the upsell names PS Plus. -/
def plusUpsellText (concept : Concept) : Option String := do
  let price ← concept.price
  if (price.upsellServiceBranding.getD []).any isPsPlus then nonEmpty price.upsellText else none

/-! ## Cards -/

/-- The game card of a concept. -/
def conceptToGame (concept : Concept) (id : GameId) (nowMs : ℤ) : Game :=
  let product := firstProduct concept
  let releaseDate := toIsoOrDefault (product.bind ConceptProductRef.releaseDate)
  let discounted := isConceptDiscounted concept
  let hasReleaseDate := releaseDate != ""
  let price := concept.price
  { id
    name := concept.name.getD ""
    url := conceptCover concept
    price := ((nonEmpty (price.bind ConceptPrice.discountedPrice)).or
      (nonEmpty (price.bind ConceptPrice.basePrice))).getD ""
    originalPrice := if discounted then (price.bind ConceptPrice.basePrice).getD "" else ""
    discountText := if discounted then (price.bind ConceptPrice.discountText).getD "" else ""
    discountDate := if discounted && hasReleaseDate then releaseDate else ""
    screenshots := conceptScreenshots concept
    videos := conceptVideos concept
    genres := (product.bind ConceptProductRef.genres).getD []
    description := ""
    studio := (product.bind ConceptProductRef.providerName).getD ""
    preOrder := hasReleaseDate && (parseDateMs releaseDate).any fun ms => decide (nowMs < ms)
    plusUpsellText := plusUpsellText concept
    plusOffer := none
    idKind := .product
    date := releaseDate }

/-- The concept that a product detail and its standard price stand for. -/
def detailConcept (id : ProductId) (detail : ProductDetail) (standard : Option StandardPrice) :
    Concept where
  id := some id.text
  name := detail.name
  media := some detail.media
  price := standard.map fun price =>
    { basePrice := some price.basePrice
      discountedPrice := some price.discountedPrice
      discountText := some price.discountText }
  products := some
    [{ id := some id.text
       releaseDate := detail.releaseDate
       providerName := detail.publisherName
       genres := some detail.genres }]

/-- The game of a product id that no list contains, built from the product's own detail and
standard price. -/
def productDetailToGame (id : ProductId) (detail : ProductDetail)
    (standard : Option StandardPrice) (nowMs : ℤ) : Game :=
  conceptToGame (detailConcept id detail standard) id.toGameId nowMs

/-- The game page of a list card. Each list card value that is not empty stays; empty media take
the detail's media, and an empty price takes the standard price with its discount fields. -/
def fillCardFromDetail (card fromDetail : Game) : Game :=
  let priceSource := if card.price = "" then fromDetail else card
  { card with
    screenshots := if card.screenshots = [] then fromDetail.screenshots else card.screenshots
    videos := if card.videos = [] then fromDetail.videos else card.videos
    price := priceSource.price
    originalPrice := priceSource.originalPrice
    discountText := priceSource.discountText
    discountDate := priceSource.discountDate }

/-- The card of a PS Plus monthly game: no price and no pre-order state. -/
def monthlyEntryToGame (entry : PlusMonthlyEntry) : Game where
  id := entry.productId.toGameId
  name := entry.name
  date := toIsoOrDefault (some entry.releaseDate)
  url := entry.imageUrl
  price := ""
  originalPrice := ""
  discountText := ""
  discountDate := ""
  screenshots := []
  videos := []
  genres := entry.genres
  description := ""
  studio := ""
  preOrder := false
  plusUpsellText := none
  plusOffer := none
  idKind := .product

/-! ## Facts about the cards -/

/-- A card has the id that it is made with. -/
@[simp] lemma conceptToGame_id (concept : Concept) (id : GameId) (nowMs : ℤ) :
    (conceptToGame concept id nowMs).id = id := rfl

/-- A card of a concept is that of a product. -/
@[simp] lemma conceptToGame_idKind (concept : Concept) (id : GameId) (nowMs : ℤ) :
    (conceptToGame concept id nowMs).idKind = .product := rfl

/-- A monthly card has the id of its entry. -/
@[simp] lemma monthlyEntryToGame_id (entry : PlusMonthlyEntry) :
    (monthlyEntryToGame entry).id = entry.productId.toGameId := rfl

/-- A monthly card is that of a product. -/
@[simp] lemma monthlyEntryToGame_idKind (entry : PlusMonthlyEntry) :
    (monthlyEntryToGame entry).idKind = .product := rfl

/-- A value that is not `none` after the truthiness check is not empty. -/
lemma ne_empty_of_nonEmpty {value : Option String} {text : String}
    (h : nonEmpty value = some text) : text ≠ "" := by
  unfold nonEmpty at h
  obtain ⟨-, hne⟩ := Option.filter_eq_some_iff.mp h
  simpa using hne

/-- **When a card has a price.** The price of a card is empty exactly where Sony names neither a
discounted nor a base price. -/
theorem conceptToGame_price (concept : Concept) (id : GameId) (nowMs : ℤ) :
    (conceptToGame concept id nowMs).price = "" ↔
      nonEmpty (concept.price.bind ConceptPrice.discountedPrice) = none ∧
        nonEmpty (concept.price.bind ConceptPrice.basePrice) = none := by
  change ((nonEmpty (concept.price.bind ConceptPrice.discountedPrice)).or
    (nonEmpty (concept.price.bind ConceptPrice.basePrice))).getD "" = "" ↔ _
  cases hdisc : nonEmpty (concept.price.bind ConceptPrice.discountedPrice) with
  | some text => simpa using ne_empty_of_nonEmpty hdisc
  | none =>
    cases hbase : nonEmpty (concept.price.bind ConceptPrice.basePrice) with
    | some text => simpa using ne_empty_of_nonEmpty hbase
    | none => simp

/-- **The page keeps the card.** Filling a card keeps its id, its name and every field that the
detail does not stand in for. -/
theorem fillCardFromDetail_keeps (card fromDetail : Game) :
    (fillCardFromDetail card fromDetail).id = card.id ∧
      (fillCardFromDetail card fromDetail).name = card.name ∧
      (fillCardFromDetail card fromDetail).idKind = card.idKind ∧
      (card.price ≠ "" →
        (fillCardFromDetail card fromDetail).price = card.price ∧
        (fillCardFromDetail card fromDetail).originalPrice = card.originalPrice ∧
        (fillCardFromDetail card fromDetail).discountText = card.discountText ∧
        (fillCardFromDetail card fromDetail).discountDate = card.discountDate) := by
  refine ⟨rfl, rfl, rfl, fun hprice => ?_⟩
  simp only [fillCardFromDetail, if_neg hprice, and_self]

end PsStore
