import PsStore.Domain.Id

set_option relaxedAutoImplicit false
set_option autoImplicit false

/-!
# Store data and game cards

The types of `domain/catalog.rs`, `domain/game.rs`, `domain/browse.rs` and `domain/errors.rs`:
Sony's data after the boundary decode, the game card of the public API with the pages of the
lists, and the typed failures. A field is `none` where Sony sent no value or `null`.

## Main definitions

* `Concept`, `CategoryGridProduct`, `ProductDetail`, `ProductPrice`, `PlusMonthlyEntry` — Sony's
  store data.
* `SearchEntry`, `SearchCandidate`, `SearchPage`, `BrowsePage` — the search and BROWSE answers.
* `Game`, `PageResult` — the game card and one page of a list.
* `UpstreamError`, `GameLookupError` — the failures of the lookups.
-/

namespace PsStore

/-! ## Sony's store data -/

/-- One media entry of a concept or a product. -/
structure Media where
  url : Option String := none
  role : Option String := none
  /-- Sony's `type`, for example `IMAGE` or `VIDEO`. -/
  kind : Option String := none
deriving DecidableEq

/-- The list price of a concept or a product, as Sony's verbatim strings. -/
structure ConceptPrice where
  basePrice : Option String := none
  discountedPrice : Option String := none
  discountText : Option String := none
  serviceBranding : Option (List String) := none
  upsellServiceBranding : Option (List String) := none
  upsellText : Option String := none
deriving DecidableEq

/-- A product that a concept names. -/
structure ConceptProductRef where
  /-- Sony's product id, not checked. -/
  id : Option String := none
  releaseDate : Option String := none
  providerName : Option String := none
  genres : Option (List String) := none
deriving DecidableEq

/-- A concept of the category grid or of the search result. -/
structure Concept where
  /-- Sony's concept id, not checked. -/
  id : Option String := none
  name : Option String := none
  media : Option (List Media) := none
  price : Option ConceptPrice := none
  products : Option (List ConceptProductRef) := none
deriving DecidableEq

/-- A product of the category grid or of the search result. -/
structure CategoryGridProduct where
  /-- Sony's product id, not checked. -/
  id : Option String := none
  name : Option String := none
  media : Option (List Media) := none
  price : Option ConceptPrice := none
  platforms : Option (List String) := none
  storeDisplayClassification : Option String := none
deriving DecidableEq

/-- The product detail of the game page and of the list date enrichment. Text fields that Sony
sent empty are `none`. -/
structure ProductDetail where
  name : Option String := none
  media : List Media := []
  releaseDate : Option String := none
  genres : List String := []
  /-- The long description, or the short one, or the empty string. -/
  description : String := ""
  publisherName : Option String := none
  storeDisplayClassification : Option String := none
  platforms : List String := []
deriving DecidableEq

/-- The PS Plus offer on the game page. -/
inductive PlusOffer where
  /-- A PS Plus price as Sony's verbatim string. -/
  | price (price : String)
  /-- The game is part of a PS Plus subscription tier. -/
  | included
deriving DecidableEq

/-- The standard price of a product, as Sony's verbatim strings. An absent value is the empty
string. -/
structure StandardPrice where
  basePrice : String := ""
  discountedPrice : String := ""
  discountText : String := ""
deriving DecidableEq

/-- The PS Plus offer and the standard price of one product. -/
structure ProductPrice where
  plusOffer : Option PlusOffer := none
  standard : Option StandardPrice := none
deriving DecidableEq

/-- One PS5 game of the PS Plus monthly feed, in scope. -/
structure PlusMonthlyEntry where
  productId : ProductId
  name : String
  imageUrl : String
  releaseDate : String
  genres : List String
deriving DecidableEq

/-! ## Search and BROWSE answers -/

/-- One decoded element of the search result, before the scope check. -/
inductive SearchEntry where
  | product (product : CategoryGridProduct)
  | concept (concept : Concept)
deriving DecidableEq

/-- A search result that survived the scope check. -/
inductive SearchCandidate where
  /-- The search response itself proves a PS5 game. -/
  | known (productId : ProductId) (concept : Concept)
  /-- A concept that names a product id. The product detail must prove a PS5 game. -/
  | unverified (productId : ProductId) (concept : Concept)
deriving DecidableEq

/-- The id of the card of a candidate. -/
def SearchCandidate.productId : SearchCandidate → ProductId
  | .known productId _ => productId
  | .unverified productId _ => productId

/-- One search page after the scope check. -/
structure SearchPage where
  candidates : List SearchCandidate
  /-- Sony's `pageInfo.isLast`. -/
  isLast : Bool
  /-- The number of result elements before the scope check. -/
  rawCount : ℕ

/-- One BROWSE grid page in Sony's order. -/
structure BrowsePage where
  concepts : List Concept
  isLast : Bool

/-- The category grid lists that NEW, UPCOMING, and DISCOUNTED read. -/
inductive SonyFeature where
  | new
  | upcoming
  | discounted
deriving DecidableEq

/-- One order of the BROWSE view. -/
inductive BrowseOrder where
  | bestSelling
  | mostDownloaded
  | newest
  | oldest
  | nameAsc
  | nameDesc
deriving DecidableEq

/-- A character of a genre facet key. -/
def isGenreKeyChar (c : Char) : Bool :=
  isUpper c || isDigit c || c == '_' || c == '/' || c == '-'

/-- True when the value has the Sony genre key format: 1 to 64 characters of the key alphabet. The
source counts bytes: the alphabet is ASCII, so the counts agree where the characters pass. -/
def isGenreKey (value : String) : Bool :=
  decide (1 ≤ value.length) && decide (value.length ≤ 64) && value.toList.all isGenreKeyChar

/-- A Sony genre facet key. -/
structure GenreKey where
  /-- The text of the key. -/
  text : String
  /-- The text has the key format. -/
  valid : isGenreKey text = true
deriving DecidableEq

/-- One BROWSE page request to Sony. -/
structure BrowseRequest where
  genre : GenreKey
  order : BrowseOrder
  offset : ℕ
  size : ℕ
deriving DecidableEq

/-! ## Game cards -/

/-- What the `id` of a game identifies. -/
inductive IdKind where
  /-- A product SKU with a store page and usually a price. -/
  | product
  /-- An announced UPCOMING title that Sony does not expose as a priced SKU. -/
  | concept
deriving DecidableEq

/-- One PS5 game card. All prices are Sony's verbatim strings. -/
structure Game where
  id : GameId
  name : String
  /-- The release date in the `toISOString` form, or the empty string. -/
  date : String
  /-- The cover image URL. -/
  url : String
  price : String
  originalPrice : String
  discountText : String
  discountDate : String
  screenshots : List String
  videos : List String
  genres : List String
  description : String
  studio : String
  preOrder : Bool
  plusUpsellText : Option String
  plusOffer : Option PlusOffer
  idKind : IdKind
deriving DecidableEq

/-- One page of a game list. -/
structure PageResult where
  games : List Game
  totalCount : ℕ
  /-- The offset of the next page, or `none` on the last page. -/
  nextOffset : Option ℕ
deriving DecidableEq

/-- The offset and the size of a page request. -/
structure Page where
  offset : ℕ
  size : ℕ
deriving DecidableEq

/-! ## Failures -/

/-- A failure of an upstream store call. -/
inductive UpstreamError where
  /-- An outage, a timeout, an unexpected answer, or a broken contract. -/
  | unavailable (message : String)
  /-- Sony no longer knows a persisted-query hash. -/
  | queryRotated (message : String) (operationName : String)
  /-- Sony answered 429 after the retry budget. -/
  | rateLimited (message : String) (retryAfterSeconds : Option ℕ)
deriving DecidableEq

/-- A failure of the game page lookup. -/
inductive GameLookupError where
  /-- No PS5 game has this id in the store. -/
  | notFound (id : GameId)
  | upstream (error : UpstreamError)
deriving DecidableEq

end PsStore
