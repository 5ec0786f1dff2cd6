import PsStore.Application.Account
import PsStore.Application.GameLookup
import PsStore.Sources.Sony.Account

set_option relaxedAutoImplicit false
set_option autoImplicit false

/-!
# The lookups over Sony's answers

The lookups of one request as the store client makes them from Sony's answers. An answer is the JSON
of a body, or the failure of its call, so a fact about every `StoreAnswers` is a fact about every
upstream behaviour at the boundary of the process.

## Main definitions

* `StoreAnswers` — Sony's answers to the lookups of one request.
* `StoreAnswers.lookups` — what the lookups answer.
* `AccountAnswers` — Sony's answers to the signed-in requests, with the purchased and the wishlist
  answers.
-/

namespace PsStore

open Json

/-- Sony's answers to the lookups of one request, with the order in which concurrent lookups end and
the clock. The price is taken after its decode. -/
structure StoreAnswers where
  /-- The category grid of a list. -/
  grid : SonyFeature → Except UpstreamError Value
  /-- The product detail for the item at a place of its batch. -/
  detail : ℕ → ProductId → Except UpstreamError Value
  /-- The product detail of the product-id fallback and of BROWSE. -/
  strictDetail : ProductId → Except UpstreamError Value
  price : ProductId → Except UpstreamError ProductPrice
  /-- The PS Plus monthly feed. -/
  plusMonthly : Except UpstreamError Value
  /-- One raw search page. -/
  search : String → ℕ → ℕ → Except UpstreamError Value
  /-- One raw BROWSE page. -/
  browse : BrowseRequest → Except UpstreamError Value
  completion : ℕ → ℕ → ℕ
  upcomingFailsFirst : Bool
  clock : Reading → ℤ

/-- What the lookups of a request answer. -/
def StoreAnswers.lookups (answers : StoreAnswers) (contract : SonyContract) : Lookups where
  concepts := fun feature => fetchConcepts contract (answers.grid feature)
  detail := fun i productId => fetchProductDetail contract (answers.detail i productId)
  strictDetail := fun productId => fetchProductDetail contract (answers.strictDetail productId)
  price := answers.price
  plusMonthly := fetchPlusMonthly answers.plusMonthly
  searchPage := fun term offset size => fetchSearchPage contract (answers.search term offset size)
  browsePage := fun request => fetchBrowsePage contract request.size (answers.browse request)
  completion := answers.completion
  upcomingFailsFirst := answers.upcomingFailsFirst
  clock := answers.clock

/-- Sony's answers to the signed-in requests. -/
structure AccountAnswers where
  /-- The outcome of the sign-in exchange. -/
  exchange : Except AccountError Unit
  /-- The library pages. -/
  purchasedPages : ℕ → Except AccountError Value
  /-- The crawl of the library runs past its deadline. -/
  purchasedLate : Bool
  wishlist : Except AccountError Value
  /-- The wishlist call runs past its deadline. -/
  wishlistLate : Bool
  /-- The store lookups of the wishlist. -/
  store : Enrichment

/-- The answer of the purchased route. -/
def AccountAnswers.purchased (account : AccountAnswers) (contract : SonyContract) :
    Except AccountError PageResult :=
  purchasedPage account.exchange
    (purchasedGames contract account.purchasedLate account.purchasedPages)

/-- The answer of the wishlist route. -/
def AccountAnswers.wishlistCards (account : AccountAnswers) (contract : SonyContract) :
    Except AccountError PageResult :=
  wishlistPage account.exchange
    (wishlistGames contract account.wishlistLate account.wishlist) account.store

/-- The body of an answer whose `data` has one node. -/
def dataBody (operation : String) (node : Value) : Value :=
  .object [("data", .object [(operation, node)])]

/-- A store whose grids and feed are empty, and that knows no product. -/
def StoreAnswers.empty : StoreAnswers where
  grid := fun _ => .ok (dataBody "categoryGridRetrieve" (.object []))
  detail := fun _ _ => .ok (dataBody "productRetrieve" .null)
  strictDetail := fun _ => .ok (dataBody "productRetrieve" .null)
  price := fun _ => .ok {}
  plusMonthly := .ok (.array [])
  search := fun _ _ _ => .ok (dataBody "universalSearch" .null)
  browse := fun _ => .ok (dataBody "categoryGridRetrieve" (.object []))
  completion := fun _ _ => 0
  upcomingFailsFirst := false
  clock := fun _ => 0

/-- The operation names of a contract. -/
def sampleContract : SonyContract where
  categoryGridOperation := "categoryGridRetrieve"
  productOperation := "metGetProductById"
  searchOperation := "getSearchResults"
  purchasedOperation := "getPurchasedGameList"
  wishlistOperation := "storeRetrieveWishlist"

/-- The strict detail of an accepted answer. -/
lemma StoreAnswers.strictDetail_eq {answers : StoreAnswers} {contract : SonyContract}
    {productId : ProductId} {json : Value} (hanswer : answers.strictDetail productId = .ok json)
    (haccepted : graphqlChecked contract.productOperation (.ok json) = .ok json) :
    (answers.lookups contract).strictDetail productId = .ok (extractProductDetail json) := by
  show fetchProductDetail contract (answers.strictDetail productId) = _
  rw [hanswer]
  unfold fetchProductDetail
  rw [haccepted]
  rfl

end PsStore
