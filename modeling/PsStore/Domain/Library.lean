import PsStore.Domain.Catalog
import PsStore.Lib.FirstWins

set_option relaxedAutoImplicit false
set_option autoImplicit false

/-!
# The signed-in lists

The purchased games and the Sony wishlist with their cards, as `domain/library.rs` has them, and the
failures of a signed-in request. The Sony adapter decodes and narrows the lists at its boundary, so
every entry here is a PS5 game with a name and a valid id.

## Main definitions

* `PurchasedEntry`, `WishlistId`, `WishlistEntry` — the entries of the lists.
* `dedupePurchased`, `purchasedCards` — the purchased list and its cards.
* `wishlistCards`, `mergeWishlistEntry` — the cards of the wishlist.

## Main results

* `WishlistId.gameId_injective` — entries of different ids have cards of different ids.
-/

namespace PsStore

/-- A failure of a signed-in request. -/
inductive AccountError where
  /-- Sony definitively rejected the sign-in. -/
  | sessionRejected (message : String)
  | upstream (error : UpstreamError)
deriving DecidableEq

/-- One game of the purchased library. -/
structure PurchasedEntry where
  productId : ProductId
  name : String
  /-- The cover image URL, or the empty string. -/
  imageUrl : String
deriving DecidableEq

/-- The id of a wishlist entry: the id that is valid for its Sony type. -/
inductive WishlistId where
  | product (id : ProductId)
  | concept (id : ConceptId)
deriving DecidableEq

/-- The kind of the card. -/
def WishlistId.kind : WishlistId → IdKind
  | product _ => .product
  | concept _ => .concept

/-- The id of the card. -/
def WishlistId.gameId : WishlistId → GameId
  | product id => id.toGameId
  | concept id => id.toGameId

/-- One game of the Sony wishlist. -/
structure WishlistEntry where
  id : WishlistId
  name : String
  /-- The cover image URL, or the empty string. -/
  imageUrl : String
deriving DecidableEq

/-- Keeps the first entry per product id, in Sony's order. -/
def dedupePurchased (entries : List PurchasedEntry) : List PurchasedEntry :=
  firstWins PurchasedEntry.productId entries

/-- A card with a name and an image only. -/
def libraryCard (id : GameId) (name imageUrl : String) (idKind : IdKind) : Game where
  id := id
  name := name
  date := ""
  url := imageUrl
  price := ""
  originalPrice := ""
  discountText := ""
  discountDate := ""
  screenshots := []
  videos := []
  genres := []
  description := ""
  studio := ""
  preOrder := false
  plusUpsellText := none
  plusOffer := none
  idKind := idKind

/-- The purchased cards in Sony's order. -/
def purchasedCards (entries : List PurchasedEntry) : List Game :=
  entries.map fun entry => libraryCard entry.productId.toGameId entry.name entry.imageUrl .product

/-- The minimal card of a wishlist entry. -/
def wishlistCard (entry : WishlistEntry) : Game :=
  libraryCard entry.id.gameId entry.name entry.imageUrl entry.id.kind

/-- The minimal cards of a wishlist, in Sony's order. -/
def wishlistCards (entries : List WishlistEntry) : List Game := entries.map wishlistCard

/-- A wishlist card: the public store's game when the store returned one, else the minimal card. The
card keeps the wishlist id and takes a missing name or cover from the entry. -/
def mergeWishlistEntry (entry : WishlistEntry) : Option Game → Game
  | none => wishlistCard entry
  | some game =>
    { game with
      id := entry.id.gameId
      name := if game.name = "" then entry.name else game.name
      url := if game.url = "" then entry.imageUrl else game.url }

/-- A wishlist card has the id of its entry, whatever the store returned. -/
@[simp] lemma mergeWishlistEntry_id (entry : WishlistEntry) (found : Option Game) :
    (mergeWishlistEntry entry found).id = entry.id.gameId := by
  cases found <;> rfl

/-- **Entries of different ids have cards of different ids**: no product id is a concept id. -/
theorem WishlistId.gameId_injective : Function.Injective WishlistId.gameId := by
  intro a b h
  cases a with
  | product p =>
    cases b with
    | product q => rw [ProductId.toGameId_injective h]
    | concept c => exact absurd h (p.toGameId_ne_conceptId c)
  | concept c =>
    cases b with
    | product q => exact absurd h.symm (q.toGameId_ne_conceptId c)
    | concept d => rw [ConceptId.toGameId_injective h]

end PsStore
