import PsStore.Domain.Library
import PsStore.Lib.Unordered

set_option relaxedAutoImplicit false
set_option autoImplicit false

/-!
# The signed-in lists

The requests of `application/account.rs`: the purchased games and the wishlist, each after a sign-in
exchange. The outcomes of the exchange and of the list call, and which wishlist lookups find a game
in time, come from the outside.

## Main definitions

* `purchasedPage`, `wishlistPage` — the answers of the signed-in routes.
* `Enrichment.cards` — the cards of the wishlist.

## Main results

* `Enrichment.map_id_cards` — the cards are those of the entries, in their order, whatever the store
  lookups find.
-/

namespace PsStore

/-- The parallel store lookups that fill the wishlist cards. -/
def wishlistEnrichConcurrency : ℕ := 6

/-- One response page with the whole list. -/
def wholePage (games : List Game) : PageResult where
  games := games
  totalCount := games.length
  nextOffset := none

/-- The store lookups of one wishlist request. -/
structure Enrichment where
  /-- The game that the lookup for the entry at a place finds within its deadline. -/
  found : ℕ → ProductId → Option Game
  /-- Which running lookup ends next. -/
  completion : ℕ → ℕ
  /-- The lookups end within the deadline of the whole list. -/
  inTime : Bool

namespace Enrichment

variable (store : Enrichment)

/-- A concept entry, a missing game, or a slow or failed lookup keeps the minimal card. -/
def enrichEntry (i : ℕ) (entry : WishlistEntry) : Game :=
  mergeWishlistEntry entry <|
    match entry.id with
    | .product productId => store.found i productId
    | .concept _ => none

/-- The cards of the wishlist. When the whole list runs past its deadline, every card is the minimal
card. -/
def cards (entries : List WishlistEntry) : List Game :=
  if store.inTime then
    inOrderBounded store.completion wishlistEnrichConcurrency store.enrichEntry entries
  else wishlistCards entries

/-- **The cards of the wishlist are those of its entries**, in their order, whatever the lookups
find and however they end. -/
theorem map_id_cards (entries : List WishlistEntry) :
    (store.cards entries).map Game.id = entries.map fun entry => entry.id.gameId := by
  have hlimit : 1 ≤ wishlistEnrichConcurrency := by decide
  unfold cards
  split_ifs with hinTime
  · rw [inOrderBounded_eq _ _ hlimit]
    apply List.ext_getElem
    · simp
    · intro i hi hi'
      simp [enrichEntry]
  · rw [wishlistCards, List.map_map]
    rfl

end Enrichment

/-- The answer of the purchased route. -/
def purchasedPage (exchange : Except AccountError Unit)
    (entries : Except AccountError (List PurchasedEntry)) : Except AccountError PageResult := do
  exchange
  return wholePage (purchasedCards (← entries))

/-- The answer of the wishlist route. -/
def wishlistPage (exchange : Except AccountError Unit)
    (entries : Except AccountError (List WishlistEntry)) (store : Enrichment) :
    Except AccountError PageResult := do
  exchange
  return wholePage (store.cards (← entries))

end PsStore
