import Mathlib.Data.List.Sort
import PsStore.Domain.Mapper
import PsStore.Lib.FirstWins

set_option relaxedAutoImplicit false
set_option autoImplicit false

/-!
# The rules of the lists

Sorting, pagination, the release windows, and the scope of the lists, as `domain/listing.rs`
computes them. Pure functions only: the current time arrives as `nowMs`.

## Main definitions

* `sortByDate`, `paginate` — the order and the pages of a list.
* `inNewWindow`, `inUpcomingWindow`, `mergeReleaseGrids` — the release lists.
* `mapConceptsToGames`, `mapUpcomingConceptsToGames`, `mapMonthlyToGames` — the cards of a grid.
* `isPs5Game`, `narrowSearchEntries` — the product scope.
* `browseCandidateIds`, `browseConceptToGame` — the products to try for a BROWSE concept.

## Main results

* `sortByDate_perm` — sorting loses and repeats no card.
* `mem_mapConceptsToGames_iff`, `mem_mapUpcomingConceptsToGames_iff` — which cards a grid gives.
* `nodup_browseCandidateIds` — no product is tried twice for one concept.
-/

namespace PsStore

/-! ## Order and pages -/

/-- The sort direction of a date-sorted list. -/
inductive SortOrder where
  | dateDesc
  | dateAsc
deriving DecidableEq

/-- The comparison of `sort_by_date`. A missing or unparseable date sorts last in both
directions. -/
def compareDates (order : SortOrder) (a b : Game) : Ordering :=
  match parseDateMs a.date, parseDateMs b.date, order with
  | some a, some b, .dateDesc => compare b a
  | some a, some b, .dateAsc => compare a b
  | some _, none, _ => .lt
  | none, some _, _ => .gt
  | none, none, _ => .eq

/-- Sorts by release date. Equal dates keep their order, because the sort is stable. -/
def sortByDate (games : List Game) (order : SortOrder) : List Game :=
  games.insertionSort fun a b => compareDates order a b ≠ .gt

/-- The largest `usize`. -/
def usizeMax : ℕ := 2 ^ 64 - 1

/-- `usize::saturating_add`. -/
def saturatingAdd (a b : ℕ) : ℕ := min (a + b) usizeMax

/-- One page of `games`. `nextOffset` is `none` on the last page. -/
def paginate (games : List Game) (offset size : ℕ) : PageResult :=
  let totalCount := games.length
  let endOffset := saturatingAdd offset size
  { games := (games.drop offset).take size
    totalCount
    nextOffset := if endOffset < totalCount then some endOffset else none }

/-! ## The release windows -/

/-- The longest local day, 25 hours: the next local midnight is at most this far away. -/
def maxLocalDayMs : ℤ := 25 * 60 * 60 * 1000

/-- How far off a client clock may be: 12 hours. -/
def clientClockMarginMs : ℤ := 12 * 60 * 60 * 1000

/-- The release instant of a game. -/
def releaseMs (game : Game) : Option ℤ := parseDateMs game.date

/-- True when the date of the game parses. -/
def hasReleaseDate (game : Game) : Bool := (releaseMs game).isSome

/-- NEW: a dated game released before the latest possible local midnight. -/
def inNewWindow (games : List Game) (nowMs : ℤ) : List Game :=
  let endMs := nowMs + maxLocalDayMs + clientClockMarginMs
  games.filter fun game => (releaseMs game).any fun ms => decide (ms < endMs)

/-- UPCOMING: a game released after the earliest possible local midnight, or a game without a
parseable date. -/
def inUpcomingWindow (games : List Game) (nowMs : ℤ) : List Game :=
  let startMs := nowMs - clientClockMarginMs
  games.filter fun game => (releaseMs game).all fun ms => decide (startMs ≤ ms)

/-- The released grid, then the upcoming grid. The first occurrence of a repeated id wins. -/
def mergeReleaseGrids (released upcoming : List Game) : List Game :=
  firstWins Game.id (released ++ upcoming)

/-! ## The cards of a grid -/

/-- The card of a concept whose id is a product SKU. -/
def productCard (nowMs : ℤ) (concept : Concept) : Option Game :=
  (ProductId.parse (conceptProductId concept)).map fun id =>
    conceptToGame concept id.toGameId nowMs

/-- NEW and DISCOUNTED: the cards whose id is a product SKU. -/
def mapConceptsToGames (concepts : List Concept) (nowMs : ℤ) : List Game :=
  concepts.filterMap (productCard nowMs)

/-- MONTHLY, newest release first. -/
def mapMonthlyToGames (entries : List PlusMonthlyEntry) : List Game :=
  sortByDate (entries.map monthlyEntryToGame) .dateDesc

/-- The card of a concept with an id. A product SKU id is `product`; any other id is a `concept`
id. -/
def upcomingCard (nowMs : ℤ) (concept : Concept) : Option Game :=
  (GameId.tryFrom (conceptProductId concept)).map fun id =>
    { conceptToGame concept id nowMs with
      idKind := if id.productId.isSome then .product else .concept }

/-- UPCOMING: also keeps concept-only announcements. Only id-less entries are dropped. -/
def mapUpcomingConceptsToGames (concepts : List Concept) (nowMs : ℤ) : List Game :=
  concepts.filterMap (upcomingCard nowMs)

/-! ## The product scope -/

/-- Sony `storeDisplayClassification` values that are full games. -/
def gameClassifications : List String := ["FULL_GAME", "GAME_BUNDLE"]

/-- True for a full game or a game bundle classification. -/
def isGameClassification (classification : Option String) : Bool :=
  classification.any fun value => gameClassifications.contains value

/-- Sony's platform name of the PS5. -/
def ps5Platform : String := "PS5"

/-- True for a PS5 full game or game bundle. -/
def isPs5Game (platforms : List String) (classification : Option String) : Bool :=
  platforms.any (fun platform => platform == ps5Platform) && isGameClassification classification

/-- The scope check of one search entry. -/
def narrowSearchEntry : SearchEntry → Option SearchCandidate
  | .product product => do
    let productId ← product.id.bind ProductId.parse
    if isPs5Game (product.platforms.getD []) product.storeDisplayClassification then
      some (.known productId (productToConcept product))
    else none
  | .concept concept => do
    let productId ← ((firstProduct concept).bind ConceptProductRef.id).bind ProductId.parse
    some (.unverified productId concept)

/-- Search scope: only PS5 game products and concepts that name a product id stay. Keeps Sony's
relevance order and the first occurrence of a repeated id. -/
def narrowSearchEntries (entries : List SearchEntry) : List SearchCandidate :=
  firstWins SearchCandidate.productId (entries.filterMap narrowSearchEntry)

/-! ## BROWSE -/

/-- Product lookups for one BROWSE concept at most. -/
def browseMaxCandidates : ℕ := 3

/-- True for a PS5 title product id: the text has `PPSA` at the places 7 to 10. The source reads
the same bytes of an id whose first twenty bytes are ASCII. -/
def isPs5TitleProductId (id : ProductId) : Bool :=
  (id.text.toList.drop 7).take 4 == ['P', 'P', 'S', 'A']

/-- The product ids to try for one BROWSE concept, in order: PS5 title ids first, otherwise
Sony's order. -/
def browseCandidateIds (concept : Concept) : List ProductId :=
  let ids := firstWins id
    ((concept.products.getD []).filterMap fun product => product.id.bind ProductId.parse)
  let parts := ids.partition isPs5TitleProductId
  (parts.1 ++ parts.2).take browseMaxCandidates

/-- The BROWSE card of a concept for the product that passed the scope check. The name, cover,
and list price come from the concept; the date and genres from that product's detail. -/
def browseConceptToGame (concept : Concept) (productId : ProductId) (releaseDate : String)
    (genres : List String) (nowMs : ℤ) : Game :=
  let base := conceptToGame concept productId.toGameId nowMs
  let release := parseDateMs releaseDate
  let date := (release.bind toIsoString).getD ""
  { base with
    discountDate := if isConceptDiscounted concept then date else ""
    genres := if genres = [] then base.genres else genres
    preOrder := date != "" && release.any fun ms => decide (nowMs < ms)
    date }

/-! ## Facts about the lists -/

/-- **Sorting loses and repeats no card.** -/
theorem sortByDate_perm (games : List Game) (order : SortOrder) :
    (sortByDate games order).Perm games :=
  List.perm_insertionSort _ games

/-- A sorted list has the cards of the list. -/
@[simp] lemma mem_sortByDate {games : List Game} {order : SortOrder} {game : Game} :
    game ∈ sortByDate games order ↔ game ∈ games :=
  (sortByDate_perm games order).mem_iff

/-- The cards of a page are cards of the list. -/
lemma mem_of_mem_paginate {games : List Game} {offset size : ℕ} {game : Game}
    (h : game ∈ (paginate games offset size).games) : game ∈ games :=
  List.mem_of_mem_drop (List.mem_of_mem_take h)

/-- The card of a grid concept: its id is the concept's product id. -/
lemma productCard_eq_some_iff {nowMs : ℤ} {concept : Concept} {game : Game} :
    productCard nowMs concept = some game ↔
      ∃ p : ProductId, p.text = conceptProductId concept ∧
        conceptToGame concept p.toGameId nowMs = game := by
  unfold productCard
  simp [Option.map_eq_some_iff, ProductId.parse_eq_some_iff]

/-- **Which product cards a grid gives.** Each concept with a product id gives one. -/
theorem mem_mapConceptsToGames_iff {concepts : List Concept} {nowMs : ℤ} {game : Game} :
    game ∈ mapConceptsToGames concepts nowMs ↔
      ∃ concept ∈ concepts, ∃ p : ProductId, p.text = conceptProductId concept ∧
        conceptToGame concept p.toGameId nowMs = game := by
  unfold mapConceptsToGames
  simp only [List.mem_filterMap, productCard_eq_some_iff]

/-- The card of an upcoming concept: its id is the concept's id, and its kind says whether that
is a product id. -/
lemma upcomingCard_eq_some_iff {nowMs : ℤ} {concept : Concept} {game : Game} :
    upcomingCard nowMs concept = some game ↔
      ∃ id : GameId, id.text = conceptProductId concept ∧
        { conceptToGame concept id nowMs with
          idKind := if id.productId.isSome then IdKind.product else IdKind.concept } = game := by
  unfold upcomingCard
  simp only [Option.map_eq_some_iff, GameId.tryFrom_eq_some_iff]

/-- **Which cards the upcoming grid gives.** Each concept with an id gives one. -/
theorem mem_mapUpcomingConceptsToGames_iff {concepts : List Concept} {nowMs : ℤ} {game : Game} :
    game ∈ mapUpcomingConceptsToGames concepts nowMs ↔
      ∃ concept ∈ concepts, ∃ id : GameId, id.text = conceptProductId concept ∧
        { conceptToGame concept id nowMs with
          idKind := if id.productId.isSome then IdKind.product else IdKind.concept } = game := by
  unfold mapUpcomingConceptsToGames
  simp only [List.mem_filterMap, upcomingCard_eq_some_iff]

/-- A product card of the upcoming grid has a product id. -/
lemma productId_of_mem_upcoming {concepts : List Concept} {nowMs : ℤ} {game : Game}
    (h : game ∈ mapUpcomingConceptsToGames concepts nowMs) (hkind : game.idKind = .product) :
    ∃ p : ProductId, game.id = p.toGameId := by
  obtain ⟨concept, -, id, -, rfl⟩ := mem_mapUpcomingConceptsToGames_iff.mp h
  have hsome : id.productId.isSome = true := by
    by_contra hnone
    simp [hnone] at hkind
  obtain ⟨p, hp⟩ := Option.isSome_iff_exists.mp hsome
  exact ⟨p, GameId.productId_eq_some_iff.mp hp⟩

/-- The cards of MONTHLY are the cards of the entries. -/
lemma mem_mapMonthlyToGames_iff {entries : List PlusMonthlyEntry} {game : Game} :
    game ∈ mapMonthlyToGames entries ↔ ∃ entry ∈ entries, monthlyEntryToGame entry = game := by
  unfold mapMonthlyToGames
  rw [mem_sortByDate, List.mem_map]

/-- A BROWSE card has the id of the product that passed. -/
@[simp] lemma browseConceptToGame_id (concept : Concept) (productId : ProductId)
    (releaseDate : String) (genres : List String) (nowMs : ℤ) :
    (browseConceptToGame concept productId releaseDate genres nowMs).id = productId.toGameId :=
  rfl

/-- **No product is tried twice** for one BROWSE concept. -/
theorem nodup_browseCandidateIds (concept : Concept) : (browseCandidateIds concept).Nodup := by
  have hnodup := nodup_map_firstWins id
    ((concept.products.getD []).filterMap fun product => product.id.bind ProductId.parse)
  rw [List.map_id] at hnodup
  simp only [browseCandidateIds, List.partition_eq_filter_filter]
  refine List.Nodup.sublist (List.take_sublist _ _) ?_
  exact (List.filter_append_perm _ _).nodup_iff.mpr hnodup

end PsStore
