import PsStore.Domain.Listing
import PsStore.Lib.Except
import PsStore.Lib.SearchLists
import PsStore.Lib.Unordered

set_option relaxedAutoImplicit false
set_option autoImplicit false

/-!
# The store lookups behind the list and game routes

The functions of `application/games.rs`. A request sees the outside through its lookups: what each
cached lookup answers, in which order concurrent lookups end, and what the clock shows at each
reading. These are the fields of `Lookups`, so a fact about every `Lookups` is a fact about every
upstream behaviour and every interleaving.

A raw page of search or BROWSE is read by a function of its offset; the list of the offsets that a
request reads stands beside its answer.

## Main definitions

* `Lookups` — the lookups of one request; `Catalog`, `Lookups.ofCatalog` — those of fixed upstream
  answers and a fixed clock.
* `Lookups.releaseGames`, `releaseListing`, `discountedGames`, `monthlyGames` — the lists.
* `Lookups.searchGames`, `browseGames` — the answers that follow Sony's raw paging, by `rawPages`.
* `Lookups.gameById` — the game page.

## Main results

* `Lookups.enrichWithDetail_keeps` — the game page keeps the card's id and name, and its price
  fields where the card has a price.
* `Lookups.gameById_eq` — the game page as a search through the four lists in order.
-/

namespace PsStore

/-! ## The lookups of a request -/

/-- The places where a request reads the clock. -/
inductive Reading where
  | releaseGrids
  | releaseWindow
  | discountedGrid
  | searchPage (rawOffset : ℕ)
  | browsePage (rawOffset : ℕ)
  | gamePageGrid (feature : SonyFeature)
  | gamePageDetail
deriving DecidableEq

/-- What the lookups of one request answer. -/
structure Lookups where
  /-- The concepts of a grid list. -/
  concepts : SonyFeature → Except UpstreamError (List Concept)
  /-- The lenient product detail of the item at a place of its batch. -/
  detail : ℕ → ProductId → Except UpstreamError ProductDetail
  /-- The product detail of the product-id fallback and of BROWSE. -/
  strictDetail : ProductId → Except UpstreamError ProductDetail
  /-- The PS Plus offer and the standard price. -/
  price : ProductId → Except UpstreamError ProductPrice
  /-- The PS Plus monthly games. -/
  plusMonthly : Except UpstreamError (List PlusMonthlyEntry)
  /-- One raw search page. -/
  searchPage : String → ℕ → ℕ → Except UpstreamError SearchPage
  /-- One raw BROWSE page. -/
  browsePage : BrowseRequest → Except UpstreamError BrowsePage
  /-- Which running lookup of a batch ends next. A raw page is the batch of its offset. -/
  completion : ℕ → ℕ → ℕ
  /-- Where both grids of the release lists fail: the upcoming grid fails first. -/
  upcomingFailsFirst : Bool
  /-- The clock at each reading, in epoch milliseconds. -/
  clock : Reading → ℤ

/-! ## Constants -/

/-- NEW reads a wider window than the other grids. -/
def newListPageSize : ℕ := 300

/-- The window of the other grids. -/
def listPageSize : ℕ := 120

/-- Raw search pages read for one request when the pages narrow to zero games. -/
def searchRawPageBound : ℕ := 3

/-- Raw BROWSE pages read for one request when the pages narrow to zero games. -/
def browseRawPageBound : ℕ := 3

/-- Concurrent product detail lookups for one search page. -/
def searchDetailConcurrency : ℕ := 10

/-- Concurrent concept resolutions for one BROWSE page. -/
def browseDetailConcurrency : ℕ := 10

/-- Concurrent product detail lookups for one NEW, UPCOMING, or DISCOUNTED list. -/
def listDetailConcurrency : ℕ := 20

/-! ## Fixed upstream answers -/

/-- The anonymous Sony store operations: what each answers to its arguments. -/
structure Catalog where
  conceptsByFeature : SonyFeature → ℕ → ℕ → Except UpstreamError (List Concept)
  productDetail : ProductId → Except UpstreamError ProductDetail
  productPrice : ProductId → Except UpstreamError ProductPrice
  plusMonthly : Except UpstreamError (List PlusMonthlyEntry)
  searchPage : String → ℕ → ℕ → Except UpstreamError SearchPage
  browsePage : BrowseRequest → Except UpstreamError BrowsePage

/-- The size of the one grid window that a feature reads. -/
def featureSize : SonyFeature → ℕ
  | .new => newListPageSize
  | .upcoming | .discounted => listPageSize

/-- The lookups of a request to fixed upstream answers under a fixed clock. The lenient and the
strict detail ask the same operation. -/
def Lookups.ofCatalog (sony : Catalog) (nowMs : ℤ) (completion : ℕ → ℕ → ℕ)
    (upcomingFailsFirst : Bool) : Lookups where
  concepts := fun feature => sony.conceptsByFeature feature (featureSize feature) 0
  detail := fun _ productId => sony.productDetail productId
  strictDetail := sony.productDetail
  price := sony.productPrice
  plusMonthly := sony.plusMonthly
  searchPage := sony.searchPage
  browsePage := sony.browsePage
  completion := completion
  upcomingFailsFirst := upcomingFailsFirst
  clock := fun _ => nowMs

/-- A store that answers without a game. -/
def Catalog.empty : Catalog where
  conceptsByFeature := fun _ _ _ => .ok []
  productDetail := fun _ => .ok {}
  productPrice := fun _ => .ok {}
  plusMonthly := .ok []
  searchPage := fun _ _ _ => .ok { candidates := [], isLast := true, rawCount := 0 }
  browsePage := fun _ => .ok { concepts := [], isLast := true }

/-- The lookups of a store at the start of the epoch, where the lookup that started first ends
first. -/
def Catalog.lookups (sony : Catalog) : Lookups := .ofCatalog sony 0 (fun _ _ => 0) false

/-- The product id of the sample cards. -/
def sampleProduct : ProductId := ⟨"EP0001-PPSA00001_00-SAMPLEGAME000001", by decide⟩

/-- A grid concept that names the sample product. -/
def sampleConcept : Concept where
  name := some "Sample"
  products := some [{ id := some sampleProduct.text }]

/-! ## Product details of the lists -/

/-- The fields of a product detail that the lists read. -/
structure ProductMeta where
  /-- The release date in `toISOString` form, or the empty string. -/
  date : String
  /-- True when Sony gives a non-empty release date, valid or not. -/
  hasSonyDate : Bool
  classification : Option String
  genres : List String
  platforms : List String

/-- `ProductMeta::of`. -/
def ProductMeta.of (detail : ProductDetail) : ProductMeta where
  date := toIsoOrDefault detail.releaseDate
  hasSonyDate := detail.releaseDate.any fun text => text != ""
  classification := detail.storeDisplayClassification
  genres := detail.genres
  platforms := detail.platforms

/-- `try_join` of two lookups: both values, or the failure that comes first. -/
def tryJoin {ε α β : Type} (secondFailsFirst : Bool) :
    Except ε α → Except ε β → Except ε (α × β)
  | .ok a, .ok b => .ok (a, b)
  | .error e, .ok _ => .error e
  | .ok _, .error e => .error e
  | .error e, .error e' => .error (if secondFailsFirst then e' else e)

namespace Lookups

variable (u : Lookups)

/-- The lenient product detail of the item at place `i`: a failed lookup is an empty detail. -/
def lenientDetail (i : ℕ) (productId : ProductId) : ProductDetail :=
  match u.detail i productId with
  | .ok detail => detail
  | .error _ => {}

/-- The lenient detail of a card. A card whose id is no product id has the empty detail. -/
def cardDetail (i : ℕ) (id : GameId) : ProductDetail :=
  match id.productId with
  | some productId => u.lenientDetail i productId
  | none => {}

/-- The list fields of a card's detail. -/
def cardMeta (i : ℕ) (id : GameId) : ProductMeta := ProductMeta.of (u.cardDetail i id)

/-! ## The lists -/

/-- The card with the date of its own detail. -/
def enrichDate (i : ℕ) (game : Game) : Game := { game with date := (u.cardMeta i game.id).date }

/-- Every released card gets the product date; an upcoming concept card keeps its grid data. -/
def enrichReleaseCard (i : ℕ) (card : Bool × Game) : Game :=
  if card.1 || card.2.idKind == .product then u.enrichDate i card.2 else card.2

/-- NEW and UPCOMING read both the released and the upcoming grid. One bound covers the lookups of
both grids. -/
def releaseGames : Except UpstreamError (List Game) := do
  let (released, upcoming) ←
    tryJoin u.upcomingFailsFirst (u.concepts .new) (u.concepts .upcoming)
  let nowMs := u.clock .releaseGrids
  let released := mapConceptsToGames released nowMs
  let upcoming := mapUpcomingConceptsToGames upcoming nowMs
  let releasedCount := released.length
  let cards := released.map (true, ·) ++ upcoming.map (false, ·)
  let enriched :=
    inOrderBounded (u.completion 0) listDetailConcurrency u.enrichReleaseCard cards
  let upcoming := enriched.drop releasedCount
  let released := (enriched.take releasedCount).filter hasReleaseDate
  return mergeReleaseGrids released upcoming

end Lookups

/-- The release window of a list. -/
inductive Window where
  | new
  | upcoming
deriving DecidableEq

/-- The games of a window, in its order. -/
def Window.games (window : Window) (games : List Game) (nowMs : ℤ) : List Game :=
  match window with
  | .new => sortByDate (inNewWindow games nowMs) .dateDesc
  | .upcoming => sortByDate (inUpcomingWindow games nowMs) .dateAsc

/-- A window shows games of the list. -/
lemma Window.mem_of_mem_games {window : Window} {games : List Game} {nowMs : ℤ} {game : Game}
    (h : game ∈ window.games games nowMs) : game ∈ games := by
  cases window with
  | new => exact List.mem_of_mem_filter (mem_sortByDate.mp h)
  | upcoming => exact List.mem_of_mem_filter (mem_sortByDate.mp h)

namespace Lookups

variable (u : Lookups)

/-- NEW is newest first. UPCOMING is soonest first, with undated cards last in grid order. -/
def releaseListing (window : Window) (page : Page) : Except UpstreamError PageResult := do
  let games ← u.releaseGames
  return paginate (window.games games (u.clock .releaseWindow)) page.offset page.size

/-- The cards of DISCOUNTED with their metas, in grid order. -/
def discountedCards (concepts : List Concept) : List (Game × ProductMeta) :=
  inOrderBounded (u.completion 0) listDetailConcurrency
    (fun i game => (game, u.cardMeta i game.id))
    (mapConceptsToGames concepts (u.clock .discountedGrid))

/-- The whole DISCOUNTED list: full-game SKUs only, newest first. -/
def discountedList : Except UpstreamError (List Game) := do
  let concepts ← u.concepts .discounted
  let kept := (u.discountedCards concepts).filter fun card =>
    card.2.hasSonyDate && isGameClassification card.2.classification
  return sortByDate (kept.map fun card => { card.1 with date := card.2.date }) .dateDesc

/-- One page of DISCOUNTED. -/
def discountedGames (page : Page) : Except UpstreamError PageResult := do
  return paginate (← u.discountedList) page.offset page.size

/-- The cached MONTHLY list. -/
def monthlyList : Except UpstreamError (List Game) := u.plusMonthly.map mapMonthlyToGames

/-- One page of MONTHLY. -/
def monthlyGames (page : Page) : Except UpstreamError PageResult := do
  return paginate (← u.monthlyList) page.offset page.size

end Lookups

/-! ## Raw paging -/

/-- The games that one raw page gives, and Sony's flag of the last page. -/
structure RawPage where
  games : List Game
  isLast : Bool

/-- The loop over raw pages of one request: the raw offsets it reads, and its answer. A raw page
without games reads the next one as long as pages are left; `pagesLeft` counts the pages after
this one. `next_offset` follows Sony's raw paging, never the narrowed length. -/
def rawPages (readPage : ℕ → Except UpstreamError RawPage) (size : ℕ) :
    ℕ → ℕ → List ℕ × Except UpstreamError PageResult
  | pagesLeft, rawOffset =>
    match readPage rawOffset with
    | .error error => ([rawOffset], .error error)
    | .ok page =>
      let next := saturatingAdd rawOffset size
      let nextOffset := if page.isLast then none else some next
      let answer : PageResult :=
        { games := page.games, totalCount := page.games.length, nextOffset }
      match pagesLeft with
      | 0 => ([rawOffset], .ok answer)
      | pagesLeft + 1 =>
        if page.games = [] ∧ page.isLast = false then
          let (reads, result) := rawPages readPage size pagesLeft next
          (rawOffset :: reads, result)
        else ([rawOffset], .ok answer)

namespace Lookups

variable (u : Lookups)

/-- A candidate that Sony proved PS5 only by naming its product id is checked against the product
detail. -/
def resolveSearchCandidate (nowMs : ℤ) (i : ℕ) (candidate : SearchCandidate) : Option Game :=
  let (productId, concept, unverified) := match candidate with
    | .known productId concept => (productId, concept, false)
    | .unverified productId concept => (productId, concept, true)
  let base := conceptToGame concept productId.toGameId nowMs
  let fields := ProductMeta.of (u.lenientDetail i productId)
  if unverified && !isPs5Game fields.platforms fields.classification then none
  else some
    { base with
      date := fields.date
      genres := if fields.genres = [] then base.genres else fields.genres }

/-- The games of a search page after the scope check, in Sony's order. -/
def searchPageGames (rawOffset : ℕ) (found : SearchPage) : List Game :=
  (inOrderBounded (u.completion rawOffset) searchDetailConcurrency
    (u.resolveSearchCandidate (u.clock (.searchPage rawOffset))) found.candidates).filterMap
    fun game => game

/-- One raw search page with its lookups. -/
def readSearchPage (term : String) (size rawOffset : ℕ) : Except UpstreamError RawPage := do
  let found ← u.searchPage term rawOffset size
  return { games := u.searchPageGames rawOffset found, isLast := found.isLast }

/-- The raw offsets that one search request reads, and its answer. -/
def searchReads (term : String) (page : Page) : List ℕ × Except UpstreamError PageResult :=
  rawPages (u.readSearchPage term page.size) page.size (searchRawPageBound - 1) page.offset

/-- One search result page. -/
def searchGames (term : String) (page : Page) : Except UpstreamError PageResult :=
  (u.searchReads term page).2

end Lookups

/-- The outcome of one BROWSE concept. -/
inductive BrowseResolution where
  | game (game : Game)
  | dropped
  | failed
deriving DecidableEq

/-- The game of an outcome. -/
def BrowseResolution.toGame : BrowseResolution → Option Game
  | game card => some card
  | dropped | failed => none

namespace Lookups

variable (u : Lookups)

/-- Tries the candidate products of a BROWSE concept in order. The first whose detail proves a PS5
game becomes the card; a failed lookup fails the concept. -/
def resolveCandidates (concept : Concept) (nowMs : ℤ) : List ProductId → BrowseResolution
  | [] => .dropped
  | productId :: rest =>
    match u.strictDetail productId with
    | .error _ => .failed
    | .ok detail =>
      if isPs5Game detail.platforms detail.storeDisplayClassification then
        .game (browseConceptToGame concept productId (detail.releaseDate.getD "") detail.genres
          nowMs)
      else resolveCandidates concept nowMs rest

/-- The outcome of one BROWSE concept. -/
def resolveBrowseConcept (nowMs : ℤ) (concept : Concept) : BrowseResolution :=
  u.resolveCandidates concept nowMs (browseCandidateIds concept)

/-- The outcomes of the concepts of a BROWSE page, in Sony's order. -/
def browseResolutions (rawOffset : ℕ) (page : BrowsePage) : List BrowseResolution :=
  inOrderBounded (u.completion rawOffset) browseDetailConcurrency
    (fun _ concept => u.resolveBrowseConcept (u.clock (.browsePage rawOffset)) concept)
    page.concepts

end Lookups

/-- The failure of a BROWSE page whose product lookups failed and left no game. -/
def browseLookupsFailed : UpstreamError :=
  .unavailable "Sony product lookups failed for a browse page"

/-- The games of the outcomes of one BROWSE page. When no concept resolves and a lookup failed,
the page fails, so an outage never reads as an empty genre. -/
def browseRawPage (isLast : Bool) (resolved : List BrowseResolution) :
    Except UpstreamError RawPage :=
  let failed := resolved.countP (· = .failed)
  let games := firstWins Game.id (resolved.filterMap BrowseResolution.toGame)
  if 0 < failed ∧ games = [] then .error browseLookupsFailed else .ok { games, isLast }

/-- A BROWSE page that succeeds has the games of its outcomes, and no failed outcome where it has
no game. -/
lemma browseRawPage_eq_ok {isLast : Bool} {resolved : List BrowseResolution} {raw : RawPage}
    (h : browseRawPage isLast resolved = .ok raw) :
    raw.games = firstWins Game.id (resolved.filterMap BrowseResolution.toGame) ∧
      raw.isLast = isLast ∧ (raw.games = [] → .failed ∉ resolved) := by
  unfold browseRawPage at h
  dsimp only at h
  split_ifs at h with hfailed
  rw [← Except.ok.inj h]
  refine ⟨rfl, rfl, fun hempty hmem => hfailed ⟨?_, hempty⟩⟩
  exact List.countP_pos_iff.mpr ⟨.failed, hmem, by simp⟩

namespace Lookups

variable (u : Lookups)

/-- One raw BROWSE page with its lookups. -/
def readBrowseRawPage (genre : GenreKey) (order : BrowseOrder) (size rawOffset : ℕ) :
    Except UpstreamError RawPage := do
  let page ← u.browsePage { genre, order, offset := rawOffset, size }
  browseRawPage page.isLast (u.browseResolutions rawOffset page)

/-- The raw offsets that one BROWSE request reads, and its answer. -/
def browseReads (request : BrowseRequest) : List ℕ × Except UpstreamError PageResult :=
  rawPages (u.readBrowseRawPage request.genre request.order request.size) request.size
    (browseRawPageBound - 1) request.offset

/-- One BROWSE page. -/
def readBrowsePage (request : BrowseRequest) : Except UpstreamError PageResult :=
  (u.browseReads request).2

/-- One BROWSE page of a genre and an order. -/
def browseGames (genre : GenreKey) (order : BrowseOrder) (page : Page) :
    Except UpstreamError PageResult :=
  u.readBrowsePage { genre, order, offset := page.offset, size := page.size }

/-! ## The game page -/

/-- The price of a product. A failed lookup leaves the page without a price. -/
def priceOrNone (productId : ProductId) : ProductPrice :=
  match u.price productId with
  | .ok price => price
  | .error _ => {}

/-- The PS Plus offer and the standard price of a product card. -/
def cardPrice (game : Game) : ProductPrice :=
  if game.idKind ≠ IdKind.product then {}
  else match game.id.productId with
    | none => {}
    | some productId => u.priceOrNone productId

/-- The game page of a list card. -/
def enrichWithDetail (game : Game) : Game :=
  let detail := u.cardDetail 0 game.id
  let price := u.cardPrice game
  let game := match game.id.productId with
    | some productId =>
      if game.idKind = IdKind.product then
        fillCardFromDetail game
          (productDetailToGame productId detail price.standard (u.clock .gamePageDetail))
      else game
    | none => game
  { game with
    date := match detail.releaseDate with
      | none => game.date
      | some text => toIsoOrDefault (some text)
    genres := if detail.genres = [] then game.genres else detail.genres
    description := if detail.description = "" then game.description else detail.description
    studio := detail.publisherName.getD game.studio
    plusOffer := price.plusOffer }

/-- The game of a product id in the UPCOMING or DISCOUNTED grid. A failure propagates. -/
def findInFeature (feature : SonyFeature) (id : GameId) :
    Except UpstreamError (Option Game) := do
  let concepts ← u.concepts feature
  let found := concepts.filter fun concept => conceptProductId concept == id.text
  return (mapConceptsToGames found (u.clock (.gamePageGrid feature))).find? (·.id = id)

/-- The first of the features in which a game is found. -/
def findInFeatures (id : GameId) : List SonyFeature → Except UpstreamError (Option Game)
  | [] => return none
  | feature :: rest => do
    match ← u.findInFeature feature id with
    | some game => return some game
    | none => findInFeatures id rest

end Lookups

/-- The failure of a PS5 product that Sony returned without a name. -/
def productWithoutName : UpstreamError :=
  .unavailable "Sony returned a PS5 product without a name"

/-- A lookup whose failure is a failure of the game page. -/
def upstream {α : Type} : Except UpstreamError α → Except GameLookupError α
  | .ok a => .ok a
  | .error error => .error (.upstream error)

namespace Lookups

variable (u : Lookups)

/-- Runs only after every list missed. An upstream failure propagates; only a valid id that Sony
proves is not a PS5 game is not found. The price never fails, so the failure of the joined lookups
is the failure of the detail. -/
def byProductId (id : GameId) : Except GameLookupError Game := do
  match id.productId with
  | none => throw (.notFound id)
  | some productId =>
    let detail ← upstream (u.strictDetail productId)
    let price := u.priceOrNone productId
    if detail.platforms = [] ∨
        isPs5Game detail.platforms detail.storeDisplayClassification = false then
      throw (.notFound id)
    if detail.name = none then throw (.upstream productWithoutName)
    return { productDetailToGame productId detail price.standard (u.clock .gamePageDetail) with
      description := detail.description
      plusOffer := price.plusOffer }

/-- The game of an id: the lists in the order New, Upcoming, Discounted, monthly, then the product
itself. -/
def gameById (id : GameId) : Except GameLookupError Game := do
  let released ← upstream (u.concepts .new)
  let base := (mapConceptsToGames released (u.clock (.gamePageGrid .new))).find? (·.id = id)
  if let some game := base then return u.enrichWithDetail game
  if let some game ← upstream (u.findInFeatures id [.upcoming, .discounted]) then
    return u.enrichWithDetail game
  let monthly ← upstream u.monthlyList
  if let some game := monthly.find? (·.id = id) then return u.enrichWithDetail game
  u.byProductId id

/-! ## Facts about the game page -/

/-- The product cards of a grid, at the clock reading of the game page. -/
def gridCards (feature : SonyFeature) : Except UpstreamError (List Game) :=
  (u.concepts feature).map (mapConceptsToGames · (u.clock (.gamePageGrid feature)))

/-- The cards of the four lists that the game page searches, in order. -/
def storeLists : List (Except UpstreamError (List Game)) :=
  u.gridCards .new :: ([.upcoming, .discounted].map u.gridCards ++ [u.monthlyList])

/-- The cards of DISCOUNTED, place by place: bounded lookups keep the order of the grid. -/
lemma discountedCards_eq (concepts : List Concept) :
    u.discountedCards concepts =
      (mapConceptsToGames concepts (u.clock .discountedGrid)).mapIdx
        fun i game => (game, u.cardMeta i game.id) :=
  inOrderBounded_eq _ _ (show 1 ≤ listDetailConcurrency by decide) _

/-- A card of DISCOUNTED is a card of its grid, with the date of its detail. -/
lemma exists_of_mem_discountedList {games : List Game} {card : Game}
    (hgames : u.discountedList = .ok games) (hcard : card ∈ games) :
    ∃ concepts i grid, u.concepts .discounted = .ok concepts ∧
      grid ∈ mapConceptsToGames concepts (u.clock .discountedGrid) ∧
      card = { grid with date := (u.cardMeta i grid.id).date } := by
  obtain ⟨concepts, hconcepts, hkept⟩ := bind_eq_ok hgames
  rw [← Except.ok.inj hkept, mem_sortByDate] at hcard
  obtain ⟨pair, hpair, rfl⟩ := List.mem_map.mp hcard
  obtain ⟨hpair, -⟩ := List.mem_filter.mp hpair
  rw [discountedCards_eq] at hpair
  obtain ⟨i, hi, rfl⟩ := List.mem_mapIdx.mp hpair
  exact ⟨concepts, i, _, hconcepts, List.getElem_mem hi, rfl⟩

variable {u} in
/-- MONTHLY is listed exactly where its feed is read. -/
lemma monthlyList_eq_ok_iff {games : List Game} :
    u.monthlyList = .ok games ↔
      ∃ entries, u.plusMonthly = .ok entries ∧ mapMonthlyToGames entries = games :=
  map_eq_ok_iff

variable {u} in
/-- A grid is searched exactly where its concepts are read. -/
lemma gridCards_eq_ok_iff {feature : SonyFeature} {cards : List Game} :
    u.gridCards feature = .ok cards ↔ ∃ concepts, u.concepts feature = .ok concepts ∧
      mapConceptsToGames concepts (u.clock (.gamePageGrid feature)) = cards :=
  map_eq_ok_iff

variable {u} in
/-- The card of a BROWSE concept is that of a candidate whose detail proves a PS5 game. -/
lemma exists_of_resolveCandidates_eq_game {concept : Concept} {nowMs : ℤ} {ids : List ProductId}
    {card : Game} (h : u.resolveCandidates concept nowMs ids = .game card) :
    ∃ p detail, u.strictDetail p = .ok detail ∧
      isPs5Game detail.platforms detail.storeDisplayClassification = true ∧
      browseConceptToGame concept p (detail.releaseDate.getD "") detail.genres nowMs = card := by
  induction ids with
  | nil => cases h
  | cons id ids ih =>
    rw [resolveCandidates] at h
    cases hdetail : u.strictDetail id with
    | error e =>
      rw [hdetail] at h
      cases h
    | ok detail =>
      rw [hdetail] at h
      dsimp only at h
      split_ifs at h with hps5
      · exact ⟨id, detail, hdetail, hps5, BrowseResolution.game.inj h⟩
      · exact ih h

/-- Searching the concepts that name an id finds the same card as searching the whole grid: the
cards of the other concepts have other ids. -/
lemma find?_mapConceptsToGames_filter (concepts : List Concept) (nowMs : ℤ) (id : GameId) :
    (mapConceptsToGames (concepts.filter fun concept => conceptProductId concept == id.text)
      nowMs).find? (·.id = id) = (mapConceptsToGames concepts nowMs).find? (·.id = id) := by
  induction concepts with
  | nil => rfl
  | cons concept concepts ih =>
    unfold mapConceptsToGames at ih ⊢
    by_cases hid : conceptProductId concept = id.text
    · rw [List.filter_cons_of_pos (by simpa using hid)]
      cases hcard : productCard nowMs concept with
      | none => simpa only [List.filterMap_cons_none hcard] using ih
      | some game =>
        simp only [List.filterMap_cons_some hcard, List.find?_cons, ih]
    · rw [List.filter_cons_of_neg (by simpa using hid), ih]
      cases hcard : productCard nowMs concept with
      | none => rw [List.filterMap_cons_none hcard]
      | some game =>
        obtain ⟨p, hp, rfl⟩ := productCard_eq_some_iff.mp hcard
        have hne : decide ((conceptToGame concept p.toGameId nowMs).id = id) = false := by
          apply decide_eq_false
          rintro rfl
          exact hid hp.symm
        rw [List.filterMap_cons_some hcard, List.find?_cons, hne]

/-- The search of one feature is the search of its whole grid. -/
lemma findInFeature_eq (feature : SonyFeature) (id : GameId) :
    u.findInFeature feature id = (u.gridCards feature).map (List.find? (·.id = id)) := by
  unfold findInFeature gridCards
  cases u.concepts feature with
  | error e => rfl
  | ok concepts =>
    exact congrArg Except.ok (find?_mapConceptsToGames_filter concepts _ id)

/-- The search of some features is the search of their grids. -/
lemma findInFeatures_eq (id : GameId) (features : List SonyFeature) :
    u.findInFeatures id features = searchLists (·.id = id) (features.map u.gridCards) := by
  induction features with
  | nil => rfl
  | cons feature features ih =>
    rw [findInFeatures, findInFeature_eq, ih, List.map_cons]
    cases u.gridCards feature with
    | error e => rfl
    | ok games =>
      simp only [Except.map, searchLists]
      cases games.find? (·.id = id) <;> rfl

/-- **The game page is a search through the four lists**, and the product itself where every list
misses.

**Proof sketch.** The code reads NEW, UPCOMING and DISCOUNTED and then the feed, and stops at the
first failure or hit; so does the search through the four lists, which is a search through the first
one and then through the others (`searchLists_append_eq`). -/
theorem gameById_eq (id : GameId) :
    u.gameById id =
      match searchLists (·.id = id) u.storeLists with
      | .error e => .error (.upstream e)
      | .ok (some game) => .ok (u.enrichWithDetail game)
      | .ok none => u.byProductId id := by
  unfold gameById storeLists
  rw [findInFeatures_eq]
  cases hnew : u.concepts .new with
  | error e => simp only [gridCards, hnew]; rfl
  | ok released =>
    have hgrid : u.gridCards .new =
        .ok (mapConceptsToGames released (u.clock (.gamePageGrid .new))) := by
      rw [gridCards, hnew]
      rfl
    rw [hgrid, searchLists, searchLists_append_eq]
    dsimp only [upstream, bind, Except.bind]
    cases (mapConceptsToGames released (u.clock (.gamePageGrid .new))).find? (·.id = id) with
    | some game => rfl
    | none =>
      cases searchLists (·.id = id) ([.upcoming, .discounted].map u.gridCards) with
      | error e => rfl
      | ok found =>
        cases found with
        | some game => rfl
        | none =>
          cases u.monthlyList with
          | error e => rfl
          | ok monthly =>
            simp only [searchLists]
            cases monthly.find? (·.id = id) <;> rfl

/-- **The game page keeps the card.** It keeps the id, the name and the kind, and the price fields
of a card with a price. -/
theorem enrichWithDetail_keeps (game : Game) :
    (u.enrichWithDetail game).id = game.id ∧ (u.enrichWithDetail game).name = game.name ∧
      (u.enrichWithDetail game).idKind = game.idKind ∧
      (game.price ≠ "" →
        (u.enrichWithDetail game).price = game.price ∧
        (u.enrichWithDetail game).originalPrice = game.originalPrice ∧
        (u.enrichWithDetail game).discountText = game.discountText ∧
        (u.enrichWithDetail game).discountDate = game.discountDate) := by
  unfold enrichWithDetail
  cases game.id.productId with
  | none => exact ⟨rfl, rfl, rfl, fun _ => ⟨rfl, rfl, rfl, rfl⟩⟩
  | some productId =>
    dsimp only
    split_ifs with hkind
    · obtain ⟨hid, hname, hidKind, hprice⟩ := fillCardFromDetail_keeps game
        (productDetailToGame productId (u.cardDetail 0 game.id) (u.cardPrice game).standard
          (u.clock .gamePageDetail))
      exact ⟨hid, hname, hidKind, hprice⟩
    · exact ⟨rfl, rfl, rfl, fun _ => ⟨rfl, rfl, rfl, rfl⟩⟩

/-- The game page of a product id that no list holds, by the outcome of the strict detail. -/
lemma byProductId_of_productId {id : GameId} {p : ProductId} (hp : id.productId = some p) :
    u.byProductId id =
      match u.strictDetail p with
      | .error e => .error (.upstream e)
      | .ok detail =>
        if isPs5Game detail.platforms detail.storeDisplayClassification = false then
          .error (.notFound id)
        else if detail.name = none then .error (.upstream productWithoutName)
        else .ok
          { productDetailToGame p detail (u.priceOrNone p).standard (u.clock .gamePageDetail) with
            description := detail.description
            plusOffer := (u.priceOrNone p).plusOffer } := by
  unfold byProductId
  rw [hp]
  dsimp only
  cases u.strictDetail p with
  | error e => rfl
  | ok detail =>
    dsimp only [upstream, bind, Except.bind]
    by_cases hps5 : isPs5Game detail.platforms detail.storeDisplayClassification = false
    · rw [if_pos (Or.inr hps5), if_pos hps5]
      rfl
    · have hplatforms : ¬(detail.platforms = [] ∨
          isPs5Game detail.platforms detail.storeDisplayClassification = false) := by
        rintro (hnil | hfalse)
        · exact hps5 (by rw [hnil]; rfl)
        · exact hps5 hfalse
      rw [if_neg hplatforms, if_neg hps5]
      by_cases hname : detail.name = none
      · rw [if_pos hname, if_pos hname]
        rfl
      · rw [if_neg hname, if_neg hname]
        rfl

/-- **When the product itself is not found.** The id is no product id, or Sony proves that the
product is not a PS5 game.

**Proof sketch.** The branches of the code: an id that is no product id is not found; a detail that
fails is passed on; a detail that is no PS5 game is not found; and the two others end in another
way. -/
theorem byProductId_eq_notFound_iff {id id' : GameId} :
    u.byProductId id = .error (.notFound id') ↔ id' = id ∧
      (id.productId = none ∨ ∃ p detail, id.productId = some p ∧ u.strictDetail p = .ok detail ∧
        isPs5Game detail.platforms detail.storeDisplayClassification = false) := by
  cases hp : id.productId with
  | none =>
    have hmissing : u.byProductId id = .error (.notFound id) := by
      unfold byProductId
      rw [hp]
      rfl
    rw [hmissing]
    constructor
    · intro h
      cases h
      exact ⟨rfl, Or.inl rfl⟩
    · intro h
      obtain ⟨rfl, -⟩ := h
      rfl
  | some p =>
    rw [u.byProductId_of_productId hp]
    cases hdetail : u.strictDetail p with
    | error e => simp [hdetail]
    | ok detail =>
      dsimp only
      split_ifs with hps5 hname
      · constructor
        · intro h
          cases h
          exact ⟨rfl, Or.inr ⟨p, detail, rfl, hdetail, hps5⟩⟩
        · intro h
          obtain ⟨rfl, -⟩ := h
          rfl
      · simp [hdetail, hps5]
      · simp [hdetail, hps5]

end Lookups

end PsStore
