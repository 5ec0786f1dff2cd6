import PsStore.Application.GameLookup
import PsStore.Application.RawPaging
import PsStore.Application.ReleaseLists
import PsStore.Lib.Except

set_option relaxedAutoImplicit false
set_option autoImplicit false

/-!
# Listed cards and their game pages

A card that a list shows leads to a game page. The lists filter, merge and resolve on one path,
and the game page searches the raw grids and proves a product on another; for fixed upstream
answers the two agree: the game page of a listed product card is never missing.

## Main definitions

* `Lookups.Listed` — a card on some page of a list.
* `Lookups.Known` — a product that a grid or the monthly list names, or that Sony proves a PS5 game.

## Main results

* `Lookups.Listed.known` — every listed product card is known.
* `Lookups.Known.gameById_ne_notFound` — a known product is never missing.
* `Lookups.listed_has_game_page` — both, for fixed upstream answers.
-/

namespace PsStore

namespace Lookups

variable {u : Lookups}

/-- The card is on some page of NEW, UPCOMING, DISCOUNTED, MONTHLY or BROWSE. -/
inductive Listed (u : Lookups) (card : Game) : Prop
  | release {window : Window} {page : Page} {result : PageResult}
      (hpage : u.releaseListing window page = .ok result) (hcard : card ∈ result.games)
  | discounted {page : Page} {result : PageResult}
      (hpage : u.discountedGames page = .ok result) (hcard : card ∈ result.games)
  | monthly {page : Page} {result : PageResult}
      (hpage : u.monthlyGames page = .ok result) (hcard : card ∈ result.games)
  | browse {genre : GenreKey} {order : BrowseOrder} {page : Page} {result : PageResult}
      (hpage : u.browseGames genre order page = .ok result) (hcard : card ∈ result.games)

/-- A product that a list names or that its strict detail proves a PS5 game. -/
inductive Known (u : Lookups) (p : ProductId) : Prop
  | grid {feature : SonyFeature} {concepts : List Concept} {concept : Concept}
      (hgrid : u.concepts feature = .ok concepts) (hconcept : concept ∈ concepts)
      (hnamed : conceptProductId concept = p.text)
  | monthly {entries : List PlusMonthlyEntry} {entry : PlusMonthlyEntry}
      (hentries : u.plusMonthly = .ok entries) (hentry : entry ∈ entries)
      (hnamed : entry.productId = p)
  | proved {detail : ProductDetail} (hdetail : u.strictDetail p = .ok detail)
      (hps5 : isPs5Game detail.platforms detail.storeDisplayClassification = true)

/-! ## The game page knows the product -/

/-- **A known product is never missing.** A list that names it does not miss, and a detail that
proves it does not disprove it.

**Proof sketch.** A missing game page means that every list misses and that no detail proves the
product (`gameById_eq_notFound_iff`). Each of the three ways to know a product contradicts one of
the two. -/
theorem Known.gameById_ne_notFound {p : ProductId} (h : u.Known p) (id' : GameId) :
    u.gameById p.toGameId ≠ .error (.notFound id') := by
  intro hmissing
  obtain ⟨-, hmissed, hnot⟩ := gameById_eq_notFound_iff.mp hmissing
  cases h with
  | grid hgrid hconcept hnamed => exact hmissed.not_named hgrid hconcept hnamed
  | @monthly entries entry hentries hentry hnamed =>
    have hlist : u.monthlyList = .ok (mapMonthlyToGames entries) :=
      monthlyList_eq_ok_iff.mpr ⟨entries, hentries, rfl⟩
    have hmem : .ok (mapMonthlyToGames entries) ∈ u.storeLists := by
      rw [← hlist]
      simp [storeLists]
    refine hmissed.ne_of_mem hmem (mem_mapMonthlyToGames_iff.mpr ⟨entry, hentry, rfl⟩) ?_
    rw [monthlyEntryToGame_id, hnamed]
  | @proved detail hdetail hps5 =>
    rcases hnot with hnone | ⟨q, detail', hq, hdetail', hfalse⟩
    · rw [ProductId.productId_toGameId] at hnone
      cases hnone
    · rw [ProductId.productId_toGameId] at hq
      cases hq
      rw [hdetail] at hdetail'
      cases hdetail'
      rw [hps5] at hfalse
      cases hfalse

/-! ## The lists know their products -/

/-- A card that a grid gives is known. -/
lemma Known.of_mem_mapConceptsToGames {feature : SonyFeature} {concepts : List Concept} {nowMs : ℤ}
    {card : Game} (hgrid : u.concepts feature = .ok concepts)
    (hcard : card ∈ mapConceptsToGames concepts nowMs) : ∃ p, card.id = p.toGameId ∧ u.Known p := by
  obtain ⟨concept, hconcept, p, hp, rfl⟩ := mem_mapConceptsToGames_iff.mp hcard
  exact ⟨p, rfl, .grid hgrid hconcept hp.symm⟩

/-- A card of the release list has the id and the kind of a card of one of the grids. -/
lemma exists_of_mem_releaseReference {released upcoming : List Concept} {card : Game}
    (h : card ∈ u.releaseReference released upcoming) :
    ∃ grid ∈ mapConceptsToGames released (u.clock .releaseGrids) ++
        mapUpcomingConceptsToGames upcoming (u.clock .releaseGrids),
      grid.id = card.id ∧ grid.idKind = card.idKind := by
  rcases List.mem_append.mp ((firstWins_sublist _ _).subset h) with hreleased | hupcoming
  · obtain ⟨hown, -⟩ := List.mem_filter.mp hreleased
    obtain ⟨i, hi, rfl⟩ := List.mem_mapIdx.mp hown
    exact ⟨_, List.mem_append_left _ (List.getElem_mem hi), rfl, rfl⟩
  · obtain ⟨i, hi, rfl⟩ := List.mem_mapIdx.mp hupcoming
    refine ⟨_, List.mem_append_right _ (List.getElem_mem hi), ?_⟩
    split_ifs <;> exact ⟨rfl, rfl⟩

/-- A product card of the release list is known. -/
lemma Known.of_releaseGames {games : List Game} {card : Game} (hgames : u.releaseGames = .ok games)
    (hcard : card ∈ games) (hkind : card.idKind = .product) :
    ∃ p, card.id = p.toGameId ∧ u.Known p := by
  cases hnew : u.concepts .new with
  | error e =>
    obtain ⟨e', he', -⟩ := u.releaseGames_of_failure (Or.inl ⟨e, hnew⟩)
    rw [he'] at hgames
    cases hgames
  | ok released =>
    cases hupcoming : u.concepts .upcoming with
    | error e =>
      obtain ⟨e', he', -⟩ := u.releaseGames_of_failure (Or.inr ⟨e, hupcoming⟩)
      rw [he'] at hgames
      cases hgames
    | ok upcoming =>
      rw [u.releaseGames_of_grids hnew hupcoming] at hgames
      cases hgames
      obtain ⟨grid, hgrid, hid, hgridKind⟩ := exists_of_mem_releaseReference hcard
      rw [← hid]
      rcases List.mem_append.mp hgrid with hreleased | hmem
      · exact Known.of_mem_mapConceptsToGames hnew hreleased
      · obtain ⟨p, hp⟩ := productId_of_mem_upcoming hmem (hgridKind.trans hkind)
        obtain ⟨concept, hconcept, id, hnamed, rfl⟩ := mem_mapUpcomingConceptsToGames_iff.mp hmem
        refine ⟨p, hp, .grid hupcoming hconcept ?_⟩
        rw [← hnamed]
        exact congrArg GameId.text hp

/-- A card of DISCOUNTED is known. -/
lemma Known.of_discountedList {games : List Game} {card : Game}
    (hgames : u.discountedList = .ok games) (hcard : card ∈ games) :
    ∃ p, card.id = p.toGameId ∧ u.Known p := by
  obtain ⟨concepts, i, grid, hconcepts, hgrid, rfl⟩ := u.exists_of_mem_discountedList hgames hcard
  obtain ⟨p, hp, hknown⟩ := Known.of_mem_mapConceptsToGames hconcepts hgrid
  exact ⟨p, hp, hknown⟩

/-- A card of MONTHLY is known. -/
lemma Known.of_monthlyList {games : List Game} {card : Game}
    (hgames : u.monthlyList = .ok games) (hcard : card ∈ games) :
    ∃ p, card.id = p.toGameId ∧ u.Known p := by
  obtain ⟨entries, hentries, rfl⟩ := monthlyList_eq_ok_iff.mp hgames
  obtain ⟨entry, hentry, rfl⟩ := mem_mapMonthlyToGames_iff.mp hcard
  exact ⟨entry.productId, rfl, .monthly hentries hentry rfl⟩

/-- A card of a BROWSE page is known. -/
lemma Known.of_browseGames {genre : GenreKey} {order : BrowseOrder} {page : Page}
    {result : PageResult} {card : Game} (hresult : u.browseGames genre order page = .ok result)
    (hcard : card ∈ result.games) : ∃ p, card.id = p.toGameId ∧ u.Known p := by
  obtain ⟨offset, concept, p, detail, hdetail, hps5, rfl⟩ :=
    u.exists_of_mem_browseGames hresult hcard
  exact ⟨p, rfl, .proved hdetail hps5⟩

/-- **Every listed product card is known.** -/
theorem Listed.known {card : Game} (h : u.Listed card) (hkind : card.idKind = .product) :
    ∃ p, card.id = p.toGameId ∧ u.Known p := by
  cases h with
  | release hpage hcard =>
    obtain ⟨games, hgames, hresult⟩ := bind_eq_ok hpage
    cases hresult
    exact Known.of_releaseGames hgames (Window.mem_of_mem_games (mem_of_mem_paginate hcard)) hkind
  | discounted hpage hcard =>
    obtain ⟨games, hgames, hresult⟩ := bind_eq_ok hpage
    cases hresult
    exact Known.of_discountedList hgames (mem_of_mem_paginate hcard)
  | monthly hpage hcard =>
    obtain ⟨games, hgames, hresult⟩ := bind_eq_ok hpage
    cases hresult
    exact Known.of_monthlyList hgames (mem_of_mem_paginate hcard)
  | browse hpage hcard => exact Known.of_browseGames hpage hcard

/-- What is known of a product does not depend on the clock nor on the order in which lookups
end. -/
lemma Known.of_catalog {sony : Catalog} {nowMs nowMs' : ℤ} {completion completion' : ℕ → ℕ → ℕ}
    {first first' : Bool} {p : ProductId}
    (h : (Lookups.ofCatalog sony nowMs completion first).Known p) :
    (Lookups.ofCatalog sony nowMs' completion' first').Known p := by
  cases h with
  | grid hgrid hconcept hnamed => exact .grid hgrid hconcept hnamed
  | monthly hentries hentry hnamed => exact .monthly hentries hentry hnamed
  | proved hdetail hps5 => exact .proved hdetail hps5

/-- **No listed card leads to a missing page.** For fixed upstream answers and a fixed time, the
game page of every product card on any page of NEW, UPCOMING, DISCOUNTED, MONTHLY or BROWSE is
never "not found", in whatever order the lookups of both requests end. -/
theorem listed_has_game_page (sony : Catalog) (nowMs : ℤ) (completion completion' : ℕ → ℕ → ℕ)
    (first first' : Bool) (card : Game)
    (hlisted : (Lookups.ofCatalog sony nowMs completion first).Listed card)
    (hkind : card.idKind = .product) (id' : GameId) :
    (Lookups.ofCatalog sony nowMs completion' first').gameById card.id ≠
      .error (.notFound id') := by
  obtain ⟨p, hp, hknown⟩ := hlisted.known hkind
  rw [hp]
  exact hknown.of_catalog.gameById_ne_notFound id'

/-- A store whose Upcoming grid alone names the sample product. -/
def announcingStore : Catalog :=
  { Catalog.empty with
    conceptsByFeature := fun feature _ _ =>
      .ok (if feature = .upcoming then [sampleConcept] else []) }

/-- The undated card of an upcoming product has a game page. -/
theorem listed_has_game_page_announced :
    announcingStore.lookups.gameById sampleProduct.toGameId ≠
      .error (.notFound sampleProduct.toGameId) := by
  let card := conceptToGame sampleConcept sampleProduct.toGameId 0
  have hpage : announcingStore.lookups.releaseListing .upcoming { offset := 0, size := 24 } =
      .ok { games := [card], totalCount := 1, nextOffset := none } := rfl
  exact listed_has_game_page announcingStore 0 (fun _ _ => 0) (fun _ _ => 0) false false card
    (.release hpage List.mem_cons_self) rfl sampleProduct.toGameId

end Lookups

end PsStore
