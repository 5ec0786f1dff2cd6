import PsStore.Lib.FirstWins
import PsStore.Web.ListView

set_option relaxedAutoImplicit false
set_option autoImplicit false

/-!
# The views with a sort bar

The views of `components/SearchResults.tsx` and `components/SignedInList.tsx`, and what every view
with a sort bar makes of the sort of the shell. The pages of a list may be read at different times,
while the list on the server changes.

## Main definitions

* `Web.searchScreen` — what the search view shows for its query.
* `Web.signedInScreen` — what the view of a signed-in list shows for its query.

## Main results

* `Web.shown_in_active_order` — every view shows its games in the order that its sort bar names, or
  page by page in this order where it takes the order of the server.
-/

namespace PsStore

namespace Web

variable {δ : Type}

/-! ## The search view -/

/-- What the search view shows. -/
structure SearchScreen where
  heading : Bool
  refreshNote : Bool
  status : Option JsString
  retry : Bool
  offline : Bool
  spinner : Bool
  /-- The cards, and whether the grid asks for more. -/
  grid : Option (List Game × Bool)
  nextPageError : Bool

/-- `countLabel`. -/
def countLabel (count : ℕ) : String :=
  toString count ++ " PS5 " ++ (if count = 1 then "game" else "games") ++ " found"

section

variable (browser : Browser δ) (toLowerCase : JsString → JsString) [LinearOrder δ]

/-- The search view. A game that two pages hold is shown once. The grid is held until every page is
loaded where a sort applies, and until a game is found. -/
def searchScreen (data : ListQuery) (paused : Bool) (term : JsString) (sort : Option GameSort) :
    SearchScreen :=
  let unique := firstWins Game.id ((data.pages.getD []).flatMap PageResult.games)
  let games := sort.elim unique (sortGames browser unique)
  let hasNext := data.pages.any hasNextPage
  let nextPageError := match data with
    | .nextPageFailed _ => true
    | _ => false
  let pending := match data with
    | .pending => true
    | _ => false
  let failed := match data with
    | .failed => true
    | _ => false
  let awaitingMore := hasNext && (unique.isEmpty || sort.isSome)
  let empty := data.pages.isSome && games.isEmpty && !hasNext
  let showResults := !games.isEmpty && !awaitingMore
  let loadingMore := awaitingMore && !nextPageError
  { heading := showResults
    refreshNote := match data with
      | .refreshFailed _ => true
      | _ => false
    status :=
      bif failed then some (toUtf16 "Search failed".toList)
      else bif empty then
        some (toUtf16 "No PS5 games found for \"".toList ++ term ++ toUtf16 ['"'])
      else bif showResults then some (toUtf16 (countLabel games.length).toList)
      else none
    retry := failed
    offline := (pending || loadingMore) && paused
    spinner := (pending || loadingMore) && !paused
    grid := if showResults then some (games, hasNext) else none
    nextPageError := nextPageError }

/-! ## The signed-in views -/

/-- The state of the query of a signed-in list. A failed refresh is a failure. -/
inductive SignedInQuery where
  | pending
  /-- The status of the failure, where there was an answer. -/
  | failed (status : Option ℕ)
  | loaded (games : List Game)

/-- What the view of a signed-in list shows. -/
inductive SignedInScreen where
  | offline
  | spinner
  | signIn
  | failure (message : String)
  | empty (message : String)
  /-- The cards, and the term of the tile that searches the store. -/
  | grid (games : List Game) (searchAll : Option JsString)

/-- The view of a signed-in list. A rejection shows the sign-in form. -/
def signedInScreen (failureMessage emptyMessage : String) (data : SignedInQuery) (paused : Bool)
    (query : JsString) (sort : Option GameSort) : SignedInScreen :=
  match data with
  | .pending => if paused then .offline else .spinner
  | .failed status => if status = some 401 then .signIn else .failure failureMessage
  | .loaded games =>
    let filtered := filterGamesByName toLowerCase games query
    let ordered := sort.elim filtered (sortGames browser filtered)
    let term := normalizeSearchTerm query
    if filtered = [] ∧ term = [] then .empty emptyMessage
    else .grid ordered (if term = [] then none else some term)

end

/-! ## The order of the cards -/

variable {browser : Browser δ} {toLowerCase : JsString → JsString} [LinearOrder δ]

/-- **The grid of the search view**: the games of the loaded pages, each once, sorted or as they
are, and a sort covers every page. -/
lemma eq_of_grid_searchScreen {data : ListQuery} {paused : Bool} {term : JsString}
    {sort : Option GameSort} {cards : List Game} {more : Bool}
    (h : (searchScreen browser data paused term sort).grid = some (cards, more)) :
    ∃ pages, data.pages = some pages ∧
      cards = sort.elim (firstWins Game.id (pages.flatMap PageResult.games))
        (sortGames browser (firstWins Game.id (pages.flatMap PageResult.games))) ∧
      more = hasNextPage pages ∧ (sort.isSome = true → more = false) := by
  unfold searchScreen at h
  dsimp only at h
  split_ifs at h with hshown
  obtain ⟨rfl, rfl⟩ := Prod.mk.inj (Option.some.inj h)
  rw [Bool.and_eq_true] at hshown
  obtain ⟨hgames, hwait⟩ := hshown
  cases hpages : data.pages with
  | none =>
    -- without a page there is no card
    rw [hpages] at hgames
    cases sort <;> cases hgames
  | some pages =>
    refine ⟨pages, rfl, rfl, rfl, ?_⟩
    intro hsort
    rw [hsort, Bool.or_true, Bool.and_true, hpages] at hwait
    simpa using hwait

/-- **The grid of a signed-in list**: the filtered games, sorted or as they are. -/
lemma eq_of_signedInScreen_eq_grid {failureMessage emptyMessage : String} {data : SignedInQuery}
    {paused : Bool} {query : JsString} {sort : Option GameSort} {cards : List Game}
    {searchAll : Option JsString}
    (h : signedInScreen browser toLowerCase failureMessage emptyMessage data paused query sort =
      .grid cards searchAll) :
    ∃ games, data = .loaded games ∧
      cards = sort.elim (filterGamesByName toLowerCase games query)
        (sortGames browser (filterGamesByName toLowerCase games query)) := by
  unfold signedInScreen at h
  split at h
  · split_ifs at h
  · split_ifs at h
  · next games =>
    dsimp only at h
    split_ifs at h <;> cases h <;> exact ⟨games, rfl, rfl⟩

/-- The filter that the shell gives to its view. -/
def Shell.searchQuery (s : Shell) : JsString :=
  if s.location.pathname = "/search".toList then [] else s.view.query

/-- The views that take no order of the server. -/
def ownOrderPaths : List (List Char) :=
  ["/search".toList, "/purchased".toList, "/wishlist".toList]

/-- **A view without the order of the server** gets the sort of its bar. -/
lemma Shell.Inv.appliedSort_of_ownOrder {s : Shell} (hs : s.Inv)
    (hpath : s.location.pathname ∈ ownOrderPaths) :
    ∃ config active, s.sortConfig = some config ∧ s.activeSort = some active ∧
      active.field ∈ config.fields ∧ s.appliedSort = some active := by
  have hconfig : ∀ path ∈ ownOrderPaths, ∃ config, sortConfigForPath path = some config ∧
      config.serverOrdered = false := by
    intro path hmem
    simp only [ownOrderPaths, List.mem_cons, List.not_mem_nil, or_false] at hmem
    rcases hmem with rfl | rfl | rfl <;> exact ⟨_, rfl, rfl⟩
  obtain ⟨config, hbar, hserver⟩ := hconfig _ hpath
  obtain ⟨active, hactive, hoffered, happlied⟩ := hs.appliedSort hbar
  refine ⟨config, active, hbar, (hs.activeSort hbar).trans hactive, hoffered, ?_⟩
  rw [happlied, if_neg]
  rintro ⟨htrue, -⟩
  rw [hserver] at htrue
  cases htrue

/-- **The view of a feature** gets the sort of its bar, but the order of the server where the bar
names this order. -/
lemma Shell.Inv.appliedSort_of_feature {s : Shell} (hs : s.Inv) {feature : GamesFeature}
    (hpath : s.location.pathname = feature.path) :
    ∃ config active, s.sortConfig = some config ∧ s.activeSort = some active ∧
      active.field ∈ config.fields ∧
      (s.appliedSort = some active ∨
        s.appliedSort = none ∧ active = ⟨.date, feature.order.direction⟩) := by
  obtain ⟨config, hconfig, hserver, hdefault⟩ := sortConfigForPath_path feature
  have hbar : s.sortConfig = some config := by
    unfold Shell.sortConfig
    rw [hpath, hconfig]
  obtain ⟨active, hactive, hoffered, happlied⟩ := hs.appliedSort hbar
  refine ⟨config, active, hbar, (hs.activeSort hbar).trans hactive, hoffered, ?_⟩
  rw [happlied]
  split_ifs with hboth
  · exact Or.inr ⟨rfl, hboth.2.trans hdefault⟩
  · exact Or.inl rfl

/-- **The order of a grid of cards**, with the active sort of the bar and the sort that the view
gets. -/
structure InActiveOrder (browser : Browser δ) (toLowerCase : JsString → JsString)
    (feature : GamesFeature) (boundaryMs : ℤ) (pages : List PageResult) (query : JsString)
    (active : GameSort) (applied : Option GameSort) (cards : List Game) (more : Bool) : Prop where
  /-- A sort covers all loaded pages, and there are no others. -/
  sorted : applied ≠ none → more = false ∧ cards = sortGames browser
    (filteredGames browser toLowerCase feature boundaryMs pages query) active
  /-- Without a sort the pages follow each other, and each page of a list of the server is in the
  active order, also where the list changed between the pages. -/
  served : applied = none →
    (∀ page ∈ pages, ∃ u : Lookups, ∃ window, u.featureGames feature window = .ok page) →
    cards = pages.flatMap fun page => sortGames browser
      (filteredGames browser toLowerCase feature boundaryMs [page] query) active
  /-- Pages of one list are in the active order as a whole, and they are the whole list where the
  grid asks for no more. -/
  whole : ∀ (u : Lookups) (games : List Game) (fuel : ℕ) (left : Option ℕ),
    u.featureList feature = .ok games → games.length ≤ usizeMax → pages ≠ [] →
    follow (fun offset => u.featureGames feature ⟨offset, pageSize⟩) getNextPageParam fuel 0 =
      .ok (pages, left) →
    cards = sortGames browser
        (filteredGames browser toLowerCase feature boundaryMs pages query) active ∧
      (more = false → cards = sortGames browser (filterGamesByName toLowerCase
        (splitByReleaseDay browser.dateParse feature games boundaryMs) query) active)

/-- **The grid of a feature is in the order of its bar.**

**Proof sketch.** A sort is the active one (`Shell.Inv.appliedSort_of_feature`), and it covers every
page (`eq_of_gamesScreen_eq_grid`). Without a sort the active order is the default one, in which the
server gives its lists (`sorted_featureList`): a part of one list is its own sorted copy
(`sortGames_of_sublist`), a page of each list or the pages of one list. -/
lemma inActiveOrder_gamesScreen
    (hiso : ∀ ms text, toIsoString ms = some text → browser.dateParse text = some ms)
    (hempty : browser.dateParse "" = none) {feature : GamesFeature} {active : GameSort}
    {applied : Option GameSort} (happlied : applied = some active ∨
      applied = none ∧ active = ⟨.date, feature.order.direction⟩)
    {emptyMessage : String} {boundaryMs : ℤ} {data : ListQuery} {pages : List PageResult}
    {paused : Bool} {query : JsString} {cards : List Game} {refreshNote : Bool}
    {searchAll : Option JsString} {more : Bool}
    (hdata : data = .loaded pages ∨ data = .refreshFailed pages)
    (hscreen : gamesScreen browser toLowerCase feature emptyMessage boundaryMs data paused query
      applied = .grid cards refreshNote searchAll more) :
    InActiveOrder browser toLowerCase feature boundaryMs pages query active applied cards more := by
  obtain ⟨hcards, hmore, hcovers⟩ := eq_of_gamesScreen_eq_grid hdata hscreen
  have hsorted : applied = some active → cards = sortGames browser
      (filteredGames browser toLowerCase feature boundaryMs pages query) active := by
    rintro rfl
    exact hcards
  refine ⟨?_, ?_, ?_⟩
  · intro hsome
    refine ⟨hmore.trans (hcovers (Option.isSome_iff_ne_none.mpr hsome)), hsorted ?_⟩
    exact happlied.resolve_right fun hnone => hsome hnone.1
  · rintro rfl hpages
    obtain ⟨-, rfl⟩ := happlied.resolve_left nofun
    rw [hcards, Option.elim_none, filteredGames_flatMap]
    apply List.flatMap_congr
    intro page hpage
    obtain ⟨u, window, hwindow⟩ := hpages page hpage
    exact (sortGames_page hiso hempty hwindow boundaryMs query).symm
  · intro u games fuel left hlist hlength hne hpages
    have hrequest : (fun offset => u.featureGames feature ⟨offset, pageSize⟩) =
        fun offset => .ok (paginate games offset pageSize) := by
      funext offset
      rw [u.featureGames_eq, hlist]
      rfl
    rw [hrequest] at hpages
    obtain ⟨⟨n, htake⟩, hwhole⟩ := exists_take_of_follow hlength hpages
    rw [List.drop_zero] at htake hwhole
    have hsublist : (filteredGames browser toLowerCase feature boundaryMs pages query).Sublist
        games := by
      apply (filterGamesByName_sublist _ _ _).trans
      apply (splitByReleaseDay_sublist _ _ _ _).trans
      rw [htake]
      exact List.take_sublist n games
    have horder : cards = sortGames browser
        (filteredGames browser toLowerCase feature boundaryMs pages query) active := by
      rcases happlied with hsome | ⟨rfl, rfl⟩
      · exact hsorted hsome
      · rw [sortGames_of_sublist hiso hempty hlist hsublist]
        exact hcards
    refine ⟨horder, ?_⟩
    intro hend
    have hleft : left = none := by
      rw [← Option.not_isSome_iff_eq_none, ← hasNextPage_of_follow hne hpages, ← hmore, hend]
      exact Bool.false_ne_true
    rw [horder]
    unfold filteredGames
    rw [hwhole hleft]

/-- **Views show their games in the order that the sort bar names.** In every state that the shell
reaches the bar of a view names an offered sort, and whatever its query holds:

* SEARCH shows the games of all pages, each once, in this order, and no other page is left;
* PURCHASED and WISHLIST show the games of their list that the filter keeps, in this order;
* NEW, UPCOMING, DISCOUNTED and MONTHLY show the filtered games of the loaded pages: in this order,
  with no other page left, where it is not the order of the server; page by page in this order where
  it is; and as a whole in this order where the list did not change between the pages.

**Proof sketch.** The invariant of the shell ties the sort that a view gets to the sort of its bar
(`Shell.Inv.appliedSort_of_ownOrder`, `Shell.Inv.appliedSort_of_feature`). What a view does with the
sort is said by one lemma for each kind of view (`eq_of_grid_searchScreen`,
`eq_of_signedInScreen_eq_grid`, `inActiveOrder_gamesScreen`). -/
theorem shown_in_active_order (toLowerCase : JsString → JsString)
    (hiso : ∀ ms text, toIsoString ms = some text → browser.dateParse text = some ms)
    (hempty : browser.dateParse "" = none) {first : Location} {s : Shell}
    (hs : (shellSystem first).Reachable s) :
    (s.location.pathname ∈ ownOrderPaths → ∃ config active, s.sortConfig = some config ∧
      s.activeSort = some active ∧ active.field ∈ config.fields ∧
      (∀ data paused term cards more,
        (searchScreen browser data paused term s.appliedSort).grid = some (cards, more) →
        more = false ∧ ∃ pages, data.pages = some pages ∧
          cards = sortGames browser (firstWins Game.id (pages.flatMap PageResult.games)) active) ∧
      ∀ failureMessage emptyMessage data paused cards searchAll,
        signedInScreen browser toLowerCase failureMessage emptyMessage data paused s.searchQuery
          s.appliedSort = .grid cards searchAll →
        ∃ games, data = .loaded games ∧
          cards = sortGames browser (filterGamesByName toLowerCase games s.searchQuery) active) ∧
    ∀ feature : GamesFeature, s.location.pathname = feature.path → ∃ config active,
      s.sortConfig = some config ∧ s.activeSort = some active ∧ active.field ∈ config.fields ∧
      ∀ emptyMessage boundaryMs data pages paused cards refreshNote searchAll more,
        data = .loaded pages ∨ data = .refreshFailed pages →
        gamesScreen browser toLowerCase feature emptyMessage boundaryMs data paused s.searchQuery
          s.appliedSort = .grid cards refreshNote searchAll more →
        InActiveOrder browser toLowerCase feature boundaryMs pages s.searchQuery active
          s.appliedSort cards more := by
  have hinv := Shell.inv_of_reachable hs
  refine ⟨?_, ?_⟩
  · intro hpath
    obtain ⟨config, active, hbar, hactive, hoffered, happlied⟩ := hinv.appliedSort_of_ownOrder hpath
    refine ⟨config, active, hbar, hactive, hoffered, ?_, ?_⟩
    · intro data paused term cards more hgrid
      rw [happlied] at hgrid
      obtain ⟨pages, hpages, hcards, -, hcovers⟩ := eq_of_grid_searchScreen hgrid
      exact ⟨hcovers rfl, pages, hpages, hcards⟩
    · intro failureMessage emptyMessage data paused cards searchAll hgrid
      rw [happlied] at hgrid
      exact eq_of_signedInScreen_eq_grid hgrid
  · intro feature hpath
    obtain ⟨config, active, hbar, hactive, hoffered, happlied⟩ := hinv.appliedSort_of_feature hpath
    refine ⟨config, active, hbar, hactive, hoffered, ?_⟩
    intro emptyMessage boundaryMs data pages paused cards refreshNote searchAll more hdata hscreen
    exact inActiveOrder_gamesScreen hiso hempty happlied hdata hscreen

/-- Two clicks on the name. -/
def sampleClicks : List ShellEvent := [.clickField .name, .clickField .name]

/-- MONTHLY from the last name to the first. -/
def sampleShell : Shell :=
  { (shellSystem (sampleLocation "/monthly".toList (by decide))).init with
    view := ⟨toUtf16 "/monthly".toList, some ⟨.name, .desc⟩, []⟩ }

/-- Two pages of a feed. -/
def samplePages : List PageResult :=
  [paginate (mapMonthlyToGames sampleMonthly) 0 1, paginate (mapMonthlyToGames sampleMonthly) 1 1]

/-- The grid has the games of both pages, in the order of its bar. -/
theorem shown_in_active_order_sample :
    ∃ cards refreshNote searchAll more, sampleShell.activeSort = some ⟨.name, .desc⟩ ∧
      gamesScreen smallBrowser id .monthly "" 0 (.loaded samplePages) false
        sampleShell.searchQuery sampleShell.appliedSort =
          .grid cards refreshNote searchAll more ∧
      cards.map Game.name = ["Beta", "Alpha"] ∧
      InActiveOrder smallBrowser id .monthly 0 samplePages sampleShell.searchQuery
        ⟨.name, .desc⟩ sampleShell.appliedSort cards more := by
  have hiso : ∀ ms text, toIsoString ms = some text → smallBrowser.dateParse text = some ms :=
    fun ms text h => parseDateMs_toIsoString h
  have hshell : (shellSystem (sampleLocation "/monthly".toList (by decide))).Reachable
      sampleShell := ⟨sampleClicks, rfl⟩
  obtain ⟨config, active, -, hactive, -, hshown⟩ :=
    (shown_in_active_order id hiso parseDateMs_empty hshell).2 .monthly rfl
  obtain rfl : active = ⟨.name, .desc⟩ := (Option.some.inj hactive).symm
  exact ⟨_, _, _, _, hactive, rfl, by decide +kernel,
    hshown "" 0 (.loaded samplePages) samplePages false _ _ _ _ (Or.inl rfl) rfl⟩

end Web

end PsStore
