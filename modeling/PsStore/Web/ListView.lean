import PsStore.Application.UniqueIds
import PsStore.Application.ReleaseLists
import PsStore.Domain.SearchScope
import PsStore.Web.GamesQuery
import PsStore.Web.Shell

set_option relaxedAutoImplicit false
set_option autoImplicit false

/-!
# The cards of a list view

What `components/Games.tsx` shows: the loaded pages of a list, the client's side of the release day,
the filter, and the sort of the shell. A sort covers every page; without one the view shows the
order of the server as it is. The lower case of the browser is a parameter.

## Main definitions

* `Web.filterGamesByName` — the filter of a list.
* `Web.ListQuery`, `Web.gamesScreen` — the state of the list query, and what the view shows for it.
* `Lookups.featureList` — the whole list of a feature.

## Main results

* `isServerDate_featureList`, `sorted_featureList` — the lists of the server are in their default
  order, by dates that the browser reads.
* `Web.eq_of_gamesScreen_eq_grid` — the grid of a view has the filtered games of its pages, sorted
  or as they are.
* `Web.filteredGames_flatMap`, `Web.sortGames_page` — the grid is made page by page, and each page
  of a list of the server is in the default order of its view.
-/

namespace PsStore

/-! ## The lists of the server -/

/-- The features as the windows of the server name them. -/
def Lookups.featureList (u : Lookups) : Web.GamesFeature → Except UpstreamError (List Game)
  | .new => u.releaseList .new
  | .upcoming => u.releaseList .upcoming
  | .discounted => u.discountedList
  | .monthly => u.monthlyList

/-- One page of the list of a feature. -/
def Lookups.featureGames (u : Lookups) (feature : Web.GamesFeature) (page : Page) :
    Except UpstreamError PageResult :=
  match feature with
  | .new => u.releaseListing .new page
  | .upcoming => u.releaseListing .upcoming page
  | .discounted => u.discountedGames page
  | .monthly => u.monthlyGames page

/-- A page of a feature is a page of its list. -/
lemma Lookups.featureGames_eq (u : Lookups) (feature : Web.GamesFeature) (page : Page) :
    u.featureGames feature page =
      (u.featureList feature).map fun games => paginate games page.offset page.size := by
  cases feature with
  | new => exact u.releaseListing_eq .new page
  | upcoming => exact u.releaseListing_eq .upcoming page
  | discounted =>
    show u.discountedGames page = _
    unfold discountedGames featureList
    cases u.discountedList <;> rfl
  | monthly =>
    show u.monthlyGames page = _
    unfold monthlyGames featureList
    cases u.monthlyList <;> rfl

/-- The order of the list of a feature. -/
def Web.GamesFeature.order : Web.GamesFeature → SortOrder
  | .new | .discounted | .monthly => .dateDesc
  | .upcoming => .dateAsc

section

open Web

/-- A normalised date is one that the server sends. -/
lemma isServerDate_toIsoOrDefault (text : Option String) :
    IsServerDate (toIsoOrDefault text) := by
  cases text with
  | none => exact Or.inl rfl
  | some text =>
    rcases toIsoOrDefault_cases text with ⟨-, hempty⟩ | ⟨-, hempty⟩ | ⟨ms, -, hiso⟩
    · exact Or.inl hempty
    · exact Or.inl hempty
    · exact Or.inr ⟨ms, hiso⟩

/-- The own date of a card is normalised. -/
lemma isServerDate_ownDate (u : Lookups) (i : ℕ) (id : GameId) : IsServerDate (u.ownDate i id) := by
  unfold Lookups.ownDate
  split
  · exact Or.inl rfl
  · split
    · exact isServerDate_toIsoOrDefault _
    · exact Or.inl rfl

/-- The date of a grid card is normalised. -/
lemma isServerDate_conceptToGame (concept : Concept) (id : GameId) (nowMs : ℤ) :
    IsServerDate (conceptToGame concept id nowMs).date :=
  isServerDate_toIsoOrDefault _

/-- The dates of the release list are normalised.

**Proof sketch.** Both grids were read, or there is no list. A merged game comes from one of them:
its date is one that its own detail gave, or the date of its concept, and both are written by the
server. -/
lemma isServerDate_releaseGames {u : Lookups} {merged : List Game}
    (h : u.releaseGames = .ok merged) : ∀ game ∈ merged, IsServerDate game.date := by
  cases hnew : u.concepts .new with
  | error e =>
    obtain ⟨e', herror, -⟩ := u.releaseGames_of_failure (Or.inl ⟨e, hnew⟩)
    rw [h] at herror
    cases herror
  | ok released =>
    cases hupcoming : u.concepts .upcoming with
    | error e =>
      obtain ⟨e', herror, -⟩ := u.releaseGames_of_failure (Or.inr ⟨e, hupcoming⟩)
      rw [h] at herror
      cases herror
    | ok upcoming =>
      rw [u.releaseGames_of_grids hnew hupcoming] at h
      cases h
      intro game hgame
      have hmerged : game ∈ u.datedReleased released ++
          u.datedUpcoming (u.ownDated released).length upcoming :=
        (firstWins_sublist Game.id _).subset hgame
      rcases List.mem_append.mp hmerged with hdated | hdated
      · obtain ⟨hmem, -⟩ := List.mem_filter.mp hdated
        obtain ⟨i, hi, rfl⟩ := List.mem_mapIdx.mp hmem
        exact isServerDate_ownDate u i _
      · obtain ⟨i, hi, rfl⟩ := List.mem_mapIdx.mp hdated
        split_ifs
        · exact isServerDate_ownDate u _ _
        · obtain ⟨concept, -, hcard⟩ := List.mem_filterMap.mp (List.getElem_mem hi)
          obtain ⟨id, -, hcard⟩ := Option.map_eq_some_iff.mp hcard
          rw [← hcard]
          exact isServerDate_conceptToGame concept id (u.clock .releaseGrids)

/-- **The dates of every list** are dates of the server.

**Proof sketch.** NEW and UPCOMING are parts of the merged grids, whose dates come from a detail or
a concept (`isServerDate_releaseGames`); the date of a discounted card comes from its own lookup,
and that of a monthly card from the feed. -/
theorem isServerDate_featureList {u : Lookups} {feature : GamesFeature} {games : List Game}
    (h : u.featureList feature = .ok games) : ∀ game ∈ games, IsServerDate game.date := by
  have hrelease : ∀ window, u.releaseList window = .ok games →
      ∀ game ∈ games, IsServerDate game.date := by
    intro window hlist game hgame
    obtain ⟨merged, hmerged, hlist⟩ := bind_eq_ok hlist
    cases hlist
    exact isServerDate_releaseGames hmerged game (Window.mem_of_mem_games hgame)
  cases feature with
  | new => exact hrelease .new h
  | upcoming => exact hrelease .upcoming h
  | discounted =>
    intro game hgame
    obtain ⟨concepts, i, grid, -, -, rfl⟩ := u.exists_of_mem_discountedList h hgame
    show IsServerDate (u.cardMeta i grid.id).date
    rw [u.date_cardMeta]
    exact isServerDate_ownDate u i grid.id
  | monthly =>
    intro game hgame
    obtain ⟨entries, -, rfl⟩ := Lookups.monthlyList_eq_ok_iff.mp h
    obtain ⟨entry, -, rfl⟩ := List.mem_map.mp (mem_sortByDate.mp hgame)
    exact isServerDate_toIsoOrDefault (some entry.releaseDate)

/-- **Every list is in its order.** -/
theorem sorted_featureList {u : Lookups} {feature : GamesFeature} {games : List Game}
    (h : u.featureList feature = .ok games) :
    games.Pairwise fun a b => compareDates feature.order a b ≠ .gt := by
  have hsorted : ∀ (order : SortOrder) (cards : List Game),
      (sortByDate cards order).Pairwise fun a b => compareDates order a b ≠ .gt :=
    fun order => (sortsByKey_sortByDate order).sorted
  cases feature with
  | new =>
    obtain ⟨merged, -, h⟩ := bind_eq_ok h
    cases h
    exact hsorted .dateDesc _
  | upcoming =>
    obtain ⟨merged, -, h⟩ := bind_eq_ok h
    cases h
    exact hsorted .dateAsc _
  | discounted =>
    obtain ⟨concepts, -, h⟩ := bind_eq_ok h
    cases h
    exact hsorted .dateDesc _
  | monthly =>
    obtain ⟨entries, -, rfl⟩ := Lookups.monthlyList_eq_ok_iff.mp h
    exact hsorted .dateDesc _

end

/-! ## The pages of the client -/

/-- The pages that the client has read are a front part of the list, and the whole list where no
offset is left.

**Proof sketch.** By induction on the fuel. A page holds the games from its offset on, `size` of
them at most, and the next offset is behind them; a page without a next offset reaches the end of
the list. -/
lemma exists_take_of_follow {ε : Type} {games : List Game} (hlength : games.length ≤ usizeMax)
    {size fuel offset : ℕ} {pages : List PageResult} {left : Option ℕ}
    (h : follow (fun offset => (.ok (paginate games offset size) : Except ε PageResult))
      Web.getNextPageParam fuel offset = .ok (pages, left)) :
    (∃ n, pages.flatMap PageResult.games = (games.drop offset).take n) ∧
      (left = none → pages.flatMap PageResult.games = games.drop offset) := by
  induction fuel generalizing offset pages with
  | zero =>
    cases h
    exact ⟨⟨0, rfl⟩, nofun⟩
  | succ fuel ih =>
    obtain ⟨page, hpage, hcases⟩ := follow_succ_eq_ok_iff.mp h
    cases hpage
    have hnext := paginate_nextOffset hlength offset size
    have hgames : (paginate games offset size).games = (games.drop offset).take size := rfl
    rcases hcases with ⟨hend, rfl, rfl⟩ | ⟨offset', rest, hmore, rfl, hrest⟩
    · have hall : games.length ≤ offset + size := by
        by_contra hlt
        rw [Web.getNextPageParam, hnext, if_pos (by omega)] at hend
        cases hend
      rw [List.flatMap_cons, List.flatMap_nil, List.append_nil, hgames]
      refine ⟨⟨size, rfl⟩, fun _ => ?_⟩
      apply List.take_of_length_le
      rw [List.length_drop]
      omega
    · have hoffset : offset' = offset + size := by
        rw [Web.getNextPageParam, hnext] at hmore
        split_ifs at hmore
        exact (Option.some.inj hmore).symm
      obtain ⟨⟨n, hn⟩, hwhole⟩ := ih hrest
      rw [hoffset, ← List.drop_drop] at hn hwhole
      rw [List.flatMap_cons, hgames]
      refine ⟨⟨size + n, ?_⟩, ?_⟩
      · rw [hn, List.take_add]
      · intro hleft
        rw [hwhole hleft, List.take_append_drop]

namespace Web

/-! ## The filter -/

variable {δ : Type}

/-- The games whose name has the text of the filter. A blank filter keeps every game. -/
def filterGamesByName (toLowerCase : JsString → JsString) (games : List Game) (query : JsString) :
    List Game :=
  let needle := toLowerCase (trimUnits query)
  if needle = [] then games
  else games.filter fun game => decide (needle <:+: toLowerCase (toUtf16 game.name.toList))

/-- The filter keeps the order of the games. -/
lemma filterGamesByName_sublist (toLowerCase : JsString → JsString) (games : List Game)
    (query : JsString) : (filterGamesByName toLowerCase games query).Sublist games := by
  unfold filterGamesByName
  dsimp only
  split_ifs
  · exact List.Sublist.refl games
  · exact List.filter_sublist

/-- The client's side of a list keeps the order of its games. -/
lemma splitByReleaseDay_sublist (dateParse : String → Option ℤ) (feature : GamesFeature)
    (games : List Game) (boundaryMs : ℤ) :
    (splitByReleaseDay dateParse feature games boundaryMs).Sublist games := by
  unfold splitByReleaseDay
  split_ifs
  · exact List.Sublist.refl games
  · exact List.filter_sublist
  · exact List.filter_sublist

/-! ## The view -/

/-- The state of a list query. A failed refresh and a failed next page keep the pages. -/
inductive ListQuery where
  | pending
  | failed
  | loaded (pages : List PageResult)
  | refreshFailed (pages : List PageResult)
  | nextPageFailed (pages : List PageResult)

/-- The pages of a query. -/
def ListQuery.pages : ListQuery → Option (List PageResult)
  | .pending | .failed => none
  | .loaded pages | .refreshFailed pages | .nextPageFailed pages => some pages

/-- What a list view shows. -/
inductive ListScreen where
  | error (message : String)
  | offline
  | spinner
  /-- The cards, the note of a failed refresh, the term of the tile that searches the store, and
  whether the grid asks for more. -/
  | grid (games : List Game) (refreshNote : Bool) (searchAll : Option JsString) (hasNextPage : Bool)

variable (browser : Browser δ) (toLowerCase : JsString → JsString) [LinearOrder δ]

/-- The pages of a query whose last page names no next offset have no next page. -/
def hasNextPage (pages : List PageResult) : Bool :=
  pages.getLast?.any fun page => (getNextPageParam page).isSome

/-- The games of the loaded pages on the client's side of the release day that the filter keeps. -/
def filteredGames (feature : GamesFeature) (boundaryMs : ℤ) (pages : List PageResult)
    (query : JsString) : List Game :=
  filterGamesByName toLowerCase
    (splitByReleaseDay browser.dateParse feature (pages.flatMap PageResult.games) boundaryMs) query

/-- The grid of the loaded pages. -/
def gamesGrid (feature : GamesFeature) (emptyMessage : String) (boundaryMs : ℤ)
    (pages : List PageResult) (refreshNote paused : Bool) (query : JsString)
    (sort : Option GameSort) : ListScreen :=
  if sort.isSome && hasNextPage pages then if paused then .offline else .spinner
  else
    let filtered := filteredGames browser toLowerCase feature boundaryMs pages query
    let ordered := sort.elim filtered (sortGames browser filtered)
    let term := normalizeSearchTerm query
    if filtered = [] ∧ term = [] ∧ hasNextPage pages = false then .error emptyMessage
    else .grid ordered refreshNote (if term = [] then none else some term) (hasNextPage pages)

/-- The view of a list. Any failure shows the error state, but a failed refresh keeps a list that
needs no other page. -/
def gamesScreen (feature : GamesFeature) (emptyMessage : String) (boundaryMs : ℤ)
    (data : ListQuery) (paused : Bool) (query : JsString) (sort : Option GameSort) : ListScreen :=
  match data with
  | .pending => if paused then .offline else .spinner
  | .failed | .nextPageFailed _ => .error "Failed to load games"
  | .loaded pages =>
    gamesGrid browser toLowerCase feature emptyMessage boundaryMs pages false paused query sort
  | .refreshFailed pages =>
    if sort.isSome && hasNextPage pages then .error "Failed to load games"
    else gamesGrid browser toLowerCase feature emptyMessage boundaryMs pages true paused query sort

variable {browser toLowerCase}

/-- **The grid of a view**: the filtered games in the order of the sort, or as they are, and a sort
covers every page. -/
lemma eq_of_gamesScreen_eq_grid {feature : GamesFeature} {emptyMessage : String} {boundaryMs : ℤ}
    {data : ListQuery} {pages : List PageResult} {paused : Bool} {query : JsString}
    {sort : Option GameSort} {cards : List Game} {refreshNote : Bool} {searchAll : Option JsString}
    {more : Bool} (hdata : data = .loaded pages ∨ data = .refreshFailed pages)
    (h : gamesScreen browser toLowerCase feature emptyMessage boundaryMs data paused query sort =
      .grid cards refreshNote searchAll more) :
    cards = sort.elim (filteredGames browser toLowerCase feature boundaryMs pages query)
        (sortGames browser (filteredGames browser toLowerCase feature boundaryMs pages query)) ∧
      more = hasNextPage pages ∧ (sort.isSome = true → hasNextPage pages = false) := by
  have hgrid : ∀ note, gamesGrid browser toLowerCase feature emptyMessage boundaryMs pages note
      paused query sort = .grid cards refreshNote searchAll more →
      cards = sort.elim (filteredGames browser toLowerCase feature boundaryMs pages query)
          (sortGames browser (filteredGames browser toLowerCase feature boundaryMs pages query)) ∧
        more = hasNextPage pages ∧ (sort.isSome = true → hasNextPage pages = false) := by
    intro note hshown
    unfold gamesGrid at hshown
    dsimp only at hshown
    split_ifs at hshown with hwait hpaused hblank <;> cases hshown
    all_goals
      refine ⟨rfl, rfl, ?_⟩
      intro hsort
      rw [hsort, Bool.true_and] at hwait
      exact Bool.eq_false_iff.mpr hwait
  rcases hdata with rfl | rfl
  · exact hgrid false h
  · unfold gamesScreen at h
    dsimp only at h
    split_ifs at h
    exact hgrid true h

/-! ## The order of the cards -/

/-- The path of a feature. -/
def GamesFeature.path : GamesFeature → List Char
  | .new => "/new".toList
  | .upcoming => "/upcoming".toList
  | .discounted => "/discounted".toList
  | .monthly => "/monthly".toList

/-- `PAGE_SIZE`. -/
def pageSize : ℕ := 60

/-- The default sort of a feature is the order of its list on the server. -/
lemma sortConfigForPath_path (feature : GamesFeature) :
    ∃ config, sortConfigForPath feature.path = some config ∧ config.serverOrdered = true ∧
      config.defaultSort = ⟨.date, feature.order.direction⟩ := by
  cases feature <;> exact ⟨_, rfl, rfl, rfl⟩

/-- Where the pages are not all read, an offset is left. -/
lemma hasNextPage_of_follow {ε : Type} {request : ℕ → Except ε PageResult} {fuel offset : ℕ}
    {pages : List PageResult} {left : Option ℕ} (hne : pages ≠ [])
    (h : follow request getNextPageParam fuel offset = .ok (pages, left)) :
    hasNextPage pages = left.isSome := by
  induction fuel generalizing offset pages with
  | zero =>
    cases h
    exact absurd rfl hne
  | succ fuel ih =>
    obtain ⟨page, -, ⟨hend, rfl, rfl⟩ | ⟨offset', rest, hmore, rfl, hrest⟩⟩ :=
      follow_succ_eq_ok_iff.mp h
    · simp [hasNextPage, hend]
    · by_cases hnil : rest = []
      · subst hnil
        have hleft : left = some offset' := by
          cases fuel with
          | zero =>
            cases hrest
            rfl
          | succ fuel =>
            obtain ⟨_, -, ⟨-, hpages, -⟩ | ⟨_, _, -, hpages, -⟩⟩ := follow_succ_eq_ok_iff.mp hrest
            · cases hpages
            · cases hpages
        simp [hasNextPage, hmore, hleft]
      · rw [← ih hnil hrest]
        unfold hasNextPage
        rw [List.getLast?_cons_of_ne_nil hnil]

/-- A list in the order of the server is sorted by its default sort. -/
lemma sortGames_of_sorted
    (hiso : ∀ ms text, toIsoString ms = some text → browser.dateParse text = some ms)
    (hempty : browser.dateParse "" = none) {order : SortOrder} {games : List Game}
    (hdates : ∀ game ∈ games, IsServerDate game.date)
    (hsorted : games.Pairwise fun a b => compareDates order a b ≠ .gt) :
    sortGames browser games ⟨.date, order.direction⟩ = games := by
  rw [sortGames_date hiso hempty hdates order]
  exact hsorted.insertionSort_eq

omit [LinearOrder δ] in
/-- The grid is made page by page. -/
lemma filteredGames_flatMap (feature : GamesFeature) (boundaryMs : ℤ) (pages : List PageResult)
    (query : JsString) :
    filteredGames browser toLowerCase feature boundaryMs pages query =
      pages.flatMap fun page =>
        filteredGames browser toLowerCase feature boundaryMs [page] query := by
  unfold filteredGames filterGamesByName splitByReleaseDay
  dsimp only
  split_ifs <;> simp [List.filter_flatMap]

/-- Cards that stand in a list of the server in their order are in the default order of its view. -/
lemma sortGames_of_sublist
    (hiso : ∀ ms text, toIsoString ms = some text → browser.dateParse text = some ms)
    (hempty : browser.dateParse "" = none) {u : Lookups} {feature : GamesFeature}
    {games cards : List Game} (hlist : u.featureList feature = .ok games)
    (hcards : cards.Sublist games) :
    sortGames browser cards ⟨.date, feature.order.direction⟩ = cards := by
  apply sortGames_of_sorted hiso hempty
  · intro game hgame
    exact isServerDate_featureList hlist game (hcards.subset hgame)
  · exact (sorted_featureList hlist).sublist hcards

/-- **The cards of one page** of any list of the server are in the default order of its view. -/
lemma sortGames_page
    (hiso : ∀ ms text, toIsoString ms = some text → browser.dateParse text = some ms)
    (hempty : browser.dateParse "" = none) {u : Lookups} {feature : GamesFeature} {window : Page}
    {page : PageResult} (hpage : u.featureGames feature window = .ok page) (boundaryMs : ℤ)
    (query : JsString) :
    sortGames browser (filteredGames browser toLowerCase feature boundaryMs [page] query)
        ⟨.date, feature.order.direction⟩ =
      filteredGames browser toLowerCase feature boundaryMs [page] query := by
  rw [u.featureGames_eq] at hpage
  cases hlist : u.featureList feature with
  | error e =>
    rw [hlist] at hpage
    cases hpage
  | ok games =>
    rw [hlist] at hpage
    cases hpage
    apply sortGames_of_sublist hiso hempty hlist
    apply (filterGamesByName_sublist _ _ _).trans
    apply (splitByReleaseDay_sublist _ _ _ _).trans
    rw [List.flatMap_singleton]
    exact (List.take_sublist _ _).trans (List.drop_sublist _ _)

/-- A feed of two games. -/
def sampleMonthly : List PlusMonthlyEntry :=
  [⟨sampleProduct, "Alpha", "", "", []⟩, ⟨twinId, "Beta", "", "", []⟩]

end Web

end PsStore
