import PsStore.Http.App
import PsStore.Lib.Transition
import PsStore.Web.ReleaseDay
import PsStore.Web.SearchTerm
import PsStore.Web.SortGames

set_option relaxedAutoImplicit false
set_option autoImplicit false

/-!
# The sort and the filter of a list view

The shell of `components/AppShell.tsx` keeps one sort and one filter for the list view on screen.
The game page keeps both while it is open; every other change of the view resets them. The locations
that the router shows, the input of the user and the arrival of the signed-in lists are events in
any order.

## Main definitions

* `Web.sortConfigForPath` — the sorts that a view offers.
* `Web.viewKeyFor` — the key of a list view.
* `Web.Shell`, `Web.shellSystem` — the shell and its runs.
* `Web.Visit`, `Web.visitSystem` — what the shell is for: a visit to one list, with one sort.

## Main results

* `Web.shell_refines_visit` — every event of the shell is a run of visits, and the bar and the view
  get the sort of the visit.
-/

namespace PsStore

namespace Web

/-! ## The sorts of a view -/

/-- The sorts that a view offers. -/
structure SortConfig where
  fields : List SortField
  defaultSort : GameSort
  /-- The server order is exactly `defaultSort`: the view then shows that order as it is, without
  loading every page or re-sorting. -/
  serverOrdered : Bool
deriving DecidableEq

/-- The first direction of a field. -/
def naturalDirection : SortField → SortDirection
  | .date => .desc
  | .price => .asc
  | .name => .asc

/-- `CONFIG_BY_PATH`. -/
def configByPath : List (List Char × SortConfig) :=
  [("/new".toList, ⟨[.date, .price, .name], ⟨.date, .desc⟩, true⟩),
    ("/upcoming".toList, ⟨[.date, .price, .name], ⟨.date, .asc⟩, true⟩),
    ("/discounted".toList, ⟨[.date, .price, .name], ⟨.date, .desc⟩, true⟩),
    ("/monthly".toList, ⟨[.date, .name], ⟨.date, .desc⟩, true⟩),
    ("/purchased".toList, ⟨[.name], ⟨.name, .asc⟩, false⟩),
    ("/wishlist".toList, ⟨[.date, .price, .name], ⟨.price, .asc⟩, false⟩),
    ("/search".toList, ⟨[.date, .price, .name], ⟨.date, .desc⟩, false⟩)]

/-- The sorts of a view, when it has a sort bar. -/
def sortConfigForPath (pathname : List Char) : Option SortConfig := configByPath.lookup pathname

/-! ## The location -/

/-- A location of the router. The path of a URL has no question mark. -/
structure Location where
  pathname : List Char
  /-- The strings of the search record. -/
  search : String → Option JsString
  noQuestion : '?' ∉ pathname

/-- `isGenreKey` of the client. -/
def isGenreKeyText (value : JsString) : Bool :=
  (fromUtf16 value).any fun text => isGenreKey (String.ofList text)

/-- `isBrowseOrder`. -/
def isBrowseOrder (value : JsString) : Bool :=
  BrowseOrder.all.any fun order => toUtf16 order.asStr.toList == value

/-- The genre and the order of a search record. A value of the wrong shape reads as `undefined`. -/
def readBrowseParams (search : String → Option JsString) : Option JsString × Option JsString :=
  ((search "genre").filter isGenreKeyText, (search "order").filter isBrowseOrder)

/-- `GAME_PAGE_PREFIX`. -/
def gamePagePrefix : List Char := "/g/".toList

/-- The location is one of a game page. -/
def Location.onGamePage (location : Location) : Bool := gamePagePrefix.isPrefixOf location.pathname

/-- The key of a list view: its pathname. The search route is one view per submitted term, and
BROWSE is one view per genre and order. -/
def viewKeyFor (location : Location) : JsString :=
  if location.pathname = "/search".toList then
    toUtf16 "/search?".toList ++ readSearchTerm location.search
  else if location.pathname = "/browse".toList then
    let (genre, order) := readBrowseParams location.search
    toUtf16 "/browse?".toList ++ genre.getD [] ++ toUtf16 ['&'] ++ order.getD []
  else toUtf16 location.pathname

/-! ## The shell -/

/-- The sort and the filter of the view with a key. On the search route, `query` is the draft of
the field. -/
structure ViewState where
  key : JsString
  sort : Option GameSort
  query : JsString

/-- The shell at a location, and whether each signed-in list is there. -/
structure Shell where
  location : Location
  view : ViewState
  library : Bool
  wishlist : Bool

/-- The view state of a new view. -/
def freshView (location : Location) : ViewState where
  key := viewKeyFor location
  sort := none
  query := if location.pathname = "/search".toList then readSearchTerm location.search else []

namespace Shell

/-- The sorts of the view on screen. -/
def sortConfig (s : Shell) : Option SortConfig := sortConfigForPath s.location.pathname

/-- The sort that the bar shows. -/
def activeSort (s : Shell) : Option GameSort :=
  s.view.sort <|> s.sortConfig.map SortConfig.defaultSort

/-- The sort that the view gets: `none` is the order of the server. -/
def appliedSort (s : Shell) : Option GameSort :=
  if s.sortConfig.map SortConfig.serverOrdered = some false then s.activeSort else s.view.sort

/-- The field takes no input. -/
def searchDisabled (s : Shell) : Bool :=
  (s.location.pathname = "/purchased".toList && !s.library) ||
    (s.location.pathname = "/wishlist".toList && !s.wishlist)

/-- The sort bar is on screen. -/
def showSortBar (s : Shell) : Bool :=
  !s.searchDisabled && s.sortConfig.isSome && s.activeSort.isSome

/-- The shell with a sort. The default of the view is no sort of its own. -/
def applySort (s : Shell) (next : GameSort) : Shell :=
  match s.sortConfig with
  | none => s
  | some config =>
    if next = config.defaultSort then { s with view := { s.view with sort := none } }
    else { s with view := { s.view with sort := some next } }

/-- The shell with the text of its field. -/
def setQuery (s : Shell) (query : JsString) : Shell := { s with view := { s.view with query } }

end Shell

/-- The sort after a click on a field: the active field turns around, another one starts in its
natural direction. -/
def GameSort.click (active : GameSort) (field : SortField) : GameSort :=
  if active.field = field then ⟨field, if active.direction = .asc then .desc else .asc⟩
  else ⟨field, naturalDirection field⟩

/-- An event of the shell. -/
inductive ShellEvent where
  /-- The router shows a location. -/
  | locate (location : Location)
  /-- The user changes the text of the field. -/
  | type (text : JsString)
  /-- The user submits the field. The location follows with a `locate`. -/
  | submit
  /-- The user clicks a field of the sort bar. -/
  | clickField (field : SortField)
  /-- The user resets the sort. -/
  | resetSort
  /-- The signed-in lists arrive or go. -/
  | lists (library wishlist : Bool)

/-- The step of an event. The field and the sort bar take input only while they are there. -/
def Shell.step (s : Shell) : ShellEvent → Option Shell
  | .locate location =>
    some { s with
      location := location
      view :=
        if !location.onGamePage && decide (s.view.key ≠ viewKeyFor location) then freshView location
        else s.view }
  | .type text => if s.searchDisabled then none else some (s.setQuery text)
  | .submit =>
    if s.searchDisabled then none
    else if normalizeSearchTerm s.view.query = [] then some (s.setQuery [])
    else some s
  | .clickField field =>
    match s.sortConfig, s.activeSort with
    | some config, some active =>
      if s.showSortBar && decide (field ∈ config.fields) then
        some (s.applySort (active.click field))
      else none
    | _, _ => none
  | .resetSort =>
    match s.sortConfig with
    | some config => if s.showSortBar then some (s.applySort config.defaultSort) else none
    | none => none
  | .lists library wishlist => some { s with library := library, wishlist := wishlist }

/-- The runs of the shell from the first location on. -/
def shellSystem (first : Location) : TransitionSystem Shell ShellEvent where
  init := ⟨first, freshView first, false, false⟩
  step := Shell.step

/-! ## Visits -/

/-- A visit to a list: its sorts, the sort in effect, and the filter. -/
structure Visit where
  key : JsString
  config : Option SortConfig
  active : Option GameSort
  query : JsString

/-- An event of a visit. -/
inductive VisitEvent where
  | enter (location : Location)
  | type (text : JsString)
  | choose (field : SortField)
  | reset

/-- A visit starts in the default order of its list, without a filter. The field of the search route
starts with the submitted term. -/
def Visit.start (location : Location) : Visit where
  key := viewKeyFor location
  config := sortConfigForPath location.pathname
  active := (sortConfigForPath location.pathname).map SortConfig.defaultSort
  query := if location.pathname = "/search".toList then readSearchTerm location.search else []

/-- The step of an event. A list is left only for another one, and only an offered field is
chosen. -/
def Visit.step (visit : Visit) : VisitEvent → Option Visit
  | .enter location =>
    if !location.onGamePage && decide (visit.key ≠ viewKeyFor location) then
      some (.start location)
    else none
  | .type text => some { visit with query := text }
  | .choose field =>
    if visit.config.any fun config => decide (field ∈ config.fields) then
      some { visit with active := visit.active.map fun active => active.click field }
    else none
  | .reset => some { visit with active := visit.config.map SortConfig.defaultSort }

/-- The visits from the first location on. -/
def visitSystem (first : Location) : TransitionSystem Visit VisitEvent where
  init := .start first
  step := Visit.step

/-! ## The sorts of a key -/

/-- The sorts of the list with a key: those of the path before the question mark. -/
def configOfKey (key : JsString) : Option SortConfig :=
  sortConfigForPath (fromUtf16Lossy (key.takeWhile fun unit => decide (unit ≠ 0x3f)))

/-- A character that is no question mark has no unit of one. -/
lemma forall_unit_ne {text : List Char} (h : '?' ∉ text) :
    ∀ unit ∈ toUtf16 text, decide (unit ≠ 0x3f) = true := by
  intro unit hunit
  obtain ⟨c, hc, hunit⟩ := List.mem_flatMap.mp hunit
  rw [decide_eq_true_eq]
  rintro rfl
  rcases utf16EncodeChar_cases c with ⟨a, henc, hcode, -⟩ | ⟨a, b, henc, ha, hb, -⟩
  · rw [henc, List.mem_singleton] at hunit
    subst hunit
    have hquestion : c = '?' := Char.toNat_inj.mp hcode.symm
    rw [hquestion] at hc
    exact h hc
  · rw [henc] at hunit
    simp only [List.mem_cons, List.not_mem_nil, or_false] at hunit
    rcases hunit with rfl | rfl
    · exact absurd ha (by decide)
    · exact absurd hb (by decide)

/-- The path before the question mark of a key. -/
lemma configOfKey_append {path : List Char} (h : '?' ∉ path) (rest : JsString) :
    configOfKey (toUtf16 path ++ 0x3f :: rest) = sortConfigForPath path := by
  unfold configOfKey
  rw [List.takeWhile_append_of_pos (forall_unit_ne h), List.takeWhile_cons_of_neg (by decide),
    List.append_nil, fromUtf16Lossy_toUtf16]

/-- **The key of a view has the sorts of its path.** -/
lemma configOfKey_viewKeyFor (location : Location) :
    configOfKey (viewKeyFor location) = sortConfigForPath location.pathname := by
  unfold viewKeyFor
  split_ifs with hsearch hbrowse
  · rw [hsearch]
    exact configOfKey_append (show '?' ∉ "/search".toList by decide) _
  · rw [hbrowse]
    exact configOfKey_append (show '?' ∉ "/browse".toList by decide) _
  · unfold configOfKey
    rw [List.takeWhile_eq_self_iff.mpr (forall_unit_ne location.noQuestion),
      fromUtf16Lossy_toUtf16]

/-- What the table of the sorts says about each view: the default sort and the natural sorts are
offered, and no view is a game page. -/
lemma sortConfigForPath_spec {path : List Char} {config : SortConfig}
    (h : sortConfigForPath path = some config) :
    config.defaultSort.field ∈ config.fields ∧ gamePagePrefix.isPrefixOf path = false := by
  obtain ⟨front, rest, htable, -⟩ := List.lookup_eq_some_iff.mp h
  have hall : ∀ entry ∈ configByPath, entry.2.defaultSort.field ∈ entry.2.fields ∧
      gamePagePrefix.isPrefixOf entry.1 = false := by
    decide
  have hmem : (path, config) ∈ configByPath := by
    rw [htable]
    simp
  exact hall _ hmem

/-! ## The invariant -/

namespace Shell

/-- The visit of the shell. -/
def visit (s : Shell) : Visit where
  key := s.view.key
  config := configOfKey s.view.key
  active := s.view.sort <|> (configOfKey s.view.key).map SortConfig.defaultSort
  query := s.view.query

/-- The invariant of the shell. -/
structure Inv (s : Shell) : Prop where
  /-- A view other than a game page has its own state. -/
  key : s.location.onGamePage = false → s.view.key = viewKeyFor s.location
  /-- A sort is an offered one other than the default. -/
  sort : ∀ sort ∈ s.view.sort, ∃ config, configOfKey s.view.key = some config ∧
    sort.field ∈ config.fields ∧ sort ≠ config.defaultSort

variable {s : Shell}

/-- With a sort bar, the state is that of the view on screen. -/
lemma Inv.config (hs : s.Inv) {config : SortConfig} (h : s.sortConfig = some config) :
    configOfKey s.view.key = some config := by
  rw [hs.key (sortConfigForPath_spec h).2, configOfKey_viewKeyFor]
  exact h

/-- Applying an offered sort keeps the invariant. -/
lemma Inv.applySort (hs : s.Inv) {config : SortConfig} (h : s.sortConfig = some config)
    {next : GameSort} (hnext : next.field ∈ config.fields) : (s.applySort next).Inv := by
  unfold Shell.applySort
  rw [h]
  dsimp only
  split_ifs with hdefault
  · exact ⟨hs.key, nofun⟩
  · refine ⟨hs.key, ?_⟩
    intro sort hsort
    cases hsort
    exact ⟨config, hs.config h, hnext, hdefault⟩

/-- The field of a click. -/
lemma field_click (active : GameSort) (field : SortField) : (active.click field).field = field := by
  unfold GameSort.click
  split_ifs <;> rfl

/-- A new view has no sort. -/
lemma inv_freshView (location : Location) (library wishlist : Bool) :
    (⟨location, freshView location, library, wishlist⟩ : Shell).Inv :=
  ⟨fun _ => rfl, nofun⟩

/-- **What an event does.** -/
lemma step_cases {e : ShellEvent} {s' : Shell} (h : s.step e = some s') :
    (∃ location, e = .locate location ∧ location.onGamePage = false ∧
      s.view.key ≠ viewKeyFor location ∧
      s' = { s with location := location, view := freshView location }) ∨
    (∃ location, e = .locate location ∧
      (location.onGamePage = false → s.view.key = viewKeyFor location) ∧
      s' = { s with location := location }) ∨
    (∃ text, e = .type text ∧ s' = s.setQuery text) ∨
    (e = .submit ∧ normalizeSearchTerm s.view.query = [] ∧ s' = s.setQuery []) ∨
    (e = .submit ∧ normalizeSearchTerm s.view.query ≠ [] ∧ s' = s) ∨
    (∃ field config active, e = .clickField field ∧ s.sortConfig = some config ∧
      s.activeSort = some active ∧ field ∈ config.fields ∧
      s' = s.applySort (active.click field)) ∨
    (∃ config, e = .resetSort ∧ s.sortConfig = some config ∧
      s' = s.applySort config.defaultSort) ∨
    ∃ library wishlist, e = .lists library wishlist ∧
      s' = { s with library := library, wishlist := wishlist } := by
  cases e with
  | locate location =>
    cases h
    by_cases hpage : location.onGamePage = true
    · refine Or.inr (Or.inl ⟨location, rfl, ?_, ?_⟩)
      · rw [hpage]
        nofun
      · simp [hpage]
    by_cases hkey : s.view.key = viewKeyFor location
    · exact Or.inr (Or.inl ⟨location, rfl, fun _ => hkey, by simp [hkey]⟩)
    · exact Or.inl ⟨location, rfl, by simpa using hpage, hkey, by simp [hpage, hkey]⟩
  | type text =>
    simp only [Shell.step] at h
    split_ifs at h
    cases h
    exact Or.inr (Or.inr (Or.inl ⟨text, rfl, rfl⟩))
  | submit =>
    simp only [Shell.step] at h
    split_ifs at h with hdisabled hterm
    · cases h
      exact Or.inr (Or.inr (Or.inr (Or.inl ⟨rfl, hterm, rfl⟩)))
    · cases h
      exact Or.inr (Or.inr (Or.inr (Or.inr (Or.inl ⟨rfl, hterm, rfl⟩))))
  | clickField field =>
    simp only [Shell.step] at h
    split at h
    · next config active hconfig hactive =>
      split_ifs at h with hbar
      cases h
      have hoffered := of_decide_eq_true (Bool.and_eq_true_iff.mp hbar).2
      exact Or.inr (Or.inr (Or.inr (Or.inr (Or.inr (Or.inl
        ⟨field, config, active, rfl, hconfig, hactive, hoffered, rfl⟩)))))
    · cases h
  | resetSort =>
    simp only [Shell.step] at h
    split at h
    · next config hconfig =>
      split_ifs at h
      cases h
      exact Or.inr (Or.inr (Or.inr (Or.inr (Or.inr (Or.inr (Or.inl ⟨config, rfl, hconfig, rfl⟩))))))
    · cases h
  | lists library wishlist =>
    cases h
    exact Or.inr (Or.inr (Or.inr (Or.inr (Or.inr (Or.inr (Or.inr ⟨library, wishlist, rfl, rfl⟩))))))

/-- **Every event keeps the invariant.** -/
lemma Inv.step (hs : s.Inv) {e : ShellEvent} {s' : Shell} (h : s.step e = some s') : s'.Inv := by
  rcases step_cases h with ⟨location, -, -, -, rfl⟩ | ⟨location, -, hkept, rfl⟩ | ⟨text, -, rfl⟩ |
    ⟨-, -, rfl⟩ | ⟨-, -, rfl⟩ | ⟨field, config, active, -, hconfig, -, hoffered, rfl⟩ |
    ⟨config, -, hconfig, rfl⟩ | ⟨library, wishlist, -, rfl⟩
  · exact inv_freshView location _ _
  · exact ⟨hkept, hs.sort⟩
  · exact ⟨hs.key, hs.sort⟩
  · exact ⟨hs.key, hs.sort⟩
  · exact hs
  · apply hs.applySort hconfig
    rwa [field_click]
  · exact hs.applySort hconfig (sortConfigForPath_spec hconfig).1
  · exact ⟨hs.key, hs.sort⟩

/-- **The invariant holds in every run.** -/
theorem inv_of_reachable {first : Location} (h : (shellSystem first).Reachable s) : s.Inv := by
  apply TransitionSystem.Reachable.invariant _ _ h
  · exact inv_freshView first _ _
  · intro s e s' _ hs hstep
    exact hs.step hstep

/-! ## The visit of a run -/

/-- The events of the visit in an event of the shell. -/
def visitEvents (s : Shell) : ShellEvent → List VisitEvent
  | .locate location =>
    if !location.onGamePage && decide (s.view.key ≠ viewKeyFor location) then [.enter location]
    else []
  | .type text => [.type text]
  | .submit => if normalizeSearchTerm s.view.query = [] then [.type []] else []
  | .clickField field => [.choose field]
  | .resetSort => [.reset]
  | .lists _ _ => []

/-- The visit of a new view. -/
lemma visit_freshView (location : Location) (library wishlist : Bool) :
    (⟨location, freshView location, library, wishlist⟩ : Shell).visit = .start location := by
  have hconfig := configOfKey_viewKeyFor location
  unfold visit Visit.start freshView
  dsimp only
  rw [hconfig]
  rfl

/-- The bar shows the sort of the visit. -/
lemma Inv.activeSort (hs : s.Inv) {config : SortConfig} (h : s.sortConfig = some config) :
    s.activeSort = s.visit.active := by
  unfold Shell.activeSort visit
  rw [h, hs.config h]

/-- Applying a sort makes it the sort of the visit. -/
lemma Inv.visit_applySort (hs : s.Inv) {config : SortConfig} (h : s.sortConfig = some config)
    (next : GameSort) : (s.applySort next).visit = { s.visit with active := some next } := by
  unfold Shell.applySort
  rw [h]
  dsimp only
  split_ifs with hdefault
  · rw [hdefault]
    unfold visit
    dsimp only
    rw [hs.config h]
    rfl
  · rfl

/-- **Every event of the shell is a run of visits.**

**Proof sketch.** By what the event does (`step_cases`). A location of another list starts a visit
(`visit_freshView`), every other location shows nothing of it. A sort of the bar is one for the list
of the visit, since on a view with a bar the kept state is the one of this view (`Inv.config`); the
default sort is kept as no sort, and the visit has it all the same (`Inv.visit_applySort`). -/
lemma Inv.run_visitEvents (hs : s.Inv) (first : Location) {e : ShellEvent} {s' : Shell}
    (h : s.step e = some s') :
    (visitSystem first).run s.visit (s.visitEvents e) = some s'.visit := by
  rcases step_cases h with ⟨location, rfl, hlist, hkey, rfl⟩ | ⟨location, rfl, hkept, rfl⟩ |
    ⟨text, rfl, rfl⟩ | ⟨rfl, hterm, rfl⟩ | ⟨rfl, hterm, rfl⟩ |
    ⟨field, config, active, rfl, hconfig, hactive, hoffered, rfl⟩ | ⟨config, rfl, hconfig, rfl⟩ |
    ⟨library, wishlist, rfl, rfl⟩
  · have hevents : s.visitEvents (.locate location) = [.enter location] := by
      simp [visitEvents, hlist, hkey]
    have hstep : s.visit.step (.enter location) = some (.start location) := by
      simp [Visit.step, visit, hlist, hkey]
    rw [hevents, visit_freshView]
    show (s.visit.step (.enter location)).bind some = _
    rw [hstep]
    rfl
  · have hevents : s.visitEvents (.locate location) = [] := by
      cases hpage : location.onGamePage with
      | false => simp [visitEvents, hkept hpage]
      | true => simp [visitEvents, hpage]
    rw [hevents]
    rfl
  · rfl
  · simp only [visitEvents, if_pos hterm]
    rfl
  · simp only [visitEvents, if_neg hterm]
    rfl
  · rw [hs.activeSort hconfig] at hactive
    have hstep : s.visit.step (.choose field) =
        some { s.visit with active := some (active.click field) } := by
      have hvisit : s.visit.config = some config := hs.config hconfig
      simp [Visit.step, hvisit, hoffered, hactive]
    rw [hs.visit_applySort hconfig]
    show (s.visit.step (.choose field)).bind some = _
    rw [hstep]
    rfl
  · rw [hs.visit_applySort hconfig]
    show some { s.visit with active := (configOfKey s.view.key).map SortConfig.defaultSort } = _
    rw [hs.config hconfig]
    rfl
  · rfl

/-- The sort that the view gets, by the sort of the visit. -/
lemma Inv.appliedSort (hs : s.Inv) {config : SortConfig} (h : s.sortConfig = some config) :
    ∃ active, s.visit.active = some active ∧ active.field ∈ config.fields ∧
      s.appliedSort =
        if config.serverOrdered = true ∧ active = config.defaultSort then none
        else some active := by
  have hactive := hs.activeSort h
  have hkey := hs.config h
  cases hsort : s.view.sort with
  | none =>
    have hdefault : s.activeSort = some config.defaultSort := by
      unfold Shell.activeSort
      rw [hsort, h]
      rfl
    refine ⟨config.defaultSort, hactive ▸ hdefault, (sortConfigForPath_spec h).1, ?_⟩
    unfold Shell.appliedSort
    rw [h, hdefault, hsort]
    cases hserver : config.serverOrdered <;> simp [hserver]
  | some sort =>
    obtain ⟨config', hconfig', hoffered, hne⟩ := hs.sort sort hsort
    obtain rfl : config = config' := Option.some.inj (hkey.symm.trans hconfig')
    have hown : s.activeSort = some sort := by
      unfold Shell.activeSort
      rw [hsort]
      rfl
    refine ⟨sort, hactive ▸ hown, hoffered, ?_⟩
    unfold Shell.appliedSort
    rw [h, hown, hsort, ite_self, if_neg fun hboth => hne hboth.2]

/-- A location that keeps the visit. -/
lemma visit_locate {location : Location}
    (h : location.onGamePage = true ∨ viewKeyFor location = s.view.key) {s' : Shell}
    (hstep : s.step (.locate location) = some s') : s'.view = s.view := by
  cases hstep
  rcases h with hpage | hkey
  · simp [hpage]
  · simp [hkey]

/-- The visit of another list: its default order, and no filter. -/
lemma locate_other {location : Location} (hlist : location.onGamePage = false)
    (hkey : viewKeyFor location ≠ s.view.key) {s' : Shell}
    (hstep : s.step (.locate location) = some s') :
    s'.visit = .start location ∧
      s'.activeSort = (sortConfigForPath location.pathname).map SortConfig.defaultSort := by
  have hview : s' = { s with location := location, view := freshView location } := by
    cases hstep
    simp [hlist, hkey.symm]
  rw [hview]
  exact ⟨visit_freshView location _ _, rfl⟩

/-- Locations that keep the visit, in any order and number. -/
lemma run_locate {first : Location} {locations : List Location}
    (hkeep : ∀ location ∈ locations,
      location.onGamePage = true ∨ viewKeyFor location = s.view.key) {s' : Shell}
    (hrun : (shellSystem first).run s (locations.map .locate) = some s') : s'.view = s.view := by
  induction locations generalizing s with
  | nil =>
    cases hrun
    rfl
  | cons location locations ih =>
    rw [List.map_cons] at hrun
    obtain ⟨m, hstep, hrest⟩ := (shellSystem first).run_cons.mp hrun
    have hview := visit_locate (hkeep location List.mem_cons_self) hstep
    rw [← hview]
    apply ih _ hrest
    intro next hnext
    rw [hview]
    exact hkeep next (List.mem_cons_of_mem _ hnext)

end Shell

/-- **The shell refines visits.** Its sort and its filter start as those of a visit, and each event
from a state that the shell reaches is a run of the events of visits that it shows: a location of
another list enters a visit, text and the sort bar go to the visit, and nothing else does. In every
such state:

* another list starts in its default order and without a filter;
* with a sort bar, the bar shows the sort of the visit, one that the view offers, and the view gets
  that sort: or none exactly where it is the order of the server;
* locations of game pages and of the same list, in any order and number, change neither the sort nor
  the filter.

**Proof sketch.** A reachable shell has the sort and the filter of a visit of its list
(`Shell.inv_of_reachable`), and by the kind of the event each step is a run of this visit or the
start of another one. The first part is the fresh view of another list (`Shell.locate_other`). The
last one is by induction on the locations, none of which replaces the view (`Shell.run_locate`). -/
theorem shell_refines_visit (first : Location) :
    (shellSystem first).Simulates (visitSystem first) Shell.visit Shell.visitEvents ∧
    ∀ s, (shellSystem first).Reachable s →
      (∀ location s', location.onGamePage = false → viewKeyFor location ≠ s.view.key →
        s.step (.locate location) = some s' →
          s'.visit = .start location ∧
            s'.activeSort = (sortConfigForPath location.pathname).map SortConfig.defaultSort) ∧
      (∀ config, s.sortConfig = some config →
        ∃ active, s.visit.active = some active ∧ s.activeSort = some active ∧
          active.field ∈ config.fields ∧
          s.appliedSort =
            if config.serverOrdered = true ∧ active = config.defaultSort then none
            else some active) ∧
      ∀ locations : List Location,
        (∀ location ∈ locations,
          location.onGamePage = true ∨ viewKeyFor location = s.view.key) →
        ∀ s', (shellSystem first).run s (locations.map .locate) = some s' →
          s'.view = s.view := by
  refine ⟨⟨Shell.visit_freshView first _ _, ?_⟩, ?_⟩
  · intro s e s' hs hstep
    exact (Shell.inv_of_reachable hs).run_visitEvents first hstep
  · intro s hs
    have hinv := Shell.inv_of_reachable hs
    refine ⟨?_, ?_, ?_⟩
    · intro location s' hlist hkey hstep
      exact Shell.locate_other hlist hkey hstep
    · intro config hconfig
      obtain ⟨active, hactive, hoffered, happlied⟩ := hinv.appliedSort hconfig
      exact ⟨active, hactive, (hinv.activeSort hconfig).trans hactive, hoffered, happlied⟩
    · intro locations hkeep s' hrun
      exact Shell.run_locate hkeep hrun

/-- The location of a path. -/
def sampleLocation (pathname : List Char) (h : '?' ∉ pathname) : Location :=
  ⟨pathname, fun _ => none, h⟩

/-- A click on the price in NEW, and a visit to a game page. -/
def sampleShellRun : List ShellEvent :=
  [.clickField .price, .locate (sampleLocation "/g/x".toList (by decide))]

/-- The sort by price is still there on the game page, and UPCOMING starts in its own order. -/
theorem shell_refines_visit_sample :
    ∃ s, (shellSystem (sampleLocation "/new".toList (by decide))).run
        (shellSystem (sampleLocation "/new".toList (by decide))).init sampleShellRun = some s ∧
      s.view.sort = some ⟨.price, .asc⟩ ∧
      ∃ s', s.step (.locate (sampleLocation "/upcoming".toList (by decide))) = some s' ∧
        s'.activeSort = some ⟨.date, .asc⟩ ∧
        s'.visit = .start (sampleLocation "/upcoming".toList (by decide)) := by
  refine ⟨_, rfl, by decide +kernel, _, rfl, by decide +kernel, ?_⟩
  have hrefines := shell_refines_visit (sampleLocation "/new".toList (by decide))
  exact ((hrefines.2 _ ⟨sampleShellRun, rfl⟩).1 _ _ (by decide) (by decide) rfl).1

end Web

end PsStore
