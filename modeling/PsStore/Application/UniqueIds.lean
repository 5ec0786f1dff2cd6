import Mathlib.Data.List.ReduceOption
import PsStore.Application.RawPaging
import PsStore.Application.StoreAnswers

set_option relaxedAutoImplicit false
set_option autoImplicit false

/-!
# No id twice on a list

The web grid keys its cards by their ids, and the plain list view shows a list as it is. Every list
but DISCOUNTED drops the later cards of an id, each at its own place; DISCOUNTED keeps a product as
often as the grid names it.

## Main definitions

* `UniqueIds` — no id occurs twice in a list of cards.
* `UniqueEverywhere` — no list and no search or BROWSE answer shows an id twice.
* `Lookups.DiscountedOnce` — the Discounted grid names no kept product twice.

## Main results

* `Lookups.uniqueIds_discountedList_iff` — when DISCOUNTED shows no id twice.
* `uniqueEverywhere_iff` — no answer shows an id twice exactly where DISCOUNTED does not.
-/

namespace PsStore

open Json

/-- No id occurs twice in a list of cards. -/
def UniqueIds (games : List Game) : Prop := (games.map Game.id).Nodup

/-- Sorting keeps the ids. -/
lemma uniqueIds_sortByDate_iff {games : List Game} {order : SortOrder} :
    UniqueIds (sortByDate games order) ↔ UniqueIds games :=
  ((sortByDate_perm games order).map Game.id).nodup_iff

/-- A part of a list shows no id twice where the list does not. -/
lemma UniqueIds.sublist {games games' : List Game} (h : UniqueIds games)
    (hsub : games'.Sublist games) : UniqueIds games' :=
  (hsub.map Game.id).nodup h

/-- A window of a list shows no id twice where the list does not. -/
lemma UniqueIds.window {games : List Game} (h : UniqueIds games) (window : Window) (nowMs : ℤ) :
    UniqueIds (window.games games nowMs) := by
  cases window with
  | new => exact uniqueIds_sortByDate_iff.mpr (h.sublist List.filter_sublist)
  | upcoming => exact uniqueIds_sortByDate_iff.mpr (h.sublist List.filter_sublist)

/-- The cards of distinct products have distinct ids. -/
lemma nodup_map_toGameId {ids : List ProductId} (h : ids.Nodup) :
    (ids.map ProductId.toGameId).Nodup :=
  h.map ProductId.toGameId_injective

namespace Lookups

variable (u : Lookups)

/-! ## The lists -/

/-- The whole NEW or UPCOMING list. -/
def releaseList (window : Window) : Except UpstreamError (List Game) := do
  let games ← u.releaseGames
  return window.games games (u.clock .releaseWindow)

/-- NEW and UPCOMING answer pages of their whole lists. -/
lemma releaseListing_eq (window : Window) (page : Page) :
    u.releaseListing window page =
      (u.releaseList window).map fun games => paginate games page.offset page.size := by
  unfold releaseListing releaseList
  cases u.releaseGames <;> rfl

variable {u}

/-- **NEW and UPCOMING show no id twice**: the merge of the grids drops the later cards. -/
theorem uniqueIds_releaseList {window : Window} {games : List Game}
    (h : u.releaseList window = .ok games) : UniqueIds games := by
  obtain ⟨merged, hmerged, h⟩ := bind_eq_ok h
  cases h
  obtain ⟨grids, -, h⟩ := bind_eq_ok hmerged
  cases h
  apply UniqueIds.window
  unfold UniqueIds mergeReleaseGrids
  apply nodup_map_firstWins

/-- **MONTHLY shows no id twice** where the feed names no product twice. -/
theorem uniqueIds_monthlyList {entries : List PlusMonthlyEntry} {games : List Game}
    (hentries : u.plusMonthly = .ok entries)
    (hnodup : (entries.map PlusMonthlyEntry.productId).Nodup) (h : u.monthlyList = .ok games) :
    UniqueIds games := by
  obtain ⟨entries', hentries', rfl⟩ := monthlyList_eq_ok_iff.mp h
  obtain rfl : entries = entries' := Except.ok.inj (hentries.symm.trans hentries')
  rw [mapMonthlyToGames, uniqueIds_sortByDate_iff, UniqueIds, List.map_map]
  have hids := nodup_map_toGameId hnodup
  rwa [List.map_map] at hids

/-! ## DISCOUNTED -/

/-- The product ids that the concepts of a grid name, in grid order. -/
def gridProductIds (concepts : List Concept) : List ProductId :=
  concepts.filterMap fun concept => ProductId.parse (conceptProductId concept)

/-- DISCOUNTED keeps a product with this detail: Sony gives it a release date, and it is a full game
or a game bundle. -/
def IsDiscountedGame (detail : ProductDetail) : Prop :=
  (∃ date ∈ detail.releaseDate, date ≠ "") ∧
    isGameClassification detail.storeDisplayClassification = true

/-- The Discounted grid names no product at two places whose details are both kept. -/
def DiscountedOnce (u : Lookups) : Prop :=
  ∀ concepts, u.concepts .discounted = .ok concepts → ∀ i j p, i < j →
    (gridProductIds concepts)[i]? = some p → (gridProductIds concepts)[j]? = some p →
    ¬(IsDiscountedGame (u.lenientDetail i p) ∧ IsDiscountedGame (u.lenientDetail j p))

/-- The ids of the cards of a grid are the product ids that it names. -/
lemma map_id_mapConceptsToGames (concepts : List Concept) (nowMs : ℤ) :
    (mapConceptsToGames concepts nowMs).map Game.id =
      (gridProductIds concepts).map ProductId.toGameId := by
  rw [mapConceptsToGames, gridProductIds, List.map_filterMap, List.map_filterMap]
  congr 1
  funext concept
  rw [productCard, Option.map_map]
  rfl

/-- The filter of DISCOUNTED keeps the cards of kept products. -/
lemma kept_iff_isDiscountedGame (i : ℕ) (p : ProductId) :
    ((u.cardMeta i p.toGameId).hasSonyDate &&
      isGameClassification (u.cardMeta i p.toGameId).classification) = true ↔
      IsDiscountedGame (u.lenientDetail i p) := by
  have hmeta : u.cardMeta i p.toGameId = ProductMeta.of (u.lenientDetail i p) := by
    simp [cardMeta, cardDetail]
  rw [hmeta, Bool.and_eq_true, IsDiscountedGame]
  refine and_congr_left' ?_
  simp [ProductMeta.of, Option.any_eq_true]

/-- The list of a Discounted grid shows no id twice exactly where no two of its kept cards have
one. -/
lemma uniqueIds_discountedList_of_grid {concepts : List Concept} {games : List Game}
    (hgrid : u.concepts .discounted = .ok concepts) (h : u.discountedList = .ok games) :
    UniqueIds games ↔ (u.discountedCards concepts).Pairwise fun a b =>
      (a.2.hasSonyDate && isGameClassification a.2.classification) = true →
      (b.2.hasSonyDate && isGameClassification b.2.classification) = true → a.1.id ≠ b.1.id := by
  unfold discountedList at h
  rw [hgrid] at h
  cases h
  rw [uniqueIds_sortByDate_iff, UniqueIds, List.map_map, List.Nodup, List.pairwise_map,
    List.pairwise_filter]
  rfl

/-- The card at a place of the grid is that of the product that the grid names there. -/
lemma exists_of_discountedCards {concepts : List Concept} {i : ℕ} {card : Game × ProductMeta}
    (h : (u.discountedCards concepts)[i]? = some card) :
    ∃ p, (gridProductIds concepts)[i]? = some p ∧ card.1.id = p.toGameId ∧
      card.2 = u.cardMeta i p.toGameId := by
  rw [discountedCards_eq, List.getElem?_mapIdx] at h
  obtain ⟨game, hgame, rfl⟩ := Option.map_eq_some_iff.mp h
  have hids := congrArg (·[i]?) (map_id_mapConceptsToGames concepts (u.clock .discountedGrid))
  simp only [List.getElem?_map, hgame, Option.map_some] at hids
  obtain ⟨p, hp, hid⟩ := Option.map_eq_some_iff.mp hids.symm
  exact ⟨p, hp, hid.symm, by rw [hid]⟩

/-- Each product that the grid names has a card. -/
lemma exists_discountedCards_getElem? {concepts : List Concept} {i : ℕ} {p : ProductId}
    (h : (gridProductIds concepts)[i]? = some p) :
    ∃ card, (u.discountedCards concepts)[i]? = some card := by
  have hids := congrArg (·[i]?) (map_id_mapConceptsToGames concepts (u.clock .discountedGrid))
  simp only [List.getElem?_map, h, Option.map_some] at hids
  obtain ⟨game, hgame, -⟩ := Option.map_eq_some_iff.mp hids
  rw [discountedCards_eq, List.getElem?_mapIdx, hgame]
  exact ⟨_, rfl⟩

/-- **When DISCOUNTED shows no id twice**: exactly where its grid names no product at two places
whose details are both kept.

**Proof sketch.** The kept cards have distinct ids exactly where the cards at any two places of the
grid do, and the card at a place has the id and the detail of the product that the grid names
there. -/
theorem uniqueIds_discountedList_iff :
    (∀ games, u.discountedList = .ok games → UniqueIds games) ↔ u.DiscountedOnce := by
  constructor
  · rintro h concepts hgrid i j p hij hi hj ⟨hkepti, hkeptj⟩
    obtain ⟨games, hgames⟩ : ∃ games, u.discountedList = .ok games := by
      unfold discountedList
      rw [hgrid]
      exact ⟨_, rfl⟩
    have hpairwise := (uniqueIds_discountedList_of_grid hgrid hgames).mp (h games hgames)
    obtain ⟨a, ha⟩ := u.exists_discountedCards_getElem? hi
    obtain ⟨b, hb⟩ := u.exists_discountedCards_getElem? hj
    obtain ⟨p', hp', hida, hmetaa⟩ := exists_of_discountedCards ha
    obtain ⟨q', hq', hidb, hmetab⟩ := exists_of_discountedCards hb
    obtain rfl : p = p' := Option.some.inj (hi.symm.trans hp')
    obtain rfl : p = q' := Option.some.inj (hj.symm.trans hq')
    obtain ⟨hilt, rfl⟩ := List.getElem?_eq_some_iff.mp ha
    obtain ⟨hjlt, rfl⟩ := List.getElem?_eq_some_iff.mp hb
    refine List.pairwise_iff_getElem.mp hpairwise i j hilt hjlt hij ?_ ?_ (hida.trans hidb.symm)
    · rw [hmetaa]
      exact (kept_iff_isDiscountedGame i p).mpr hkepti
    · rw [hmetab]
      exact (kept_iff_isDiscountedGame j p).mpr hkeptj
  · intro h games hgames
    obtain ⟨concepts, hgrid, -⟩ := bind_eq_ok hgames
    rw [uniqueIds_discountedList_of_grid hgrid hgames, List.pairwise_iff_getElem]
    intro i j hi hj hij hkepti hkeptj hid
    obtain ⟨p, hp, hida, hmetaa⟩ := exists_of_discountedCards (List.getElem?_eq_getElem hi)
    obtain ⟨q, hq, hidb, hmetab⟩ := exists_of_discountedCards (List.getElem?_eq_getElem hj)
    obtain rfl : p = q := ProductId.toGameId_injective (hida.symm.trans (hid.trans hidb))
    rw [hmetaa] at hkepti
    rw [hmetab] at hkeptj
    exact h concepts hgrid i j p hij hp hq
      ⟨(kept_iff_isDiscountedGame i p).mp hkepti, (kept_iff_isDiscountedGame j p).mp hkeptj⟩

/-! ## Search and BROWSE -/

/-- A card of a search page has the id of its candidate. -/
lemma id_of_resolveSearchCandidate {nowMs : ℤ} {i : ℕ} {candidate : SearchCandidate} {game : Game}
    (h : u.resolveSearchCandidate nowMs i candidate = some game) :
    game.id = candidate.productId.toGameId := by
  unfold resolveSearchCandidate at h
  cases candidate with
  | known productId concept =>
    dsimp only at h
    split_ifs at h <;> (cases h; rfl)
  | unverified productId concept =>
    dsimp only at h
    split_ifs at h <;> (cases h; rfl)

/-- The cards of a batch of candidates are a part of the candidates, in their order. -/
lemma map_id_reduceOption_sublist {key : SearchCandidate → GameId}
    {resolve : ℕ → SearchCandidate → Option Game}
    (hid : ∀ i candidate game, resolve i candidate = some game → game.id = key candidate)
    (candidates : List SearchCandidate) :
    ((candidates.mapIdx resolve).reduceOption.map Game.id).Sublist (candidates.map key) := by
  induction candidates generalizing resolve with
  | nil => simp
  | cons candidate candidates ih =>
    rw [List.mapIdx_cons, List.map_cons]
    have hrest := @ih (fun i => resolve (i + 1)) fun i => hid (i + 1)
    cases hresolve : resolve 0 candidate with
    | none =>
      rw [List.reduceOption_cons_of_none]
      exact hrest.cons _
    | some game =>
      rw [List.reduceOption_cons_of_some, List.map_cons, hid 0 candidate game hresolve]
      exact hrest.cons_cons _

/-- **A search answer shows no id twice** where no page of candidates does. -/
theorem uniqueIds_searchGames {term : String} {page : Page} {result : PageResult}
    (hcandidates : ∀ offset found, u.searchPage term offset page.size = .ok found →
      (found.candidates.map SearchCandidate.productId).Nodup)
    (h : u.searchGames term page = .ok result) : UniqueIds result.games := by
  obtain ⟨offset, raw, hraw, hgames⟩ := exists_page_of_rawPages h
  rw [readSearchPage_eq] at hraw
  obtain ⟨found, hfound, hraw⟩ := bind_eq_ok hraw
  cases hraw
  rw [hgames, UniqueIds]
  have hids := nodup_map_toGameId (hcandidates offset found hfound)
  rw [List.map_map] at hids
  refine List.Nodup.sublist (map_id_reduceOption_sublist ?_ found.candidates) hids
  intro i candidate game hgame
  exact id_of_resolveSearchCandidate hgame

/-- **A BROWSE answer shows no id twice**: each raw page drops the later cards of an id. -/
theorem uniqueIds_browseGames {genre : GenreKey} {order : BrowseOrder} {page : Page}
    {result : PageResult} (h : u.browseGames genre order page = .ok result) :
    UniqueIds result.games := by
  obtain ⟨offset, raw, hraw, hgames⟩ := exists_page_of_rawPages h
  obtain ⟨found, -, hraw⟩ := bind_eq_ok hraw
  rw [hgames, (browseRawPage_eq_ok hraw).1, UniqueIds]
  apply nodup_map_firstWins

end Lookups

/-! ## What the boundary gives -/

/-- The search boundary gives no candidate twice. -/
lemma nodup_fetchSearchPage {contract : SonyContract} {answer : Except UpstreamError Value}
    {page : SearchPage} (h : fetchSearchPage contract answer = .ok page) :
    (page.candidates.map SearchCandidate.productId).Nodup := by
  obtain ⟨json, -, h⟩ := bind_eq_ok h
  cases houtcome : parseSearchResponse json with
  | drift => rw [houtcome] at h; cases h
  | ok entries isLast dropped =>
    rw [houtcome] at h
    cases h
    apply nodup_map_firstWins

/-- The feed gives no product twice. -/
lemma nodup_fetchPlusMonthly {answer : Except UpstreamError Value}
    {entries : List PlusMonthlyEntry} (h : fetchPlusMonthly answer = .ok entries) :
    (entries.map PlusMonthlyEntry.productId).Nodup := by
  obtain ⟨json, -, h⟩ := bind_eq_ok h
  cases houtcome : parsePlusMonthly json with
  | drift => rw [houtcome] at h; cases h
  | ok entries' dropped outOfScope =>
    rw [houtcome] at h
    cases h
    obtain ⟨buckets, -, rfl⟩ := parsePlusMonthly_entries houtcome
    apply nodup_map_firstWins

/-- **PURCHASED shows no id twice.** -/
theorem uniqueIds_purchased {account : AccountAnswers} {contract : SonyContract}
    {result : PageResult} (h : account.purchased contract = .ok result) :
    UniqueIds result.games := by
  obtain ⟨-, -, h⟩ := bind_eq_ok h
  obtain ⟨entries, hentries, h⟩ := bind_eq_ok h
  cases h
  have hids := nodup_map_toGameId (nodup_purchasedGames hentries)
  rw [List.map_map] at hids
  show ((purchasedCards entries).map Game.id).Nodup
  rwa [purchasedCards, List.map_map]

/-- **WISHLIST shows no id twice**, whatever the store lookups find. -/
theorem uniqueIds_wishlistCards {account : AccountAnswers} {contract : SonyContract}
    {result : PageResult} (h : account.wishlistCards contract = .ok result) :
    UniqueIds result.games := by
  obtain ⟨-, -, h⟩ := bind_eq_ok h
  obtain ⟨entries, hentries, h⟩ := bind_eq_ok h
  cases h
  have hids := (nodup_wishlistGames hentries).map WishlistId.gameId_injective
  rw [List.map_map] at hids
  show ((account.store.cards entries).map Game.id).Nodup
  rw [account.store.map_id_cards]
  exact hids

/-- No list and no search or BROWSE answer shows an id twice. -/
structure UniqueEverywhere (contract : SonyContract) (answers : StoreAnswers)
    (account : AccountAnswers) : Prop where
  release : ∀ window games, (answers.lookups contract).releaseList window = .ok games →
    UniqueIds games
  discounted : ∀ games, (answers.lookups contract).discountedList = .ok games → UniqueIds games
  monthly : ∀ games, (answers.lookups contract).monthlyList = .ok games → UniqueIds games
  purchased : ∀ result, account.purchased contract = .ok result → UniqueIds result.games
  wishlist : ∀ result, account.wishlistCards contract = .ok result → UniqueIds result.games
  search : ∀ term page result, (answers.lookups contract).searchGames term page = .ok result →
    UniqueIds result.games
  browse : ∀ genre order page result,
    (answers.lookups contract).browseGames genre order page = .ok result → UniqueIds result.games

/-- **No answer shows an id twice** exactly where the Discounted grid names no product at two places
whose details both have a release date and a game classification.

**Proof sketch.** The discounted list is the only one without a first-wins filter: it repeats an id
exactly where the grid does (`Lookups.uniqueIds_discountedList_iff`). The other lists have one lemma
each. -/
theorem uniqueEverywhere_iff (contract : SonyContract) (answers : StoreAnswers)
    (account : AccountAnswers) :
    UniqueEverywhere contract answers account ↔ (answers.lookups contract).DiscountedOnce := by
  rw [← Lookups.uniqueIds_discountedList_iff]
  constructor
  · intro h
    exact h.discounted
  · intro hdiscounted
    refine ⟨?_, hdiscounted, ?_, ?_, ?_, ?_, ?_⟩
    · intro window games hgames
      exact Lookups.uniqueIds_releaseList hgames
    · intro games hgames
      obtain ⟨entries, hentries, -⟩ := Lookups.monthlyList_eq_ok_iff.mp hgames
      exact Lookups.uniqueIds_monthlyList hentries (nodup_fetchPlusMonthly hentries) hgames
    · intro result hresult
      exact uniqueIds_purchased hresult
    · intro result hresult
      exact uniqueIds_wishlistCards hresult
    · intro term page result hresult
      exact Lookups.uniqueIds_searchGames (fun _ _ hfound => nodup_fetchSearchPage hfound) hresult
    · intro genre order page result hresult
      exact Lookups.uniqueIds_browseGames hresult

/-- The JSON of a grid concept that names the sample product. -/
def sampleConceptJson : Value :=
  .object [("name", .string "Sample"),
    ("products", .array [.object [("id", .string sampleProduct.text)]])]

/-- A store whose Discounted grid names one full game twice. -/
def repeatedStore : StoreAnswers :=
  { StoreAnswers.empty with
    grid := fun
      | .discounted => .ok (dataBody "categoryGridRetrieve"
          (.object [("concepts", .array [sampleConceptJson, sampleConceptJson])]))
      | .new | .upcoming => .ok (dataBody "categoryGridRetrieve" (.object []))
    detail := fun _ _ => .ok (dataBody "productRetrieve" (.object [
      ("releaseDate", .string "2020-01-01"),
      ("storeDisplayClassification", .string "FULL_GAME")])) }

/-- A browser that is not signed in. -/
def AccountAnswers.signedOut : AccountAnswers where
  exchange := .error rejected
  purchasedPages := fun _ => .error rejected
  purchasedLate := false
  wishlist := .error rejected
  wishlistLate := false
  store := { found := fun _ _ => none, completion := fun _ => 0, inTime := true }

/-- **DISCOUNTED shows a repeated product twice.** -/
theorem not_uniqueEverywhere_repeated :
    ¬UniqueEverywhere sampleContract repeatedStore AccountAnswers.signedOut := by
  intro h
  have hlist : ((repeatedStore.lookups sampleContract).discountedList.map
      (List.map Game.id)).toOption =
      some [sampleProduct.toGameId, sampleProduct.toGameId] := by
    decide
  cases hgames : (repeatedStore.lookups sampleContract).discountedList with
  | error e =>
    rw [hgames] at hlist
    cases hlist
  | ok games =>
    rw [hgames] at hlist
    have hunique := h.discounted games hgames
    rw [UniqueIds, Option.some.inj hlist] at hunique
    simp at hunique

end PsStore
