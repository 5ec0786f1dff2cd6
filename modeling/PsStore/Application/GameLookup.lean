import PsStore.Application.Games

set_option relaxedAutoImplicit false
set_option autoImplicit false

/-!
# The game page of an id

Which outcome the game page has for every combination of upstream outcomes. The four lists decide
in order, an outage is never a missing game, and the lenient detail and the price only fill the
page of a game that was found.

## Main definitions

* `Game.SamePrice` — two games with one price and one discount.
* `Lookups.MissedByAll`, `Lookups.NotPs5` — what a missing game page proves.

## Main results

* `Lookups.gameById_decides` — the outcome of the game page, by the first list that decides.
-/

namespace PsStore

/-- The price and the discount fields of two games agree. -/
structure Game.SamePrice (a b : Game) : Prop where
  price : a.price = b.price
  originalPrice : a.originalPrice = b.originalPrice
  discountText : a.discountText = b.discountText
  discountDate : a.discountDate = b.discountDate

namespace Lookups

variable (u : Lookups)

/-- Every list lookup succeeded, and no list holds the id. -/
def MissedByAll (id : GameId) : Prop := ∀ cards ∈ u.storeLists, Misses (·.id = id) cards

/-- The id is no product id, or the strict detail succeeded and is not a PS5 game. -/
def NotPs5 (id : GameId) : Prop :=
  id.productId = none ∨ ∃ p detail, id.productId = some p ∧ u.strictDetail p = .ok detail ∧
    isPs5Game detail.platforms detail.storeDisplayClassification = false

variable {u}

/-- Where every list misses, the product itself decides. -/
lemma gameById_of_missedByAll {id : GameId} (h : u.MissedByAll id) :
    u.gameById id = u.byProductId id := by
  rw [gameById_eq, searchLists_eq_none_iff.mpr h]

/-- The first failure of a list before a hit is the failure of the game page. -/
lemma gameById_of_failure {id : GameId} {pre post : List (Except UpstreamError (List Game))}
    {e : UpstreamError} (hlists : u.storeLists = pre ++ .error e :: post)
    (hpre : ∀ cards ∈ pre, Misses (·.id = id) cards) :
    u.gameById id = .error (.upstream e) := by
  have hsearch : searchLists (·.id = id) u.storeLists = .error e :=
    searchLists_eq_error_iff.mpr ⟨pre, post, hlists, hpre⟩
  rw [gameById_eq, hsearch]

/-- The first hit is the card of the game page, whatever the later lists are. -/
lemma gameById_of_hit {id : GameId} {game : Game}
    (hsearch : searchLists (·.id = id) u.storeLists = .ok (some game)) :
    u.gameById id = .ok (u.enrichWithDetail game) := by
  rw [gameById_eq, hsearch]

/-- **When a game page is missing.** -/
lemma gameById_eq_notFound_iff {id id' : GameId} :
    u.gameById id = .error (.notFound id') ↔ id' = id ∧ u.MissedByAll id ∧ u.NotPs5 id := by
  constructor
  · intro h
    have hmissed : u.MissedByAll id := by
      rw [MissedByAll, ← searchLists_eq_none_iff]
      rw [gameById_eq] at h
      split at h
      · cases h
      · cases h
      · assumption
    rw [gameById_of_missedByAll hmissed] at h
    obtain ⟨rfl, hnot⟩ := u.byProductId_eq_notFound_iff.mp h
    exact ⟨rfl, hmissed, hnot⟩
  · intro h
    obtain ⟨rfl, hmissed, hnot⟩ := h
    rw [gameById_of_missedByAll hmissed]
    exact u.byProductId_eq_notFound_iff.mpr ⟨rfl, hnot⟩

/-- A list that holds the id does not miss. -/
lemma MissedByAll.ne_of_mem {id : GameId} (h : u.MissedByAll id) {cards : List Game}
    (hcards : .ok cards ∈ u.storeLists) {card : Game} (hcard : card ∈ cards) : card.id ≠ id := by
  obtain ⟨l, hl, hmiss⟩ := h _ hcards
  cases hl
  simpa using hmiss card hcard

/-- Where every list misses a product id, no concept of a grid names it. -/
lemma MissedByAll.not_named {p : ProductId} (h : u.MissedByAll p.toGameId)
    {feature : SonyFeature} {concepts : List Concept} (hgrid : u.concepts feature = .ok concepts)
    {concept : Concept} (hconcept : concept ∈ concepts) : conceptProductId concept ≠ p.text := by
  intro hnamed
  have hlist : u.gridCards feature ∈ u.storeLists := by
    unfold storeLists
    cases feature <;> simp
  have hcards : u.gridCards feature =
      .ok (mapConceptsToGames concepts (u.clock (.gamePageGrid feature))) :=
    gridCards_eq_ok_iff.mpr ⟨concepts, hgrid, rfl⟩
  have hmem : conceptToGame concept p.toGameId (u.clock (.gamePageGrid feature)) ∈
      mapConceptsToGames concepts (u.clock (.gamePageGrid feature)) :=
    mem_mapConceptsToGames_iff.mpr ⟨concept, hconcept, p, hnamed.symm, rfl⟩
  exact h.ne_of_mem (hcards ▸ hlist) hmem rfl

/-- A product that no list holds has its game page from other price lookups too, with the same id
and name. -/
lemma byProductId_of_other_price (u v : Lookups) (hstrict : v.strictDetail = u.strictDetail)
    {id : GameId} {game : Game} (h : u.byProductId id = .ok game) :
    ∃ game', v.byProductId id = .ok game' ∧ game'.id = game.id ∧ game'.name = game.name := by
  cases hp : id.productId with
  | none =>
    unfold byProductId at h
    rw [hp] at h
    cases h
  | some p =>
    rw [u.byProductId_of_productId hp] at h
    rw [v.byProductId_of_productId hp, hstrict]
    cases hdetail : u.strictDetail p with
    | error e => rw [hdetail] at h; cases h
    | ok detail =>
      rw [hdetail] at h
      dsimp only at h ⊢
      split_ifs at h ⊢ with hps5 hname
      cases h
      exact ⟨_, rfl, rfl, rfl⟩

/-- **The game page decides precisely.** For every id and every combination of upstream outcomes:

* the answer is "not found" exactly where all four lists succeeded and miss, and the id is no
  product id or the product's strict detail proves that it is not a PS5 game;
* the first list that fails before a hit makes the answer that very failure, and so does the
  strict detail after four misses;
* the first hit is the page's card, whatever the later lists are;
* other outcomes of the price and of the lenient detail keep a game that is found: its id and its
  name, and the price fields where a list card has a price.

**Proof sketch.** The lists are searched in order, and `searchLists` has one characterisation for
each of its outcomes: a failure behind misses, a hit behind misses, or misses alone. Behind four
misses the strict detail decides. The prices and the lenient details are read after the search, so
two requests that differ in them only take the same path, and the enrichment keeps the id, the name
and a price that the card has. -/
theorem gameById_decides (u : Lookups) (id : GameId) :
    (∀ id', u.gameById id = .error (.notFound id') ↔
      id' = id ∧ u.MissedByAll id ∧ u.NotPs5 id) ∧
    (∀ pre e post, u.storeLists = pre ++ .error e :: post →
      (∀ cards ∈ pre, Misses (·.id = id) cards) → u.gameById id = .error (.upstream e)) ∧
    (u.MissedByAll id → ∀ p e, id.productId = some p → u.strictDetail p = .error e →
      u.gameById id = .error (.upstream e)) ∧
    (∀ pre cards post card, u.storeLists = pre ++ .ok cards :: post →
      (∀ cards ∈ pre, Misses (·.id = id) cards) → cards.find? (·.id = id) = some card →
      u.gameById id = .ok (u.enrichWithDetail card)) ∧
    (∀ detail price game, u.gameById id = .ok game →
      ∃ game', { u with detail, price }.gameById id = .ok game' ∧
        game'.id = game.id ∧ game'.name = game.name ∧
        ∀ card, searchLists (·.id = id) u.storeLists = .ok (some card) → card.price ≠ "" →
          game'.SamePrice card ∧ game.SamePrice card) := by
  refine ⟨fun id' => gameById_eq_notFound_iff, ?_, ?_, ?_, ?_⟩
  · intro pre e post hlists hpre
    exact gameById_of_failure hlists hpre
  · intro hmissed p e hp hstrict
    rw [gameById_of_missedByAll hmissed, u.byProductId_of_productId hp, hstrict]
  · intro pre cards post card hlists hpre hcard
    exact gameById_of_hit (searchLists_eq_some_iff.mpr ⟨pre, cards, post, hlists, hpre, hcard⟩)
  · intro detail price game hgame
    set v : Lookups := { u with detail, price }
    -- the lists, the strict detail and the clock of both requests are the same
    have hlists : v.storeLists = u.storeLists := rfl
    cases hsearch : searchLists (·.id = id) u.storeLists with
    | error e =>
      rw [gameById_eq, hsearch] at hgame
      cases hgame
    | ok found =>
      cases found with
      | some card =>
        rw [gameById_of_hit hsearch] at hgame
        cases hgame
        obtain ⟨hid, hname, -, hprice⟩ := u.enrichWithDetail_keeps card
        obtain ⟨hid', hname', -, hprice'⟩ := v.enrichWithDetail_keeps card
        refine ⟨_, gameById_of_hit (hlists ▸ hsearch), hid'.trans hid.symm,
          hname'.trans hname.symm, ?_⟩
        intro card' hcard hne
        cases hcard
        obtain ⟨h1, h2, h3, h4⟩ := hprice hne
        obtain ⟨h1', h2', h3', h4'⟩ := hprice' hne
        exact ⟨⟨h1', h2', h3', h4'⟩, ⟨h1, h2, h3, h4⟩⟩
      | none =>
        have hmissed : u.MissedByAll id := searchLists_eq_none_iff.mp hsearch
        have hmissed' : v.MissedByAll id := hmissed
        rw [gameById_of_missedByAll hmissed] at hgame
        obtain ⟨game', hgame', hid, hname⟩ := byProductId_of_other_price u v rfl hgame
        refine ⟨game', (gameById_of_missedByAll hmissed').trans hgame', hid, hname, ?_⟩
        intro card hcard
        cases hcard

end Lookups

end PsStore
