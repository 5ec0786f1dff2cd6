import PsStore.Application.RawPaging
import PsStore.Application.ReleaseLists
import PsStore.Domain.DateForm
import PsStore.Lib.Except

set_option relaxedAutoImplicit false
set_option autoImplicit false

/-!
# The flags of a card and its date

A card is built with three fields that follow from its release date: the date, `preOrder` and
`discountDate`. NEW, UPCOMING, DISCOUNTED, search and the game page replace the date later and keep
the other two, so the flags agree with the final date only where both dates lie on one side of now
and, for a discounted card, are the same. BROWSE and the product-id fallback build all three fields
from the final date.

## Main definitions

* `Game.FlagsAgree` — the flags of a card follow from its date.
* `DatesAgree` — what the flags need of the date of the concept and the final date.
* `PageDatesAgree` — what they need on the game page of a grid card.

## Main results

* `Game.flagsAgree_iff` — a card with another date than that of its concept.
* `Lookups.release_flags` — the lists, search, BROWSE and the game pages.
-/

namespace PsStore

/-! ## Flags and dates -/

/-- The date parses and lies after now. -/
def isAfter (nowMs : ℤ) (date : String) : Bool :=
  (parseDateMs date).any fun ms => decide (nowMs < ms)

/-- The card shows a discount: an original price or a discount text. -/
def Game.isDiscounted (game : Game) : Bool := game.originalPrice != "" || game.discountText != ""

/-- The flags of the card follow from its date. -/
structure Game.FlagsAgree (nowMs : ℤ) (game : Game) : Prop where
  /-- A pre-order is a game whose date lies after now. -/
  preOrder : game.preOrder = isAfter nowMs game.date
  /-- The discount date of a discounted card is its date. -/
  discountDate : game.discountDate = if game.isDiscounted then game.date else ""

/-- The release date that a concept gives its card. -/
def conceptDate (concept : Concept) : String :=
  toIsoOrDefault ((firstProduct concept).bind ConceptProductRef.releaseDate)

/-- The date of the concept and the final date lie on one side of now, and where the concept that
gives the price is discounted, its date is the final date. -/
def DatesAgree (nowMs : ℤ) (concept priced : Concept) (date : String) : Prop :=
  isAfter nowMs (conceptDate concept) = isAfter nowMs date ∧
    (isConceptDiscounted priced = true → conceptDate priced = date)

/-- A concept that is discounted shows it on its card, and no other one does. -/
lemma isDiscounted_conceptToGame (concept : Concept) (id : GameId) (nowMs : ℤ) :
    (conceptToGame concept id nowMs).isDiscounted = isConceptDiscounted concept := by
  show (((if isConceptDiscounted concept then
      (concept.price.bind ConceptPrice.basePrice).getD "" else "") != "") ||
    ((if isConceptDiscounted concept then
      (concept.price.bind ConceptPrice.discountText).getD "" else "") != "")) = _
  cases hdiscounted : isConceptDiscounted concept with
  | false => rfl
  | true =>
    simp only [if_true]
    unfold isConceptDiscounted at hdiscounted
    dsimp only at hdiscounted
    rcases (Bool.or_eq_true _ _).mp hdiscounted with htext | hprices
    · obtain ⟨text, htext⟩ := Option.isSome_iff_exists.mp htext
      have hne := ne_empty_of_nonEmpty htext
      unfold nonEmpty at htext
      rw [(Option.filter_eq_some_iff.mp htext).1]
      simp [hne]
    · simp only [Bool.and_eq_true] at hprices
      rw [hprices.1.1, Bool.true_or]

/-- The empty date is not after now. -/
@[simp] lemma isAfter_empty (nowMs : ℤ) : isAfter nowMs "" = false := rfl

/-- The pre-order flag of the card of a concept. -/
lemma preOrder_conceptToGame (concept : Concept) (id : GameId) (nowMs : ℤ) :
    (conceptToGame concept id nowMs).preOrder = isAfter nowMs (conceptDate concept) := by
  show (conceptDate concept != "" && isAfter nowMs (conceptDate concept)) = _
  by_cases hempty : conceptDate concept = ""
  · rw [hempty]
    rfl
  · simp [hempty]

/-- The discount date of the card of a concept. -/
lemma discountDate_conceptToGame (concept : Concept) (id : GameId) (nowMs : ℤ) :
    (conceptToGame concept id nowMs).discountDate =
      if isConceptDiscounted concept then conceptDate concept else "" := by
  show (if isConceptDiscounted concept && conceptDate concept != "" then conceptDate concept
    else "") = _
  by_cases hempty : conceptDate concept = ""
  · simp [hempty]
  · simp [hempty]

/-- **The flags of a card whose date is replaced.** A card with the pre-order flag of the card of
one concept, the price texts of the card of another, and any date. -/
theorem Game.flagsAgree_iff {nowMs : ℤ} {concept priced : Concept} (id : GameId) {game : Game}
    (hpre : game.preOrder = (conceptToGame concept id nowMs).preOrder)
    (hdate : game.discountDate = (conceptToGame priced id nowMs).discountDate)
    (hprice : game.originalPrice = (conceptToGame priced id nowMs).originalPrice)
    (htext : game.discountText = (conceptToGame priced id nowMs).discountText) :
    game.FlagsAgree nowMs ↔ DatesAgree nowMs concept priced game.date := by
  have hdiscounted : game.isDiscounted = isConceptDiscounted priced := by
    rw [← isDiscounted_conceptToGame priced id nowMs]
    unfold Game.isDiscounted
    rw [hprice, htext]
  rw [preOrder_conceptToGame] at hpre
  rw [discountDate_conceptToGame] at hdate
  constructor
  · intro h
    obtain ⟨hflag, hdiscount⟩ := h
    refine ⟨hpre.symm.trans hflag, ?_⟩
    intro hpriced
    rw [hdate, hdiscounted, hpriced, if_pos rfl, if_pos rfl] at hdiscount
    exact hdiscount
  · intro h
    obtain ⟨hside, hsame⟩ := h
    refine ⟨hpre.trans hside, ?_⟩
    rw [hdate, hdiscounted]
    cases hpriced : isConceptDiscounted priced with
    | false => rfl
    | true => rw [hsame hpriced]

/-- A BROWSE card agrees with the date of its product. -/
lemma flagsAgree_browseConceptToGame (concept : Concept) (productId : ProductId)
    (releaseDate : String) (genres : List String) (nowMs : ℤ) :
    (browseConceptToGame concept productId releaseDate genres nowMs).FlagsAgree nowMs := by
  have hdate : ((parseDateMs releaseDate).bind toIsoString).getD "" =
      toIsoOrDefault (some releaseDate) := by
    unfold toIsoOrDefault
    by_cases hempty : releaseDate = ""
    · subst hempty
      rfl
    · dsimp only
      rw [if_neg hempty]
  constructor
  · show ((((parseDateMs releaseDate).bind toIsoString).getD "" != "") &&
      isAfter nowMs releaseDate) =
        isAfter nowMs (((parseDateMs releaseDate).bind toIsoString).getD "")
    rw [hdate]
    by_cases hempty : toIsoOrDefault (some releaseDate) = ""
    · rw [hempty]
      rfl
    · have hkept : ¬ LosesText releaseDate :=
        fun hloses => hempty (toIsoOrDefault_of_losesText hloses)
      have hinstant : isAfter nowMs (toIsoOrDefault (some releaseDate)) =
          isAfter nowMs releaseDate := by
        unfold isAfter
        rw [parseDateMs_toIsoOrDefault hkept]
      rw [← hinstant]
      simp [hempty]
  · have hdiscounted := isDiscounted_conceptToGame concept productId.toGameId nowMs
    show (if isConceptDiscounted concept then _ else "") =
      if (conceptToGame concept productId.toGameId nowMs).isDiscounted then _ else ""
    rw [hdiscounted]
    rfl

/-- The concept of a search candidate. -/
def SearchCandidate.concept : SearchCandidate → Concept
  | .known _ concept => concept
  | .unverified _ concept => concept

/-- Two joined lookups give both values. -/
lemma tryJoin_eq_ok {ε α β : Type} {secondFailsFirst : Bool} {x : Except ε α} {y : Except ε β}
    {values : α × β} (h : tryJoin secondFailsFirst x y = .ok values) :
    x = .ok values.1 ∧ y = .ok values.2 := by
  cases x with
  | error e => cases y <;> cases h
  | ok a =>
    cases y with
    | error e => cases h
    | ok b =>
      rw [← Except.ok.inj h]
      exact ⟨rfl, rfl⟩

/-! ## The game page of a grid card -/

/-- Sony names a discounted or a base price for the concept. -/
def namesPrice (concept : Concept) : Bool :=
  (nonEmpty (concept.price.bind ConceptPrice.discountedPrice)).isSome ||
    (nonEmpty (concept.price.bind ConceptPrice.basePrice)).isSome

/-- The date of a game page: that of the detail, else that of the grid. -/
def pageDate (concept : Concept) (detail : ProductDetail) : String :=
  match detail.releaseDate with
  | none => conceptDate concept
  | some text => toIsoOrDefault (some text)

/-- The concept that gives the price of the game page: that of the grid where Sony names a price
for it, else the one that the detail and the standard price stand for. -/
def pricedConcept (concept : Concept) (productId : ProductId) (detail : ProductDetail)
    (standard : Option StandardPrice) : Concept :=
  if namesPrice concept then concept else detailConcept productId detail standard

/-- What the flags of the game page of a grid card need. -/
def PageDatesAgree (nowMs : ℤ) (concept : Concept) (productId : ProductId)
    (detail : ProductDetail) (standard : Option StandardPrice) : Prop :=
  DatesAgree nowMs concept (pricedConcept concept productId detail standard)
    (pageDate concept detail)

/-- The card of a concept has a price where Sony names one. -/
lemma namesPrice_eq_true_iff (concept : Concept) (id : GameId) (nowMs : ℤ) :
    namesPrice concept = true ↔ (conceptToGame concept id nowMs).price ≠ "" := by
  rw [ne_eq, conceptToGame_price]
  unfold namesPrice
  rw [Bool.or_eq_true, Option.isSome_iff_ne_none, Option.isSome_iff_ne_none]
  tauto

/-- A filled card has the price fields of the concept that gives the price of the page. -/
lemma fillCardFromDetail_priced (concept : Concept) (p : ProductId) (detail : ProductDetail)
    (standard : Option StandardPrice) (nowMs : ℤ) :
    let page := fillCardFromDetail (conceptToGame concept p.toGameId nowMs)
      (productDetailToGame p detail standard nowMs)
    let priced := conceptToGame (pricedConcept concept p detail standard) p.toGameId nowMs
    page.discountDate = priced.discountDate ∧ page.originalPrice = priced.originalPrice ∧
      page.discountText = priced.discountText := by
  have hprice := namesPrice_eq_true_iff concept p.toGameId nowMs
  unfold fillCardFromDetail pricedConcept productDetailToGame
  dsimp only
  by_cases hempty : (conceptToGame concept p.toGameId nowMs).price = ""
  · rw [if_pos hempty, if_neg (fun h => hprice.mp h hempty)]
    exact ⟨rfl, rfl, rfl⟩
  · rw [if_neg hempty, if_pos (hprice.mpr hempty)]
    exact ⟨rfl, rfl, rfl⟩

namespace Lookups

variable {u : Lookups} {nowMs : ℤ}

/-- The game page of a product card, written out. -/
lemma enrichWithDetail_conceptToGame (hclock : ∀ reading, u.clock reading = nowMs)
    (concept : Concept) (p : ProductId) :
    let detail := u.lenientDetail 0 p
    let page := fillCardFromDetail (conceptToGame concept p.toGameId nowMs)
      (productDetailToGame p detail (u.priceOrNone p).standard nowMs)
    u.enrichWithDetail (conceptToGame concept p.toGameId nowMs) =
      { page with
        date := pageDate concept detail
        genres := if detail.genres = [] then page.genres else detail.genres
        description := if detail.description = "" then page.description else detail.description
        studio := detail.publisherName.getD page.studio
        plusOffer := (u.priceOrNone p).plusOffer } := by
  have hdetail : u.cardDetail 0 p.toGameId = u.lenientDetail 0 p := by
    unfold cardDetail
    rw [ProductId.productId_toGameId]
  have hprice : u.cardPrice (conceptToGame concept p.toGameId nowMs) = u.priceOrNone p := by
    unfold cardPrice
    rw [conceptToGame_id, ProductId.productId_toGameId, if_neg (fun h => h rfl)]
  unfold enrichWithDetail
  rw [conceptToGame_id, hdetail, hprice, hclock, ProductId.productId_toGameId]
  dsimp only
  rw [if_pos (conceptToGame_idKind concept p.toGameId nowMs)]
  rfl

/-- **The game page of a grid card.** -/
theorem flagsAgree_enrichWithDetail_iff (hclock : ∀ reading, u.clock reading = nowMs)
    (concept : Concept) (p : ProductId) :
    (u.enrichWithDetail (conceptToGame concept p.toGameId nowMs)).FlagsAgree nowMs ↔
      PageDatesAgree nowMs concept p (u.lenientDetail 0 p) (u.priceOrNone p).standard := by
  obtain ⟨hdate, horiginal, htext⟩ := fillCardFromDetail_priced concept p (u.lenientDetail 0 p)
    (u.priceOrNone p).standard nowMs
  rw [enrichWithDetail_conceptToGame hclock]
  exact Game.flagsAgree_iff p.toGameId rfl hdate horiginal htext

/-- A product page agrees with the date of the product. -/
lemma flagsAgree_byProductId (hclock : ∀ reading, u.clock reading = nowMs) {id : GameId}
    {game : Game} (h : u.byProductId id = .ok game) : game.FlagsAgree nowMs := by
  cases hp : id.productId with
  | none =>
    unfold byProductId at h
    rw [hp] at h
    cases h
  | some p =>
    rw [u.byProductId_of_productId hp] at h
    cases hdetail : u.strictDetail p with
    | error e =>
      rw [hdetail] at h
      cases h
    | ok detail =>
      rw [hdetail, hclock] at h
      dsimp only at h
      split_ifs at h
      rw [← Except.ok.inj h]
      let concept := detailConcept p detail (u.priceOrNone p).standard
      have hpage : DatesAgree nowMs concept concept (conceptDate concept) := ⟨rfl, fun _ => rfl⟩
      refine (@Game.flagsAgree_iff nowMs concept concept p.toGameId _ ?_ ?_ ?_ ?_).mpr hpage
      all_goals rfl

/-- The game page of an id that a grid holds, that only MONTHLY holds, or that no list holds.

**Proof sketch.** The page is that of the first list with the id, or that of the product itself
where every list misses (`gameById_eq`). The first three lists are grids of concepts, and the last
one is the feed. -/
lemma flags_gameById (hclock : ∀ reading, u.clock reading = nowMs) {id : GameId} {game : Game}
    (h : u.gameById id = .ok game) :
    (∃ feature concepts concept p, u.concepts feature = .ok concepts ∧ concept ∈ concepts ∧
      conceptProductId concept = p.text ∧ id = p.toGameId ∧ (game.FlagsAgree nowMs ↔
        PageDatesAgree nowMs concept p (u.lenientDetail 0 p) (u.priceOrNone p).standard)) ∨
    (∃ entries entry, u.plusMonthly = .ok entries ∧ entry ∈ entries ∧
      id = entry.productId.toGameId ∧ game = u.enrichWithDetail (monthlyEntryToGame entry)) ∨
    (u.byProductId id = .ok game ∧ game.FlagsAgree nowMs) := by
  rw [gameById_eq] at h
  cases hsearch : searchLists (·.id = id) u.storeLists with
  | error e =>
    rw [hsearch] at h
    cases h
  | ok found =>
    rw [hsearch] at h
    cases found with
    | none => exact Or.inr (Or.inr ⟨h, flagsAgree_byProductId hclock h⟩)
    | some card =>
      obtain rfl : u.enrichWithDetail card = game := Except.ok.inj h
      obtain ⟨pre, cards, post, hlists, -, hfind⟩ := searchLists_eq_some_iff.mp hsearch
      have hmem := List.mem_of_find?_eq_some hfind
      have hid : card.id = id := by simpa using List.find?_some hfind
      have hlist : .ok cards ∈ u.storeLists := by
        rw [hlists]
        exact List.mem_append_right _ List.mem_cons_self
      have hgrid : ∀ feature, .ok cards = u.gridCards feature → ∃ feature concepts concept p,
          u.concepts feature = .ok concepts ∧ concept ∈ concepts ∧
          conceptProductId concept = p.text ∧ id = p.toGameId ∧
          ((u.enrichWithDetail card).FlagsAgree nowMs ↔ PageDatesAgree nowMs concept p
            (u.lenientDetail 0 p) (u.priceOrNone p).standard) := by
        intro feature hcards
        obtain ⟨concepts, hconcepts, rfl⟩ := gridCards_eq_ok_iff.mp hcards.symm
        rw [hclock] at hmem
        obtain ⟨concept, hconcept, p, hp, rfl⟩ := mem_mapConceptsToGames_iff.mp hmem
        exact ⟨feature, concepts, concept, p, hconcepts, hconcept, hp.symm, hid.symm,
          flagsAgree_enrichWithDetail_iff hclock concept p⟩
      unfold storeLists at hlist
      simp only [List.map_cons, List.map_nil, List.cons_append, List.nil_append, List.mem_cons,
        List.not_mem_nil, or_false] at hlist
      rcases hlist with hlist | hlist | hlist | hmonthly
      · exact Or.inl (hgrid _ hlist)
      · exact Or.inl (hgrid _ hlist)
      · exact Or.inl (hgrid _ hlist)
      · obtain ⟨entries, hentries, rfl⟩ := monthlyList_eq_ok_iff.mp hmonthly.symm
        obtain ⟨entry, hentry, rfl⟩ := mem_mapMonthlyToGames_iff.mp hmem
        exact Or.inr (Or.inl ⟨entries, entry, hentries, hentry, hid.symm, rfl⟩)

/-! ## The lists and search -/

/-- A card of NEW or UPCOMING: the concept of a grid gives the flags, and the date is that of the
product, or of the concept itself for a card that is no product.

**Proof sketch.** A merged card comes from the grid of NEW or from that of UPCOMING, where its
concept gave it the flags. Its date is replaced afterwards, by the date of its own id; only a card
of UPCOMING that is no product keeps the date of the concept. -/
lemma flags_releaseGames (hclock : ∀ reading, u.clock reading = nowMs) {games : List Game}
    (hgames : u.releaseGames = .ok games) {card : Game} (hcard : card ∈ games) :
    ∃ feature concepts concept i, u.concepts feature = .ok concepts ∧ concept ∈ concepts ∧
      conceptProductId concept = card.id.text ∧
      (card.date = u.ownDate i card.id ∨
        card.idKind = .concept ∧ card.date = conceptDate concept) ∧
      (card.FlagsAgree nowMs ↔ DatesAgree nowMs concept concept card.date) := by
  obtain ⟨⟨released, upcoming⟩, hgrids, -⟩ := bind_eq_ok hgames
  obtain ⟨hnew, hupcoming⟩ := tryJoin_eq_ok hgrids
  rw [u.releaseGames_of_grids hnew hupcoming] at hgames
  rw [← Except.ok.inj hgames] at hcard
  rcases List.mem_append.mp ((firstWins_sublist _ _).subset hcard) with hreleased | hmem
  · obtain ⟨i, hi, rfl⟩ := List.mem_mapIdx.mp (List.mem_filter.mp hreleased).1
    have hgrid := List.getElem_mem hi
    generalize (mapConceptsToGames released (u.clock .releaseGrids))[i] = grid at hgrid
    rw [hclock] at hgrid
    obtain ⟨concept, hconcept, p, hp, rfl⟩ := mem_mapConceptsToGames_iff.mp hgrid
    exact ⟨.new, released, concept, i, hnew, hconcept, hp.symm, Or.inl rfl,
      Game.flagsAgree_iff p.toGameId rfl rfl rfl rfl⟩
  · obtain ⟨i, hi, rfl⟩ := List.mem_mapIdx.mp hmem
    have hgrid := List.getElem_mem hi
    generalize (mapUpcomingConceptsToGames upcoming (u.clock .releaseGrids))[i] = grid at hgrid
    rw [hclock] at hgrid
    obtain ⟨concept, hconcept, id, hid, rfl⟩ := mem_mapUpcomingConceptsToGames_iff.mp hgrid
    refine ⟨.upcoming, upcoming, concept, (u.ownDated released).length + i, ?_⟩
    generalize (if id.productId.isSome then IdKind.product else IdKind.concept) = kind
    cases kind with
    | product =>
      rw [if_pos rfl]
      exact ⟨hupcoming, hconcept, hid.symm, Or.inl rfl,
        Game.flagsAgree_iff id rfl rfl rfl rfl⟩
    | concept =>
      rw [if_neg (by simp)]
      exact ⟨hupcoming, hconcept, hid.symm, Or.inr ⟨rfl, rfl⟩,
        Game.flagsAgree_iff id rfl rfl rfl rfl⟩

/-- A card of DISCOUNTED: the concept of the grid gives the flags, the product the date. -/
lemma flags_discountedList (hclock : ∀ reading, u.clock reading = nowMs) {games : List Game}
    (hgames : u.discountedList = .ok games) {card : Game} (hcard : card ∈ games) :
    ∃ concepts concept i, u.concepts .discounted = .ok concepts ∧ concept ∈ concepts ∧
      conceptProductId concept = card.id.text ∧ card.date = u.ownDate i card.id ∧
      (card.FlagsAgree nowMs ↔ DatesAgree nowMs concept concept card.date) := by
  obtain ⟨concepts, i, grid, hconcepts, hgrid, rfl⟩ := u.exists_of_mem_discountedList hgames hcard
  rw [hclock] at hgrid
  obtain ⟨concept, hconcept, p, hp, rfl⟩ := mem_mapConceptsToGames_iff.mp hgrid
  refine ⟨concepts, concept, i, hconcepts, hconcept, hp.symm, ?_,
    Game.flagsAgree_iff p.toGameId rfl rfl rfl rfl⟩
  dsimp only
  rw [conceptToGame_id, ← date_cardMeta]

/-- A card of search: the concept of the candidate gives the flags, the product the date. -/
lemma flags_searchGames (hclock : ∀ reading, u.clock reading = nowMs) {term : String}
    {page : Page} {result : PageResult} (h : u.searchGames term page = .ok result) {card : Game}
    (hcard : card ∈ result.games) :
    ∃ rawOffset found i candidate, u.searchPage term rawOffset page.size = .ok found ∧
      found.candidates[i]? = some candidate ∧ card.id = candidate.productId.toGameId ∧
      card.date = toIsoOrDefault (u.lenientDetail i candidate.productId).releaseDate ∧
      (card.FlagsAgree nowMs ↔
        DatesAgree nowMs candidate.concept candidate.concept card.date) := by
  obtain ⟨rawOffset, raw, hraw, hgames⟩ := exists_page_of_rawPages h
  rw [readSearchPage_eq] at hraw
  obtain ⟨found, hfound, hraw⟩ := bind_eq_ok hraw
  rw [hgames, ← Except.ok.inj hraw] at hcard
  obtain ⟨resolved, hresolved, hcard⟩ := List.mem_filterMap.mp hcard
  obtain rfl : resolved = some card := hcard
  obtain ⟨i, hi, hcandidate⟩ := List.mem_mapIdx.mp hresolved
  refine ⟨rawOffset, found, i, found.candidates[i], hfound, List.getElem?_eq_getElem hi, ?_⟩
  generalize found.candidates[i] = candidate at hcandidate ⊢
  rw [hclock] at hcandidate
  unfold resolveSearchCandidate at hcandidate
  cases candidate with
  | known productId concept =>
    dsimp only at hcandidate
    split_ifs at hcandidate
    all_goals
      rw [← Option.some.inj hcandidate]
      exact ⟨rfl, rfl, Game.flagsAgree_iff productId.toGameId rfl rfl rfl rfl⟩
  | unverified productId concept =>
    dsimp only at hcandidate
    split_ifs at hcandidate
    all_goals
      rw [← Option.some.inj hcandidate]
      exact ⟨rfl, rfl, Game.flagsAgree_iff productId.toGameId rfl rfl rfl rfl⟩

/-- A card of BROWSE agrees with its date. -/
lemma flagsAgree_browseGames (hclock : ∀ reading, u.clock reading = nowMs) {genre : GenreKey}
    {order : BrowseOrder} {page : Page} {result : PageResult}
    (h : u.browseGames genre order page = .ok result) {card : Game}
    (hcard : card ∈ result.games) : card.FlagsAgree nowMs := by
  obtain ⟨offset, concept, p, detail, -, -, rfl⟩ := u.exists_of_mem_browseGames h hcard
  rw [hclock]
  exact flagsAgree_browseConceptToGame ..

/-- **The flags of the cards.** With any upstream answers and one clock reading, the flags of a
card follow from its final date under these conditions and no others:

* a card of NEW, UPCOMING, DISCOUNTED or search, where the date of its concept and that of its
  product lie on one side of now, and are the same where the concept is discounted;
* a card of BROWSE, always;
* a game page: where a grid holds the id, under the condition on the dates of the concept and the
  page; where no list holds it, always.

**Proof sketch.** Every card is a card of a concept whose date was replaced, so
`Game.flagsAgree_iff` gives the exact condition: both dates lie on one side of now, and they are the
same where the concept is discounted. What remains is to find, for each list, the concept and the
lookup that a card comes from. BROWSE and the fallback build the flags from the final date. -/
theorem release_flags (u : Lookups) {nowMs : ℤ} (hclock : ∀ reading, u.clock reading = nowMs) :
    (∀ window page result, u.releaseListing window page = .ok result → ∀ card ∈ result.games,
      ∃ feature concepts concept i, u.concepts feature = .ok concepts ∧
        concept ∈ concepts ∧ conceptProductId concept = card.id.text ∧
        (card.date = u.ownDate i card.id ∨
          card.idKind = .concept ∧ card.date = conceptDate concept) ∧
        (card.FlagsAgree nowMs ↔ DatesAgree nowMs concept concept card.date)) ∧
    (∀ page result, u.discountedGames page = .ok result → ∀ card ∈ result.games,
      ∃ concepts concept i, u.concepts .discounted = .ok concepts ∧ concept ∈ concepts ∧
        conceptProductId concept = card.id.text ∧ card.date = u.ownDate i card.id ∧
        (card.FlagsAgree nowMs ↔ DatesAgree nowMs concept concept card.date)) ∧
    (∀ term page result, u.searchGames term page = .ok result → ∀ card ∈ result.games,
      ∃ rawOffset found i candidate, u.searchPage term rawOffset page.size = .ok found ∧
        found.candidates[i]? = some candidate ∧ card.id = candidate.productId.toGameId ∧
        card.date = toIsoOrDefault (u.lenientDetail i candidate.productId).releaseDate ∧
        (card.FlagsAgree nowMs ↔
          DatesAgree nowMs candidate.concept candidate.concept card.date)) ∧
    (∀ genre order page result, u.browseGames genre order page = .ok result →
      ∀ card ∈ result.games, card.FlagsAgree nowMs) ∧
    ∀ id game, u.gameById id = .ok game →
      (∃ feature concepts concept p, u.concepts feature = .ok concepts ∧ concept ∈ concepts ∧
        conceptProductId concept = p.text ∧ id = p.toGameId ∧ (game.FlagsAgree nowMs ↔
          PageDatesAgree nowMs concept p (u.lenientDetail 0 p) (u.priceOrNone p).standard)) ∨
      (∃ entries entry, u.plusMonthly = .ok entries ∧ entry ∈ entries ∧
        id = entry.productId.toGameId ∧ game = u.enrichWithDetail (monthlyEntryToGame entry)) ∨
      (u.byProductId id = .ok game ∧ game.FlagsAgree nowMs) := by
  refine ⟨?_, ?_, ?_, ?_, ?_⟩
  · intro window page result hpage card hcard
    obtain ⟨games, hgames, hresult⟩ := bind_eq_ok hpage
    rw [← Except.ok.inj hresult] at hcard
    exact flags_releaseGames hclock hgames (Window.mem_of_mem_games (mem_of_mem_paginate hcard))
  · intro page result hpage card hcard
    obtain ⟨games, hgames, hresult⟩ := bind_eq_ok hpage
    rw [← Except.ok.inj hresult] at hcard
    exact flags_discountedList hclock hgames (mem_of_mem_paginate hcard)
  · intro term page result hpage card hcard
    exact flags_searchGames hclock hpage hcard
  · intro genre order page result hpage card hcard
    exact flagsAgree_browseGames hclock hpage hcard
  · intro id game hgame
    exact flags_gameById hclock hgame

/-- The sample concept with the date of the second day of the epoch. -/
def datedConcept : Concept where
  name := some "Sample"
  products := some [{ id := some sampleProduct.text, releaseDate := some "1970-01-02" }]

/-- A store whose grids name the product of the concept, with the same date in its detail. -/
def datedStore : Catalog :=
  { Catalog.empty with
    conceptsByFeature := fun _ _ _ => .ok [datedConcept]
    productDetail := fun _ => .ok { releaseDate := some "1970-01-02T00:00:00Z" } }

/-- On the first day of the epoch, the NEW card of the product is a pre-order. -/
theorem release_flags_dated :
    ∃ card, datedStore.lookups.releaseListing .new ⟨0, 24⟩ = .ok ⟨[card], 1, none⟩ ∧
      card.preOrder = true ∧ card.FlagsAgree 0 := by
  refine ⟨_, rfl, by decide, ?_⟩
  obtain ⟨feature, concepts, concept, i, hgrid, hconcept, -, hdate, hagree⟩ :=
    (release_flags datedStore.lookups fun _ => rfl).1 .new ⟨0, 24⟩ _ rfl _ List.mem_cons_self
  rw [← Except.ok.inj hgrid] at hconcept
  obtain rfl := List.mem_singleton.mp hconcept
  rcases hdate with - | ⟨hkind, -⟩
  · exact hagree.mpr ⟨rfl, fun _ => rfl⟩
  · cases hkind

/-- The sample concept at half its price, without a date. -/
def halvedConcept : Concept :=
  { sampleConcept with
    price := some { basePrice := some "€20", discountedPrice := some "€10" } }

/-- The New grid and the search name the product of the concept, and its detail has the second day
of the epoch. -/
def undatedStore : Catalog :=
  { Catalog.empty with
    conceptsByFeature := fun feature _ _ => .ok (if feature = .new then [halvedConcept] else [])
    searchPage := fun _ _ _ =>
      .ok { candidates := [.known sampleProduct halvedConcept], isLast := true, rawCount := 1 }
    productDetail := fun _ => .ok { releaseDate := some "1970-01-02" } }

/-- **The flags fall behind the date.** On the first day of the epoch, the NEW card, the search card
and the game page of the product have the date of the second day, but no pre-order flag and no
discount date. -/
theorem release_flags_undated :
    ∃ listed found page,
      undatedStore.lookups.releaseListing .new ⟨0, 24⟩ = .ok ⟨[listed], 1, none⟩ ∧
      undatedStore.lookups.searchGames "sample" ⟨0, 24⟩ = .ok ⟨[found], 1, none⟩ ∧
      undatedStore.lookups.gameById sampleProduct.toGameId = .ok page ∧
      ∀ card ∈ [listed, found, page], isAfter 0 card.date = true ∧ card.isDiscounted = true ∧
        card.preOrder = false ∧ card.discountDate = "" ∧ ¬ card.FlagsAgree 0 := by
  refine ⟨_, _, _, rfl, rfl, rfl, ?_⟩
  have hbehind : ∀ card : Game, isAfter 0 card.date = true → card.preOrder = false →
      ¬ card.FlagsAgree 0 := by
    intro card hafter hflag h
    rw [h.preOrder, hafter] at hflag
    cases hflag
  intro card hcard
  simp only [List.mem_cons, List.not_mem_nil, or_false] at hcard
  rcases hcard with rfl | rfl | rfl
  · exact ⟨by decide, by decide, rfl, rfl, hbehind _ (by decide) rfl⟩
  · exact ⟨by decide, by decide, rfl, rfl, hbehind _ (by decide) rfl⟩
  · exact ⟨by decide, by decide, rfl, rfl, hbehind _ (by decide) rfl⟩

end Lookups

end PsStore
