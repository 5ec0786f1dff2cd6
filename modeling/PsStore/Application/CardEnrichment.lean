import PsStore.Application.Games

set_option relaxedAutoImplicit false
set_option autoImplicit false

/-!
# Filling a card from its detail

What `enrich_with_detail` of `application/games.rs` keeps of a list card, through
`fill_card_from_detail` of `domain/mapper.rs`. A card whose price is empty takes the standard price
with its discount fields, also where the card has a discount text of its own.

## Main definitions

* `ListCard` — the cards that the mappings of the grids and of MONTHLY build.
* `Lookups.PageKeeps` — every value of the card that is not empty stays.
* `Lookups.TakesOtherDiscountText` — the card has a discount text and no price, and the standard
  price of the product has another discount text or is missing.

## Main results

* `ListCard.discount_of_price` — without a price and a discount text a card has no discount.
* `Lookups.pageKeeps_iff` — the page keeps the card except where it takes another discount text.
-/

namespace PsStore

/-! ## List cards -/

/-- The cards of the lists. -/
inductive ListCard : Game → Prop
  /-- A card of NEW or DISCOUNTED. -/
  | grid {nowMs : ℤ} {concept : Concept} {card : Game} (h : productCard nowMs concept = some card) :
      ListCard card
  /-- A card of UPCOMING. -/
  | upcoming {nowMs : ℤ} {concept : Concept} {card : Game}
      (h : upcomingCard nowMs concept = some card) : ListCard card
  /-- A card of BROWSE. -/
  | browse (concept : Concept) (productId : ProductId) (releaseDate : String)
      (genres : List String) (nowMs : ℤ) :
      ListCard (browseConceptToGame concept productId releaseDate genres nowMs)
  /-- A card of MONTHLY. -/
  | monthly (entry : PlusMonthlyEntry) : ListCard (monthlyEntryToGame entry)

/-- A value fails the truthiness check where it is absent or empty. -/
lemma nonEmpty_eq_none_iff {value : Option String} :
    nonEmpty value = none ↔ value.getD "" = "" := by
  cases value with
  | none => simp [nonEmpty]
  | some text => simp [nonEmpty, Option.filter]

/-- The discount of a card of a concept, without a price: no original price, and no discount at all
without a discount text. -/
lemma conceptToGame_discount {concept : Concept} {id : GameId} {nowMs : ℤ}
    (h : (conceptToGame concept id nowMs).price = "") :
    (conceptToGame concept id nowMs).originalPrice = "" ∧
      ((conceptToGame concept id nowMs).discountText = "" →
        isConceptDiscounted concept = false) := by
  obtain ⟨hdiscounted, hbase⟩ := (conceptToGame_price concept id nowMs).mp h
  rw [nonEmpty_eq_none_iff] at hdiscounted hbase
  constructor
  · show (if isConceptDiscounted concept then
      (concept.price.bind ConceptPrice.basePrice).getD "" else "") = ""
    rw [hbase, ite_self]
  · intro htext
    by_contra hdiscount
    rw [Bool.not_eq_false] at hdiscount
    replace htext : (if isConceptDiscounted concept then
      (concept.price.bind ConceptPrice.discountText).getD "" else "") = "" := htext
    rw [if_pos hdiscount, ← nonEmpty_eq_none_iff] at htext
    unfold isConceptDiscounted at hdiscount
    simp [htext, hbase] at hdiscount

/-- **The discount of a list card without a price.** It has no original price and no offer, and
without a discount text no discount date.

**Proof sketch.** By the kind of the card. A card of a concept without a price comes from a concept
without a discounted price, which has neither an original price nor, without a discount text, a
discount (`conceptToGame_discount`); a card of the monthly feed has no price data at all. -/
theorem ListCard.discount_of_price {card : Game} (hcard : ListCard card) :
    card.plusOffer = none ∧ (card.price = "" → card.originalPrice = "") ∧
      (card.price = "" → card.discountText = "" → card.discountDate = "") := by
  have hgrid : ∀ (concept : Concept) (id : GameId) (nowMs : ℤ),
      (conceptToGame concept id nowMs).price = "" →
      (conceptToGame concept id nowMs).discountText = "" →
      (conceptToGame concept id nowMs).discountDate = "" := by
    intro concept id nowMs hprice htext
    have hplain := (conceptToGame_discount hprice).2 htext
    show (if isConceptDiscounted concept && _ then _ else "") = ""
    rw [hplain, Bool.false_and]
    rfl
  cases hcard with
  | grid h =>
    obtain ⟨productId, -, rfl⟩ := productCard_eq_some_iff.mp h
    exact ⟨rfl, fun hprice => (conceptToGame_discount hprice).1, hgrid _ _ _⟩
  | @upcoming nowMs concept _ h =>
    obtain ⟨id, -, rfl⟩ := upcomingCard_eq_some_iff.mp h
    have hdiscount := @conceptToGame_discount concept id nowMs
    exact ⟨rfl, fun hprice => (hdiscount hprice).1, hgrid concept id nowMs⟩
  | browse concept productId releaseDate genres nowMs =>
    have hdiscount := @conceptToGame_discount concept productId.toGameId nowMs
    refine ⟨rfl, fun hprice => (hdiscount hprice).1, ?_⟩
    intro hprice htext
    have hplain := (hdiscount hprice).2 htext
    show (if isConceptDiscounted concept then _ else "") = ""
    rw [hplain]
    rfl
  | monthly entry => exact ⟨rfl, fun _ => rfl, fun _ _ => rfl⟩

namespace Lookups

variable (u : Lookups)

/-- The game that the detail and the standard price of a product stand for. -/
def fromDetail (card : Game) (productId : ProductId) : Game :=
  productDetailToGame productId (u.cardDetail 0 card.id) (u.cardPrice card).standard
    (u.clock .gamePageDetail)

/-- The game page keeps a card: its id, its kind, its upsell text, and every value that is not
empty. The price fields come together from the card or from the detail, and an empty detail with a
failed price lookup changes nothing. -/
structure PageKeeps (card : Game) : Prop where
  name : card.name ≠ "" → (u.enrichWithDetail card).name = card.name
  url : card.url ≠ "" → (u.enrichWithDetail card).url = card.url
  screenshots : card.screenshots ≠ [] → (u.enrichWithDetail card).screenshots = card.screenshots
  videos : card.videos ≠ [] → (u.enrichWithDetail card).videos = card.videos
  price : card.price ≠ "" → (u.enrichWithDetail card).price = card.price
  originalPrice : card.originalPrice ≠ "" →
    (u.enrichWithDetail card).originalPrice = card.originalPrice
  discountText : card.discountText ≠ "" →
    (u.enrichWithDetail card).discountText = card.discountText
  /-- The price fields are those of one source. -/
  oneSource : ∃ source, (source = card ∨ ∃ productId, card.id.productId = some productId ∧
      source = u.fromDetail card productId) ∧
    (u.enrichWithDetail card).price = source.price ∧
    (u.enrichWithDetail card).originalPrice = source.originalPrice ∧
    (u.enrichWithDetail card).discountText = source.discountText
  id : (u.enrichWithDetail card).id = card.id
  idKind : (u.enrichWithDetail card).idKind = card.idKind
  plusUpsellText : (u.enrichWithDetail card).plusUpsellText = card.plusUpsellText
  /-- Nothing is lost because Sony gave nothing. -/
  unchanged : u.cardDetail 0 card.id = {} →
    (∀ productId, card.id.productId = some productId → ∃ e, u.price productId = .error e) →
    u.enrichWithDetail card = card

/-- The product card has a discount text and no price, and the price answer has no standard price
with that discount text. -/
def TakesOtherDiscountText (card : Game) : Prop :=
  card.idKind = .product ∧ card.price = "" ∧ card.discountText ≠ "" ∧
    ∃ productId, card.id.productId = some productId ∧
      ∀ price standard, u.price productId = .ok price → price.standard = some standard →
        standard.discountText ≠ card.discountText

/-- The fields of a page that the detail does not touch. -/
lemma enrichWithDetail_untouched (card : Game) :
    (u.enrichWithDetail card).url = card.url ∧
      (u.enrichWithDetail card).plusUpsellText = card.plusUpsellText := by
  unfold enrichWithDetail
  cases card.id.productId with
  | none => exact ⟨rfl, rfl⟩
  | some productId =>
    dsimp only
    split_ifs
    · exact ⟨rfl, rfl⟩
    · exact ⟨rfl, rfl⟩

/-- The filled fields of the page of a product card. -/
lemma enrichWithDetail_of_product {card : Game} (hkind : card.idKind = .product)
    {productId : ProductId} (hid : card.id.productId = some productId) :
    let source := if card.price = "" then u.fromDetail card productId else card
    (u.enrichWithDetail card).screenshots =
        (if card.screenshots = [] then (u.fromDetail card productId).screenshots
          else card.screenshots) ∧
      (u.enrichWithDetail card).videos =
        (if card.videos = [] then (u.fromDetail card productId).videos else card.videos) ∧
      (u.enrichWithDetail card).price = source.price ∧
      (u.enrichWithDetail card).originalPrice = source.originalPrice ∧
      (u.enrichWithDetail card).discountText = source.discountText := by
  unfold enrichWithDetail
  rw [hid]
  dsimp only
  rw [if_pos hkind]
  exact ⟨rfl, rfl, rfl, rfl, rfl⟩

/-- The filled fields of the page of any other card are those of the card. -/
lemma enrichWithDetail_of_not_product {card : Game}
    (h : ¬(card.idKind = .product ∧ ∃ productId, card.id.productId = some productId)) :
    (u.enrichWithDetail card).screenshots = card.screenshots ∧
      (u.enrichWithDetail card).videos = card.videos ∧
      (u.enrichWithDetail card).price = card.price ∧
      (u.enrichWithDetail card).originalPrice = card.originalPrice ∧
      (u.enrichWithDetail card).discountText = card.discountText := by
  unfold enrichWithDetail
  cases hid : card.id.productId with
  | none => exact ⟨rfl, rfl, rfl, rfl, rfl⟩
  | some productId =>
    dsimp only
    rw [if_neg (fun hkind => h ⟨hkind, productId, hid⟩)]
    exact ⟨rfl, rfl, rfl, rfl, rfl⟩

/-- The discount text of a standard price is shown. -/
lemma fromDetail_discountText (card : Game) (productId : ProductId) :
    (u.fromDetail card productId).discountText =
      ((u.cardPrice card).standard.map StandardPrice.discountText).getD "" := by
  unfold fromDetail
  generalize u.cardDetail 0 card.id = detail
  cases (u.cardPrice card).standard with
  | none =>
    show (if isConceptDiscounted (detailConcept productId detail none) then "" else "") = ""
    exact ite_self _
  | some standard =>
    show (if isConceptDiscounted (detailConcept productId detail (some standard)) then
      standard.discountText else "") = standard.discountText
    split_ifs with hdiscounted
    · rfl
    · by_contra htext
      apply hdiscounted
      have hshown : nonEmpty (some standard.discountText) = some standard.discountText := by
        simp [nonEmpty, Option.filter, Ne.symm htext]
      unfold isConceptDiscounted detailConcept
      simp [hshown]

/-- The game of an empty detail without a standard price has neither media nor a price. -/
lemma productDetailToGame_empty (productId : ProductId) (nowMs : ℤ) :
    let game := productDetailToGame productId {} none nowMs
    game.screenshots = [] ∧ game.videos = [] ∧ game.price = "" ∧ game.originalPrice = "" ∧
      game.discountText = "" ∧ game.discountDate = "" :=
  ⟨rfl, rfl, rfl, rfl, rfl, rfl⟩

/-- An empty source fills nothing in a card that has no discount without a price. -/
lemma fillCardFromDetail_eq_self {card fromDetail : Game}
    (hempty : fromDetail.screenshots = [] ∧ fromDetail.videos = [] ∧ fromDetail.price = "" ∧
      fromDetail.originalPrice = "" ∧ fromDetail.discountText = "" ∧ fromDetail.discountDate = "")
    (hcard : card.price = "" →
      card.originalPrice = "" ∧ card.discountText = "" ∧ card.discountDate = "") :
    fillCardFromDetail card fromDetail = card := by
  obtain ⟨hscreenshots, hvideos, hprice, horiginal, htext, hdate⟩ := hempty
  have hmedia : ∀ media : List String, (if media = [] then [] else media) = media := by
    intro media
    split_ifs with h
    · exact h.symm
    · rfl
  unfold fillCardFromDetail
  rw [hscreenshots, hvideos, hmedia, hmedia]
  by_cases hempty : card.price = ""
  · obtain ⟨horiginal', htext', hdate'⟩ := hcard hempty
    dsimp only
    rw [if_pos hempty, hprice, horiginal, htext, hdate]
    cases card
    dsimp only at hempty horiginal' htext' hdate'
    rw [hempty, horiginal', htext', hdate']
  · dsimp only
    rw [if_neg hempty]

/-- The page of a card without a discount to lose is the card where Sony gave nothing.

**Proof sketch.** Without a product id there is only the empty detail, which changes no field: each
field keeps the value of the card where the detail has none. With one, the price lookup failed, so
the product game has no price, and a card with an empty price has no discount that could be lost. -/
lemma enrichWithDetail_unchanged {card : Game} (hcard : ListCard card)
    (hdiscount : card.idKind = .product → (∃ productId, card.id.productId = some productId) →
      card.price = "" → card.discountText = "")
    (hdetail : u.cardDetail 0 card.id = {})
    (hprice : ∀ productId, card.id.productId = some productId →
      ∃ e, u.price productId = .error e) :
    u.enrichWithDetail card = card := by
  obtain ⟨hoffer, horiginal, hdate⟩ := hcard.discount_of_price
  have hnothing : u.cardPrice card = {} := by
    unfold cardPrice
    split_ifs
    · rfl
    · cases hid : card.id.productId with
      | none => rfl
      | some productId =>
        obtain ⟨e, he⟩ := hprice productId hid
        show u.priceOrNone productId = {}
        unfold priceOrNone
        rw [he]
  have hrest : ∀ game : Game, game = card →
      { game with
        date := game.date
        genres := game.genres
        description := game.description
        studio := game.studio
        plusOffer := none } = card := by
    intro game hgame
    rw [hgame, ← hoffer]
  unfold enrichWithDetail
  rw [hdetail, hnothing]
  cases hid : card.id.productId with
  | none => exact hrest card rfl
  | some productId =>
    dsimp only
    by_cases hkind : card.idKind = .product
    · rw [if_pos hkind]
      apply hrest
      apply fillCardFromDetail_eq_self (productDetailToGame_empty productId _)
      intro hempty
      have htext := hdiscount hkind ⟨productId, hid⟩ hempty
      exact ⟨horiginal hempty, htext, hdate hempty htext⟩
    · rw [if_neg hkind]
      exact hrest card rfl

/-- The price answer of a product card. -/
lemma cardPrice_of_product {card : Game} (hkind : card.idKind = .product) {productId : ProductId}
    (hid : card.id.productId = some productId) : u.cardPrice card = u.priceOrNone productId := by
  unfold cardPrice
  rw [if_neg (not_not.mpr hkind), hid]

/-- A page that takes another discount text loses the one of the card. -/
lemma discountText_ne_of_takesOther {card : Game} (h : u.TakesOtherDiscountText card) :
    (u.enrichWithDetail card).discountText ≠ card.discountText := by
  obtain ⟨hkind, hempty, htext, productId, hid, hother⟩ := h
  obtain ⟨-, -, -, -, hshown⟩ := u.enrichWithDetail_of_product hkind hid
  rw [if_pos hempty, fromDetail_discountText, u.cardPrice_of_product hkind hid] at hshown
  rw [hshown]
  unfold priceOrNone
  cases hprice : u.price productId with
  | error e => exact htext.symm
  | ok price =>
    cases hstandard : price.standard with
    | none => exact htext.symm
    | some standard => exact hother price standard hprice hstandard

/-- A page of a product card without a price keeps the discount text where it takes no other. -/
lemma discountText_of_not_takesOther {card : Game} (hkind : card.idKind = .product)
    {productId : ProductId} (hid : card.id.productId = some productId) (hempty : card.price = "")
    (htext : card.discountText ≠ "") (h : ¬u.TakesOtherDiscountText card) :
    (u.fromDetail card productId).discountText = card.discountText := by
  by_contra hother
  apply h
  refine ⟨hkind, hempty, htext, productId, hid, ?_⟩
  intro price standard hprice hstandard hsame
  apply hother
  have hanswer : u.priceOrNone productId = price := by
    unfold priceOrNone
    rw [hprice]
  rw [fromDetail_discountText, u.cardPrice_of_product hkind hid, hanswer, hstandard]
  exact hsame

/-- The page of a card without a product id keeps the card. -/
lemma pageKeeps_of_not_product {card : Game} (hcard : ListCard card)
    (hproduct : ¬(card.idKind = .product ∧ ∃ productId, card.id.productId = some productId)) :
    u.PageKeeps card := by
  obtain ⟨hid, hname, hidKind, -⟩ := u.enrichWithDetail_keeps card
  obtain ⟨hurl, hupsell⟩ := u.enrichWithDetail_untouched card
  obtain ⟨hscreenshots, hvideos, hprice, horiginal, htext⟩ :=
    u.enrichWithDetail_of_not_product hproduct
  exact {
    name := fun _ => hname
    url := fun _ => hurl
    screenshots := fun _ => hscreenshots
    videos := fun _ => hvideos
    price := fun _ => hprice
    originalPrice := fun _ => horiginal
    discountText := fun _ => htext
    oneSource := ⟨card, Or.inl rfl, hprice, horiginal, htext⟩
    id := hid
    idKind := hidKind
    plusUpsellText := hupsell
    unchanged := u.enrichWithDetail_unchanged hcard fun hkind hproductId =>
      absurd ⟨hkind, hproductId⟩ hproduct }

/-- The page of a product card keeps the card, unless it takes another discount text.

**Proof sketch.** The name, the URL and the media of the card are kept where it has them. The three
price fields come together, from the card, or from the product where the card has no price. Such a
card has no original price, and a discount text that it has is the product's too, by `hsame`. -/
lemma pageKeeps_of_product {card : Game} (hcard : ListCard card) (hkind : card.idKind = .product)
    {productId : ProductId} (hproductId : card.id.productId = some productId)
    (hsame : ¬u.TakesOtherDiscountText card) : u.PageKeeps card := by
  obtain ⟨hid, hname, hidKind, -⟩ := u.enrichWithDetail_keeps card
  obtain ⟨hurl, hupsell⟩ := u.enrichWithDetail_untouched card
  obtain ⟨hscreenshots, hvideos, hprice, horiginal, htext⟩ :=
    u.enrichWithDetail_of_product hkind hproductId
  have hempty : card.price = "" → card.originalPrice = "" ∧ (card.discountText ≠ "" →
      (u.fromDetail card productId).discountText = card.discountText) :=
    fun h => ⟨hcard.discount_of_price.2.1 h,
      fun hne => u.discountText_of_not_takesOther hkind hproductId h hne hsame⟩
  exact {
    name := fun _ => hname
    url := fun _ => hurl
    screenshots := fun hne => by rw [hscreenshots, if_neg hne]
    videos := fun hne => by rw [hvideos, if_neg hne]
    price := fun hne => by rw [hprice, if_neg hne]
    originalPrice := fun hne => by
      rw [horiginal, if_neg fun h => hne (hempty h).1]
    discountText := fun hne => by
      rw [htext]
      split_ifs with h
      · exact (hempty h).2 hne
      · rfl
    oneSource := by
      refine ⟨_, ?_, hprice, horiginal, htext⟩
      split_ifs
      · exact Or.inr ⟨productId, hproductId, rfl⟩
      · exact Or.inl rfl
    id := hid
    idKind := hidKind
    plusUpsellText := hupsell
    unchanged := fun hdetail hfailed => by
      refine u.enrichWithDetail_unchanged hcard (fun _ _ h => ?_) hdetail hfailed
      by_contra hne
      obtain ⟨e, he⟩ := hfailed productId hproductId
      refine hsame ⟨hkind, h, hne, productId, hproductId, fun price standard hok => ?_⟩
      rw [he] at hok
      cases hok }

/-- **When the game page keeps a list card.** It does except for a product card without a price and
with a discount text, which takes the discount text of the standard price, or none. -/
theorem pageKeeps_iff {card : Game} (hcard : ListCard card) :
    u.PageKeeps card ↔ ¬u.TakesOtherDiscountText card := by
  constructor
  · intro hkeeps hother
    exact u.discountText_ne_of_takesOther hother (hkeeps.discountText hother.2.2.1)
  · intro hsame
    by_cases hproduct : card.idKind = .product ∧ ∃ productId, card.id.productId = some productId
    · obtain ⟨hkind, productId, hproductId⟩ := hproduct
      exact u.pageKeeps_of_product hcard hkind hproductId hsame
    · exact u.pageKeeps_of_not_product hcard hproduct

end Lookups

/-- The card of a grid concept. -/
lemma listCard_conceptToGame {concept : Concept} {productId : ProductId}
    (h : productId.text = conceptProductId concept) (nowMs : ℤ) :
    ListCard (conceptToGame concept productId.toGameId nowMs) :=
  .grid (productCard_eq_some_iff.mpr ⟨productId, h, rfl⟩)

/-- The page of a card without a discount keeps it. -/
theorem Lookups.pageKeeps_iff_sample :
    Catalog.empty.lookups.PageKeeps (conceptToGame sampleConcept sampleProduct.toGameId 0) :=
  (Lookups.pageKeeps_iff Catalog.empty.lookups (listCard_conceptToGame rfl 0)).mpr
    fun h => h.2.2.1 rfl

/-- A concept of the DISCOUNTED grid with a discount text and no price. -/
def textOnlyConcept : Concept :=
  { sampleConcept with price := some { discountText := some "-50%" } }

/-- A store whose price lookups fail. -/
def failingPrices : Catalog :=
  { Catalog.empty with productPrice := fun _ => .error (.unavailable "timeout") }

/-- **The discount text of a list card is lost** where the detail is empty and the price lookup
failed. -/
theorem Lookups.pageKeeps_fails :
    let card := conceptToGame textOnlyConcept sampleProduct.toGameId 0
    let page := failingPrices.lookups.enrichWithDetail card
    ListCard card ∧ failingPrices.lookups.cardDetail 0 card.id = {} ∧
      failingPrices.lookups.price sampleProduct = .error (.unavailable "timeout") ∧
      card.discountText = "-50%" ∧ page.discountText = "" ∧
      ¬failingPrices.lookups.PageKeeps card := by
  intro card page
  have htext : card.discountText = "-50%" := by decide
  have hpage : page.discountText = "" := by decide
  refine ⟨listCard_conceptToGame rfl 0, by decide, rfl, htext, hpage, ?_⟩
  intro hkeeps
  have hsame := hkeeps.discountText (by rw [htext]; decide)
  rw [htext] at hsame
  have hlost : page.discountText = "-50%" := hsame
  rw [hpage] at hlost
  exact absurd hlost (by decide)

end PsStore
