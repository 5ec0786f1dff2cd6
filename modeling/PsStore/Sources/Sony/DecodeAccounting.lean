import PsStore.Sources.Sony.Readings

set_option relaxedAutoImplicit false
set_option autoImplicit false

/-!
# What the list decoders account for

Each list decoder of the store boundary reads an envelope and then its elements one by one. The
envelope is described here by its own shape, and the answer of a decoder by what the elements of the
envelope say: which entries it keeps, and how many elements it drops, leaves out of scope, or does
not read.

## Main definitions

* `HasIsLast` — the flag of the last page of an envelope.
* `GridEnvelope`, `BrowseEnvelope`, `SearchEnvelope`, `MonthlyEnvelope`, `PurchasedEnvelope`,
  `WishlistEnvelope` — the envelopes and their elements.
* `Inserts` — a list with one more element.
* `ScopedAccount` — the account of a list whose elements have a scope and a key.

## Main results

* `browsePage_isLast_iff` — where a BROWSE list without page info ends.
* `decode_accounting` — a decoder reports a failure exactly where the envelope is invalid, it
  accounts for every element once, and an element that says nothing changes only the counts.
-/

namespace PsStore

open Json

/-! ## Envelopes -/

/-- The node has the flag `pageInfo.isLast`. -/
def HasIsLast (node : Object) (isLast : Bool) : Prop :=
  ∃ info : Object, node.get "pageInfo" = some (.object info) ∧
    info.get "isLast" = some (.bool isLast)

/-- A category grid with its two lists. -/
def GridEnvelope (json : Value) (concepts products : List Value) : Prop :=
  ∃ node, ObjectAt json ["data", "categoryGridRetrieve"] node ∧
    ItemsAt node "concepts" concepts ∧ ItemsAt node "products" products

/-- A BROWSE grid with its two lists and its flag of the last page, if it has one. -/
def BrowseEnvelope (json : Value) (concepts products : List Value) (flag : Option Bool) : Prop :=
  ∃ node, ObjectAt json ["data", "categoryGridRetrieve"] node ∧
    ItemsAt node "concepts" concepts ∧ ItemsAt node "products" products ∧
    ∀ isLast, flag = some isLast ↔ HasIsLast node isLast

/-- A search answer with its results and its flag of the last page. -/
def SearchEnvelope (json : Value) (results : List Value) (isLast : Bool) : Prop :=
  ∃ node, ObjectAt json ["data", "universalSearch"] node ∧ HasIsLast node isLast ∧
    node.get "results" = some (.array results)

/-- A bucket of the monthly feed with its games. -/
def IsBucket (bucket : Value) (games : List Value) : Prop :=
  ∃ obj, bucket = .object obj ∧ ItemsAt obj "games" games

/-- The games of the buckets of a feed, in its order, with the number of the elements that are no
bucket. -/
inductive FeedReading : List Value → List Value → ℕ → Prop
  | nil : FeedReading [] [] 0
  | bucket {bucket : Value} {buckets games rest : List Value} {strays : ℕ}
      (h : IsBucket bucket games) (hrest : FeedReading buckets rest strays) :
      FeedReading (bucket :: buckets) (games ++ rest) strays
  | stray {element : Value} {buckets rest : List Value} {strays : ℕ}
      (h : ¬∃ games, IsBucket element games) (hrest : FeedReading buckets rest strays) :
      FeedReading (element :: buckets) rest (strays + 1)

/-- A monthly feed: an array that is empty or has a bucket. -/
def MonthlyEnvelope (json : Value) (buckets : List Value) : Prop :=
  json = .array buckets ∧ (buckets = [] ∨ ∃ bucket ∈ buckets, ∃ games, IsBucket bucket games)

/-- A library page with its games. -/
def PurchasedEnvelope (json : Value) (games : List Value) : Prop :=
  ∃ titles, ObjectAt json ["data", "purchasedTitlesRetrieve"] titles ∧
    titles.get "games" = some (.array games)

/-- A wishlist with its elements. -/
def WishlistEnvelope (json : Value) (items : List Value) : Prop :=
  ∃ data, ObjectAt json ["data"] data ∧ data.get "storeWishlistSecure" = some (.array items)

/-! ## Accounts -/

/-- The second list is the first one with one more element, for which `P` holds. -/
def Inserts {α : Type} (P : α → Prop) (items items' : List α) : Prop :=
  ∃ before element after, P element ∧ items = before ++ after ∧ items' = before ++ element :: after

/-- What a decoder of list answers promises. -/
structure ListContract (ρ ω : Type) where
  /-- The JSON value is a valid envelope with these raw elements. -/
  Envelope : Value → ρ → Prop
  /-- The outcome reports that there is no valid envelope. -/
  Failed : ω → Prop
  /-- The outcome keeps the right elements and accounts for every element once. -/
  Account : ρ → ω → Prop
  /-- The second raw elements are the first ones with one more that does not decode. -/
  OneMore : ρ → ρ → Prop
  /-- The second outcome is the first one with one more dropped element. -/
  Raised : ω → ω → Prop

/-- The decoder keeps the contract. -/
structure ListContract.Holds {ρ ω : Type} (C : ListContract ρ ω) (decode : Value → ω) : Prop where
  failed_iff : ∀ json, C.Failed (decode json) ↔ ¬∃ raw, C.Envelope json raw
  account : ∀ json raw, C.Envelope json raw → C.Account raw (decode json)
  oneMore : ∀ json json' raw raw', C.Envelope json raw → C.Envelope json' raw' →
    C.OneMore raw raw' → C.Raised (decode json) (decode json')

/-- A decoder fails exactly without an envelope where an envelope rules the failure out, and each
value fails or has an envelope. -/
lemma ListContract.failed_iff_of_cases {ρ ω : Type} {C : ListContract ρ ω} {decode : Value → ω}
    {json : Value} (hnot : ∀ raw, C.Envelope json raw → ¬C.Failed (decode json))
    (hcases : C.Failed (decode json) ∨ ∃ raw, C.Envelope json raw) :
    C.Failed (decode json) ↔ ¬∃ raw, C.Envelope json raw := by
  constructor
  · rintro hfailed ⟨raw, henvelope⟩
    exact hnot raw henvelope hfailed
  · exact hcases.resolve_right

/-- One of the two lists of a grid has one more element that says nothing. -/
def GridOneMore (lists lists' : List Value × List Value) : Prop :=
  Inserts (SaysNothing ConceptReads) lists.1 lists'.1 ∧ lists.2 = lists'.2 ∨
    lists.1 = lists'.1 ∧ Inserts (SaysNothing GridProductReads) lists.2 lists'.2

/-- The concept stands for the product: it has the fields of the product, and it names that product
as its only one. -/
def StandsFor (product : CategoryGridProduct) (concept : Concept) : Prop :=
  concept.id = product.id ∧ concept.name = product.name ∧ concept.media = product.media ∧
    concept.price = product.price ∧ concept.products = some [⟨product.id, none, none, none⟩]

/-- The contract of a category grid: it keeps what the concepts say or, where none says anything,
concepts that stand for what the products say. The other products stay unread. -/
def categoryGridContract : ListContract (List Value × List Value) CategoryGridOutcome where
  Envelope json lists := GridEnvelope json lists.1 lists.2
  Failed outcome := outcome = .drift
  Account lists outcome :=
    ∃ concepts products droppedConcepts droppedProducts kept unread,
      ElementsRead ConceptReads lists.1 concepts droppedConcepts ∧
      ElementsRead GridProductReads lists.2 products droppedProducts ∧
      outcome = .ok kept (droppedConcepts + droppedProducts) ∧
      (concepts ≠ [] ∧ kept = concepts ∧ unread = products.length ∨
        concepts = [] ∧ List.Forall₂ StandsFor products kept ∧ unread = 0) ∧
      kept.length + (droppedConcepts + droppedProducts) + unread =
        lists.1.length + lists.2.length
  OneMore := GridOneMore
  Raised outcome outcome' :=
    ∃ kept dropped, outcome = .ok kept dropped ∧ outcome' = .ok kept (dropped + 1)

/-- The contract of a BROWSE grid: it keeps what the concepts say, and the products stay unread.
Without a flag, a page that keeps fewer concepts than `size` is the last one. -/
def browseContract (size : ℕ) :
    ListContract ((List Value × List Value) × Option Bool) BrowseOutcome where
  Envelope json page := BrowseEnvelope json page.1.1 page.1.2 page.2
  Failed outcome := outcome = .drift
  Account page outcome :=
    ∃ kept products droppedConcepts droppedProducts,
      ElementsRead ConceptReads page.1.1 kept droppedConcepts ∧
      ElementsRead GridProductReads page.1.2 products droppedProducts ∧
      outcome = .ok kept (page.2.getD (decide (kept.length < size)))
        (droppedConcepts + droppedProducts) ∧
      kept.length + (droppedConcepts + droppedProducts) + products.length =
        page.1.1.length + page.1.2.length
  OneMore page page' := GridOneMore page.1 page'.1 ∧ page.2 = page'.2
  Raised outcome outcome' :=
    ∃ kept isLast dropped, outcome = .ok kept isLast dropped ∧
      outcome' = .ok kept isLast (dropped + 1)

/-- The contract of a search answer: it keeps what the results say. -/
def searchContract : ListContract (List Value × Bool) SearchOutcome where
  Envelope json answer := SearchEnvelope json answer.1 answer.2
  Failed outcome := outcome = .drift
  Account answer outcome :=
    ∃ kept dropped, ElementsRead SearchEntryReads answer.1 kept dropped ∧
      outcome = .ok kept answer.2 dropped ∧ kept.length + dropped = answer.1.length
  OneMore answer answer' :=
    Inserts (SaysNothing SearchEntryReads) answer.1 answer'.1 ∧ answer.2 = answer'.2
  Raised outcome outcome' :=
    ∃ kept isLast dropped, outcome = .ok kept isLast dropped ∧
      outcome' = .ok kept isLast (dropped + 1)

/-- The account of a list whose elements have a scope and a key. The kept entries are those in scope
that are the first ones of their keys, in their order. The numbers count the elements that say
nothing, those out of scope, and those that repeat a key. -/
def ScopedAccount {α κ : Type} (reads : Value → Option α → Prop) (key : α → κ)
    (items : List Value) (kept : List α) (dropped outOfScope repeated : ℕ) : Prop :=
  ∃ outcomes, ElementsRead reads items outcomes dropped ∧
    FirstOfKey key outcomes.reduceOption kept repeated ∧
    outOfScope = outcomes.countP Option.isNone ∧
    kept.length + dropped + outOfScope + repeated = items.length

/-- The contract of the monthly feed: it keeps the first game in scope of each product id, over the
games of its buckets. An element that is no bucket is dropped. -/
def monthlyContract : ListContract (List Value) PlusMonthlyOutcome where
  Envelope := MonthlyEnvelope
  Failed outcome := outcome = .drift
  Account buckets outcome :=
    ∃ games strays kept dropped outOfScope repeated, FeedReading buckets games strays ∧
      ScopedAccount MonthlyReads PlusMonthlyEntry.productId games kept dropped outOfScope
        repeated ∧
      outcome = .ok kept (dropped + strays) outOfScope
  OneMore buckets buckets' :=
    ∃ before bucket bucket' after games games', buckets = before ++ bucket :: after ∧
      buckets' = before ++ bucket' :: after ∧ IsBucket bucket games ∧ IsBucket bucket' games' ∧
      Inserts (SaysNothing MonthlyReads) games games'
  Raised outcome outcome' :=
    ∃ kept dropped outOfScope, outcome = .ok kept dropped outOfScope ∧
      outcome' = .ok kept (dropped + 1) outOfScope

/-- The contract of a library page: it keeps the games in scope. -/
def purchasedContract : ListContract (List Value) (Option PurchasedPage) where
  Envelope := PurchasedEnvelope
  Failed outcome := outcome = none
  Account games outcome :=
    ∃ outcomes page, ElementsRead PurchasedReads games outcomes page.dropped ∧ outcome = some page ∧
      page.rawCount = games.length ∧ page.entries = outcomes.reduceOption ∧
      page.outOfScope = outcomes.countP Option.isNone ∧
      page.entries.length + page.dropped + page.outOfScope = games.length
  OneMore := Inserts (SaysNothing PurchasedReads)
  Raised outcome outcome' :=
    ∃ page, outcome = some page ∧
      outcome' = some { page with rawCount := page.rawCount + 1, dropped := page.dropped + 1 }

/-- The contract of the wishlist: it keeps the first element in scope of each id. -/
def wishlistContract : ListContract (List Value) WishlistOutcome where
  Envelope := WishlistEnvelope
  Failed outcome := outcome = .drift ∨ outcome = .denied
  Account items outcome :=
    ∃ kept dropped outOfScope repeated,
      ScopedAccount WishlistReads WishlistEntry.id items kept dropped outOfScope repeated ∧
      outcome = .listed kept dropped outOfScope
  OneMore := Inserts (SaysNothing WishlistReads)
  Raised outcome outcome' :=
    ∃ kept dropped outOfScope, outcome = .listed kept dropped outOfScope ∧
      outcome' = .listed kept (dropped + 1) outOfScope

/-! ## Reading an envelope -/

/-- The flag is read exactly where the node has it. -/
lemma pageInfo_eq_some_iff {node : Object} {isLast : Bool} :
    optObjectOf (fun value => do optBool (← object value) "isLast") node "pageInfo" =
        .ok (some (some isLast)) ↔ HasIsLast node isLast := by
  unfold optObjectOf HasIsLast
  rw [optional_eq_some_iff]
  constructor
  · intro h
    obtain ⟨value, hget, -, hdecode⟩ := h
    obtain ⟨info, hinfo, hlast⟩ := bind_eq_ok hdecode
    obtain rfl := object_eq_ok_iff.mp hinfo
    exact ⟨info, hget, optBool_eq_some_iff.mp hlast⟩
  · intro h
    obtain ⟨info, hget, hlast⟩ := h
    exact ⟨.object info, hget, rfl, optBool_eq_some_iff.mpr hlast⟩


/-- The `universalSearch` object is read exactly where the envelope has it. -/
lemma searchNode_iff {json : Value} {node : Object} :
    searchNode json = some node ↔ ObjectAt json ["data", "universalSearch"] node := by
  simp [searchNode, ObjectAt, Option.bind_eq_some_iff]

/-- The games of a library page are read exactly where its envelope has them. -/
lemma pageGames_iff {json : Value} {games : List Value} :
    pageGames json = some games ↔ PurchasedEnvelope json games := by
  simp only [pageGames, PurchasedEnvelope, ObjectAt, Option.bind_eq_bind, Option.bind_eq_some_iff,
    Value.asObject_eq_some_iff, Value.asArray_eq_some_iff, exists_eq_right, exists_and_left,
    ↓existsAndEq, and_true, true_and]
  constructor
  · intro h
    obtain ⟨root, rfl, data, hdata, titles, htitles, hgames⟩ := h
    exact ⟨titles, ⟨root, rfl, data, hdata, htitles⟩, hgames⟩
  · intro h
    obtain ⟨titles, ⟨root, rfl, data, hdata, htitles⟩, hgames⟩ := h
    exact ⟨root, rfl, data, hdata, titles, htitles, hgames⟩

/-- The elements of the wishlist are read exactly where its envelope has them. -/
lemma wishlistItems_iff {json : Value} {items : List Value} :
    wishlistItems json = some items ↔ WishlistEnvelope json items := by
  simp only [wishlistItems, WishlistEnvelope, ObjectAt, Option.bind_eq_bind,
    Option.bind_eq_some_iff, Value.asObject_eq_some_iff, Value.asArray_eq_some_iff, exists_eq_right,
    exists_and_left, ↓existsAndEq, and_true]
  constructor
  · intro h
    obtain ⟨root, rfl, data, hdata, hitems⟩ := h
    exact ⟨data, ⟨root, rfl, hdata⟩, hitems⟩
  · intro h
    obtain ⟨data, ⟨root, rfl, hdata⟩, hitems⟩ := h
    exact ⟨root, rfl, data, hdata, hitems⟩

/-- The games of a bucket are read exactly where it has them. -/
lemma bucketGames_iff {bucket : Value} {games : List Value} :
    bucketGames bucket = some games ↔ IsBucket bucket games := by
  unfold IsBucket
  simp only [← optList_iff]
  simp [bucketGames, Option.bind_eq_some_iff]

/-! ## One more element -/

/-- The values of the elements that decode, in order. -/
def accepted {α : Type} (decode : Value → Except Invalid α) (items : List Value) : List α :=
  items.filterMap fun item => (decode item).toOption

/-- The number of elements that do not decode. -/
def rejectedCount {α : Type} (decode : Value → Except Invalid α) (items : List Value) : ℕ :=
  items.countP fun item => (decode item).toOption.isNone

/-- An element outside the domain of a selection changes nothing in what is selected. -/
lemma Inserts.filterMap {α β : Type} {f : α → Option β} {items items' : List α}
    (h : Inserts (f · = none) items items') : items'.filterMap f = items.filterMap f := by
  obtain ⟨before, element, after, hnone, rfl, rfl⟩ := h
  simp [hnone]

/-- An element with a property raises the count of the property by one. -/
lemma Inserts.countP {α : Type} {P : α → Prop} {p : α → Bool} {items items' : List α}
    (h : Inserts P items items') (hp : ∀ a, P a → p a = true) :
    items'.countP p = items.countP p + 1 := by
  obtain ⟨before, element, after, hP, rfl, rfl⟩ := h
  simp only [List.countP_append, List.countP_cons, hp element hP, if_true]
  omega

/-- An element without a property leaves the count of the property. -/
lemma Inserts.countP_of_not {α : Type} {P : α → Prop} {p : α → Bool} {items items' : List α}
    (h : Inserts P items items') (hp : ∀ a, P a → p a = false) :
    items'.countP p = items.countP p := by
  obtain ⟨before, element, after, hP, rfl, rfl⟩ := h
  simp [List.countP_append, hp element hP]

/-- An inserted element keeps what follows from its property. -/
lemma Inserts.mono {α : Type} {P Q : α → Prop} {items items' : List α}
    (h : Inserts P items items') (hPQ : ∀ a, P a → Q a) : Inserts Q items items' := by
  obtain ⟨before, element, after, hP, hitems⟩ := h
  exact ⟨before, element, after, hPQ element hP, hitems⟩

/-- An image of a list with an inserted element has the image of the element. -/
lemma Inserts.map {α β : Type} {P : β → Prop} {f : α → β} {items items' : List α}
    (h : Inserts (fun a => P (f a)) items items') : Inserts P (items.map f) (items'.map f) := by
  obtain ⟨before, element, after, hP, rfl, rfl⟩ := h
  exact ⟨before.map f, f element, after.map f, hP, by simp, by simp⟩

/-- An inserted element makes a list longer by one. -/
lemma Inserts.length {α : Type} {P : α → Prop} {items items' : List α}
    (h : Inserts P items items') : items'.length = items.length + 1 := by
  obtain ⟨before, element, after, -, rfl, rfl⟩ := h
  simp
  omega

/-- An element that says nothing only raises the number of those that do not decode. -/
lemma Inserts.accepted {α : Type} {decode : Value → Except Invalid α} {reads : Value → α → Prop}
    (hdecodes : Decodes decode reads) {items items' : List Value}
    (h : Inserts (SaysNothing reads) items items') :
    accepted decode items' = accepted decode items ∧
      rejectedCount decode items' = rejectedCount decode items + 1 := by
  have hnone : ∀ item, SaysNothing reads item → (decode item).toOption = none :=
    fun item hnothing => (eq_none_iff_saysNothing hdecodes.toOption_eq_some_iff).mpr hnothing
  constructor
  · exact (h.mono hnone).filterMap
  · exact h.countP fun item hnothing => by rw [hnone item hnothing]; rfl

/-- Every element of a list decodes or does not. -/
lemma length_accepted_add {α : Type} (decode : Value → Except Invalid α) (items : List Value) :
    (accepted decode items).length + rejectedCount decode items = items.length :=
  length_filterMap_add_countP _ items

/-- The elements that decode are those that say something. -/
lemma Decodes.reading {α : Type} {decode : Value → Except Invalid α} {reads : Value → α → Prop}
    (h : Decodes decode reads) (items : List Value) :
    ElementsRead reads items (accepted decode items) (rejectedCount decode items) :=
  reading_filterMap h.toOption_eq_some_iff items

/-- The element decode of a list. -/
lemma decodeEach_eq {α : Type} (decode : Value → Except Invalid α) (items : List Value) :
    decodeEach decode items = (accepted decode items, rejectedCount decode items) := by
  have hlength := decodeEach_snd decode items
  rw [decodeEach_fst] at hlength
  have htotal := length_accepted_add decode items
  refine Prod.ext (decodeEach_fst decode items) ?_
  show (decodeEach decode items).2 = rejectedCount decode items
  unfold accepted at htotal
  omega

/-! ## The grids -/

/-- A grid node decoded per element. -/
def gridOf (concepts products : List Value) : ParsedGrid where
  concepts := accepted concept concepts
  products := accepted gridProduct products
  dropped := rejectedCount concept concepts + rejectedCount gridProduct products

/-- A grid node is read exactly where its two lists are. -/
lemma parseGrid_eq_some_iff {node : Value} {grid : ParsedGrid} :
    parseGrid node = some grid ↔
      ∃ obj concepts products, node = .object obj ∧ ItemsAt obj "concepts" concepts ∧
        ItemsAt obj "products" products ∧ grid = gridOf concepts products := by
  unfold parseGrid
  simp only [Option.bind_eq_bind, Option.pure_def, Option.bind_eq_some_iff,
    Value.asObject_eq_some_iff, toOption_eq_some_iff, decodeEach_eq, Option.some.injEq]
  constructor
  · intro h
    obtain ⟨obj, rfl, concepts, hconcepts, products, hproducts, rfl⟩ := h
    exact ⟨obj, _, _, rfl, optList_iff.mp ⟨_, hconcepts, rfl⟩, optList_iff.mp ⟨_, hproducts, rfl⟩,
      rfl⟩
  · intro h
    obtain ⟨obj, concepts, products, rfl, hconcepts, hproducts, rfl⟩ := h
    obtain ⟨list, hlist, rfl⟩ := optList_iff.mpr hconcepts
    obtain ⟨list', hlist', rfl⟩ := optList_iff.mpr hproducts
    exact ⟨obj, rfl, list, hlist, list', hlist', rfl⟩

/-- The grid of an answer is read exactly where its envelope has it. -/
lemma grid_eq_some_iff {json : Value} {grid : ParsedGrid} :
    (gridNode json).bind parseGrid = some grid ↔
      ∃ concepts products, GridEnvelope json concepts products ∧
        grid = gridOf concepts products := by
  simp only [Option.bind_eq_some_iff, parseGrid_eq_some_iff]
  constructor
  · intro h
    obtain ⟨_, hnode, obj, concepts, products, rfl, hconcepts, hproducts, rfl⟩ := h
    exact ⟨concepts, products, ⟨obj, gridNode_iff.mp hnode, hconcepts, hproducts⟩, rfl⟩
  · intro h
    obtain ⟨concepts, products, ⟨obj, hnode, hconcepts, hproducts⟩, rfl⟩ := h
    exact ⟨_, gridNode_iff.mpr hnode, obj, concepts, products, rfl, hconcepts, hproducts, rfl⟩

/-- One more element that does not decode changes only the counts of a grid. -/
lemma GridOneMore.accepted {lists lists' : List Value × List Value} (h : GridOneMore lists lists') :
    accepted concept lists'.1 = accepted concept lists.1 ∧
      accepted gridProduct lists'.2 = accepted gridProduct lists.2 ∧
      rejectedCount concept lists'.1 + rejectedCount gridProduct lists'.2 =
        rejectedCount concept lists.1 + rejectedCount gridProduct lists.2 + 1 := by
  rcases h with ⟨hinserts, hsame⟩ | ⟨hsame, hinserts⟩
  · obtain ⟨hconcepts, hcount⟩ := hinserts.accepted decodes_concept
    rw [hconcepts, hcount, ← hsame]
    refine ⟨rfl, rfl, ?_⟩
    omega
  · obtain ⟨hproducts, hcount⟩ := hinserts.accepted decodes_gridProduct
    rw [hproducts, hcount, ← hsame]
    refine ⟨rfl, rfl, ?_⟩
    omega

/-- The answer of a category grid with a valid envelope. -/
lemma extractCategoryGrid_of_envelope {json : Value} {concepts products : List Value}
    (h : GridEnvelope json concepts products) :
    extractCategoryGrid json =
      .ok (if accepted concept concepts = [] then
          (accepted gridProduct products).map productToConcept
        else accepted concept concepts)
        (rejectedCount concept concepts + rejectedCount gridProduct products) := by
  unfold extractCategoryGrid
  rw [grid_eq_some_iff.mpr ⟨concepts, products, h, rfl⟩]
  rfl

/-- The concept of a product stands for it. -/
lemma forall₂_standsFor (products : List CategoryGridProduct) :
    List.Forall₂ StandsFor products (products.map productToConcept) := by
  rw [List.forall₂_map_right_iff, List.forall₂_same]
  intro product _
  exact ⟨rfl, rfl, rfl, rfl, rfl⟩

/-- **The category grid** keeps its contract.

**Proof sketch.** The code gives drift where the grid is missing, which is where there is no
envelope (`grid_eq_some_iff`). It keeps the accepted concepts or, where there are none, the accepted
products in their place, and counts the rejected elements of both lists; the accepted products
beside accepted concepts are unread. -/
theorem categoryGrid_holds : categoryGridContract.Holds extractCategoryGrid where
  failed_iff json := by
    refine ListContract.failed_iff_of_cases ?_ ?_
    · intro lists henvelope hdrift
      have hok := extractCategoryGrid_of_envelope henvelope
      rw [hdrift] at hok
      cases hok
    · show extractCategoryGrid json = .drift ∨ _
      unfold extractCategoryGrid
      cases hgrid : (gridNode json).bind parseGrid with
      | none => exact Or.inl rfl
      | some grid =>
        obtain ⟨concepts, products, henvelope, -⟩ := grid_eq_some_iff.mp hgrid
        exact Or.inr ⟨(concepts, products), henvelope⟩
  account json lists henvelope := by
    have hok := extractCategoryGrid_of_envelope henvelope
    have hconcepts := length_accepted_add concept lists.1
    have hproducts := length_accepted_add gridProduct lists.2
    by_cases hempty : accepted concept lists.1 = []
    · rw [if_pos hempty] at hok
      refine ⟨_, _, _, _, _, 0, decodes_concept.reading lists.1,
        decodes_gridProduct.reading lists.2, hok, .inr ⟨hempty, forall₂_standsFor _, rfl⟩, ?_⟩
      rw [hempty, List.length_nil] at hconcepts
      rw [List.length_map]
      omega
    · rw [if_neg hempty] at hok
      refine ⟨_, _, _, _, _, _, decodes_concept.reading lists.1,
        decodes_gridProduct.reading lists.2, hok, .inl ⟨hempty, rfl, rfl⟩, ?_⟩
      omega
  oneMore json json' lists lists' henvelope henvelope' hmore := by
    obtain ⟨hconcepts, hproducts, hcount⟩ := hmore.accepted
    refine ⟨_, _, extractCategoryGrid_of_envelope henvelope, ?_⟩
    rw [extractCategoryGrid_of_envelope henvelope', hconcepts, hproducts, hcount]

/-- The flag of the last page is read exactly where the node has it. -/
lemma parseGridIsLast_eq_some_iff {node : Object} {isLast : Bool} :
    parseGridIsLast (.object node) = some isLast ↔ HasIsLast node isLast := by
  rw [← pageInfo_eq_some_iff]
  unfold parseGridIsLast
  simp only [Option.bind_eq_bind, Option.bind_eq_some_iff, Value.asObject_eq_some_iff,
    toOption_eq_some_iff, Value.object.injEq, exists_eq_left', Option.join_eq_some_iff,
    exists_eq_right]

/-- The answer of a BROWSE grid with a valid envelope. -/
lemma extractBrowsePage_of_envelope {json : Value} {concepts products : List Value}
    {flag : Option Bool} (size : ℕ) (h : BrowseEnvelope json concepts products flag) :
    extractBrowsePage json size =
      .ok (accepted concept concepts)
        (flag.getD (decide ((accepted concept concepts).length < size)))
        (rejectedCount concept concepts + rejectedCount gridProduct products) := by
  obtain ⟨node, hnode, hconcepts, hproducts, hflag⟩ := h
  have hlast : parseGridIsLast (.object node) = flag := by
    ext isLast
    rw [parseGridIsLast_eq_some_iff, hflag]
  unfold extractBrowsePage
  rw [gridNode_iff.mpr hnode]
  dsimp only
  rw [parseGrid_eq_some_iff.mpr ⟨node, concepts, products, rfl, hconcepts, hproducts, rfl⟩, hlast]
  rfl

/-- **The BROWSE grid** keeps its contract.

**Proof sketch.** The code gives drift where the grid node or its two lists are missing, which is
where there is no envelope. Of an envelope it keeps what each list accepts and counts the others,
and an element that is rejected is accepted nowhere and counted once. -/
theorem browse_holds (size : ℕ) : (browseContract size).Holds (extractBrowsePage · size) where
  failed_iff json := by
    refine @ListContract.failed_iff_of_cases _ _ _ (extractBrowsePage · size) _ ?_ ?_
    · intro page henvelope hdrift
      have hok := extractBrowsePage_of_envelope size henvelope
      have hdrift : extractBrowsePage json size = .drift := hdrift
      rw [hdrift] at hok
      cases hok
    · show extractBrowsePage json size = .drift ∨ _
      unfold extractBrowsePage
      cases hnode : gridNode json with
      | none => exact Or.inl rfl
      | some node =>
        dsimp only
        cases hgrid : parseGrid node with
        | none => exact Or.inl rfl
        | some grid =>
          obtain ⟨obj, concepts, products, rfl, hconcepts, hproducts, -⟩ :=
            parseGrid_eq_some_iff.mp hgrid
          have henvelope : BrowseEnvelope json concepts products (parseGridIsLast (.object obj)) :=
            ⟨obj, gridNode_iff.mp hnode, hconcepts, hproducts,
              fun isLast => parseGridIsLast_eq_some_iff⟩
          exact Or.inr ⟨((concepts, products), _), henvelope⟩
  account json page henvelope := by
    refine ⟨_, _, _, _, decodes_concept.reading page.1.1, decodes_gridProduct.reading page.1.2,
      extractBrowsePage_of_envelope size henvelope, ?_⟩
    have hconcepts := length_accepted_add concept page.1.1
    have hproducts := length_accepted_add gridProduct page.1.2
    omega
  oneMore json json' page page' henvelope henvelope' hmore := by
    obtain ⟨hmore, hflag⟩ := hmore
    obtain ⟨hconcepts, -, hcount⟩ := hmore.accepted
    refine ⟨_, _, _, extractBrowsePage_of_envelope size henvelope, ?_⟩
    show extractBrowsePage json' size = _
    rw [extractBrowsePage_of_envelope size henvelope', hconcepts, hcount, hflag]

/-! ### The end of a BROWSE list without page info -/

/-- **Where a BROWSE list ends without page info.** The page is the last one exactly where Sony sent
fewer than `size` elements, if and only if the elements that do not decode leave no full page below
`size`: the source counts the elements that decode.

**Proof sketch.** The decoded elements and the rejected ones are the elements of the answer, so the
two conditions compare two numbers with `size` whose difference is the number of the rejected ones.
-/
theorem browsePage_isLast_iff (contract : SonyContract) (size : ℕ)
    {answer : Except UpstreamError Value} {json : Value}
    (hanswer : graphqlChecked contract.categoryGridOperation answer = .ok json)
    {concepts products : List Value} (henvelope : BrowseEnvelope json concepts products none) :
    ∃ page, fetchBrowsePage contract size answer = .ok page ∧
      ((page.isLast = true ↔ concepts.length < size) ↔
        concepts.length < size ∨ size + rejectedCount concept concepts ≤ concepts.length) := by
  have hpage : fetchBrowsePage contract size answer = .ok {
      concepts := accepted concept concepts
      isLast := decide ((accepted concept concepts).length < size) } := by
    unfold fetchBrowsePage
    rw [hanswer]
    dsimp only [bind, Except.bind]
    rw [extractBrowsePage_of_envelope size henvelope]
    rfl
  refine ⟨_, hpage, ?_⟩
  have htotal := length_accepted_add concept concepts
  rw [decide_eq_true_eq]
  omega

/-- A grid answer with these concepts and without page info. -/
def unflaggedGrid (concepts : List Value) : Value :=
  .object [("data", .object [("categoryGridRetrieve", .object [("concepts", .array concepts)])])]

/-- A grid without the flag of its last page is a BROWSE envelope. -/
lemma browseEnvelope_unflaggedGrid (concepts : List Value) :
    BrowseEnvelope (unflaggedGrid concepts) concepts [] none := by
  refine ⟨[("concepts", .array concepts)], ⟨_, _, rfl, rfl, _, _, rfl, rfl, rfl⟩, Or.inr rfl,
    Or.inl ⟨Or.inl rfl, rfl⟩, fun isLast => ?_⟩
  constructor
  · intro h
    obtain ⟨⟩ := h
  · intro h
    obtain ⟨info, hinfo, -⟩ := h
    cases hinfo

/-- The operation names of a contract. -/
def gridContract : SonyContract where
  categoryGridOperation := "categoryGridRetrieve"
  productOperation := "metGetProductById"
  searchOperation := "getSearchResults"
  purchasedOperation := "getPurchasedGameList"
  wishlistOperation := "storeRetrieveWishlist"

/-- A full page of two concepts that decode is not the last one. -/
theorem browsePage_isLast_iff_full : ∃ page,
    fetchBrowsePage gridContract 2 (.ok (unflaggedGrid [.object [], .object []])) = .ok page ∧
      (page.isLast = true ↔ [Value.object [], Value.object []].length < 2) := by
  have haccepted : graphqlChecked gridContract.categoryGridOperation
      (.ok (unflaggedGrid [.object [], .object []])) =
      .ok (unflaggedGrid [.object [], .object []]) := rfl
  obtain ⟨page, hpage, hiff⟩ := browsePage_isLast_iff gridContract 2 haccepted
    (browseEnvelope_unflaggedGrid [.object [], .object []])
  exact ⟨page, hpage, hiff.mpr (Or.inr (by decide))⟩

/-- **One odd element ends the list.** Of two concepts on a page of two, one has a number as its id,
and the page is the last one. -/
theorem browsePage_isLast_of_rejected :
    ¬ ∀ (contract : SonyContract) (size : ℕ) (answer : Except UpstreamError Value) (json : Value)
      (concepts products : List Value) (page : BrowsePage), 1 ≤ size →
      graphqlChecked contract.categoryGridOperation answer = .ok json →
      BrowseEnvelope json concepts products none →
      fetchBrowsePage contract size answer = .ok page →
      (page.isLast = true ↔ concepts.length < size) := by
  intro h
  have hlast := h gridContract 2 (.ok (unflaggedGrid [.object [],
    .object [("id", .number (.posInt 42))]])) _ _ [] _ (by decide) rfl
    (browseEnvelope_unflaggedGrid _) rfl
  exact absurd (hlast.mp (by decide)) (by decide)

/-! ## The search -/

/-- The answer of a search with a valid envelope. -/
lemma parseSearchResponse_of_envelope {json : Value} {results : List Value} {isLast : Bool}
    (h : SearchEnvelope json results isLast) :
    parseSearchResponse json =
      .ok (results.filterMap searchEntry) isLast
        (results.countP fun result => (searchEntry result).isNone) := by
  obtain ⟨node, hnode, hlast, hresults⟩ := h
  unfold parseSearchResponse
  rw [searchNode_iff.mpr hnode]
  dsimp only
  rw [pageInfo_eq_some_iff.mpr hlast, optList_eq_some_iff.mpr hresults]

/-- **The search** keeps its contract.

**Proof sketch.** The code gives drift where the node, the flag or the list of the results is
missing, which is where there is no envelope. It filters the results by the decoder and counts those
without a value. -/
theorem search_holds : searchContract.Holds parseSearchResponse where
  failed_iff json := by
    refine ListContract.failed_iff_of_cases ?_ ?_
    · intro answer henvelope hdrift
      have hok := parseSearchResponse_of_envelope henvelope
      rw [hdrift] at hok
      cases hok
    · show parseSearchResponse json = .drift ∨ _
      unfold parseSearchResponse
      cases hnode : searchNode json with
      | none => exact Or.inl rfl
      | some node =>
        dsimp only
        split
        · next isLast results hlast hresults =>
          have henvelope : SearchEnvelope json results isLast :=
            ⟨node, searchNode_iff.mp hnode, pageInfo_eq_some_iff.mp hlast,
              optList_eq_some_iff.mp hresults⟩
          exact Or.inr ⟨(results, isLast), henvelope⟩
        · exact Or.inl rfl
  account json answer henvelope :=
    ⟨_, _, reading_filterMap (fun value entry => searchEntry_eq_some_iff) answer.1,
      parseSearchResponse_of_envelope henvelope, length_filterMap_add_countP searchEntry answer.1⟩
  oneMore json json' answer answer' henvelope henvelope' hmore := by
    obtain ⟨hnothing, hlast⟩ := hmore
    have hinserts : Inserts (searchEntry · = none) answer.1 answer'.1 :=
      hnothing.mono fun value =>
        (eq_none_iff_saysNothing fun value entry => searchEntry_eq_some_iff).mpr
    refine ⟨_, _, _, parseSearchResponse_of_envelope henvelope, ?_⟩
    rw [parseSearchResponse_of_envelope henvelope', hinserts.filterMap,
      hinserts.countP (p := fun result => (searchEntry result).isNone), hlast]
    intro result hnone
    simp [hnone]

/-! ## The lists with a scope -/

/-- The outcome of an element that says nothing. -/
lemma eq_dropped_iff {α : Type} {field : Value → Field α} {reads : Value → Option α → Prop}
    (h : Decodes (fun value => (field value).decoded) reads) {value : Value} :
    field value = .dropped ↔ SaysNothing reads value := by
  rw [← eq_none_iff_saysNothing h.toOption_eq_some_iff]
  cases field value <;> simp [Field.decoded, Except.toOption]

/-- What the elements of a list with a scope say, and the outcomes of their decoder.

**Proof sketch.** By induction on the elements. The decoder says of the first one what it is, so it
is kept with its outcome, or says nothing and is dropped (`Decodes`). -/
lemma exists_reading {α : Type} [DecidableEq α] {field : Value → Field α}
    {reads : Value → Option α → Prop} (h : Decodes (fun value => (field value).decoded) reads)
    (items : List Value) :
    ∃ outcomes, ElementsRead reads items outcomes ((items.map field).countP (· = .dropped)) ∧
      outcomes.reduceOption = (items.map field).filterMap Field.entry? ∧
      outcomes.countP Option.isNone = (items.map field).countP (· = .outOfScope) := by
  induction items with
  | nil => exact ⟨[], .nil, rfl, rfl⟩
  | cons item items ih =>
    obtain ⟨outcomes, hreading, hinScope, hout⟩ := ih
    have hitem : ∀ outcome, (field item).decoded = .ok outcome → reads item outcome :=
      fun outcome => (h item outcome).mp
    rw [List.map_cons]
    cases hfield : field item with
    | kept entry =>
      refine ⟨some entry :: outcomes, ?_, ?_, ?_⟩
      · rw [List.countP_cons_of_neg (by simp)]
        exact .kept (hitem _ (by rw [hfield]; rfl)) hreading
      · rw [List.reduceOption_cons_of_some, hinScope]
        rfl
      · rw [List.countP_cons_of_neg (by simp), List.countP_cons_of_neg (by simp), hout]
    | outOfScope =>
      refine ⟨none :: outcomes, ?_, ?_, ?_⟩
      · rw [List.countP_cons_of_neg (by simp)]
        exact .kept (hitem _ (by rw [hfield]; rfl)) hreading
      · rw [List.reduceOption_cons_of_none, hinScope]
        rfl
      · rw [List.countP_cons_of_pos (by simp), List.countP_cons_of_pos (by simp), hout]
    | dropped =>
      refine ⟨outcomes, ?_, ?_, ?_⟩
      · rw [List.countP_cons_of_pos (by simp)]
        exact .dropped ((eq_dropped_iff h).mp hfield) hreading
      · rw [hinScope]
        rfl
      · rw [List.countP_cons_of_neg (by simp), hout]

/-- The account of a run of the loop. -/
lemma scopedAccount_foldl {α κ : Type} [DecidableEq α] [DecidableEq κ] {field : Value → Field α}
    {reads : Value → Option α → Prop} (h : Decodes (fun value => (field value).decoded) reads)
    (key : α → κ) (items : List Value) :
    let tally := (items.map field).foldl (Tally.add key) Tally.empty
    ScopedAccount reads key items tally.entries tally.dropped tally.outOfScope
      (repeats key ((items.map field).filterMap Field.entry?)).length := by
  dsimp only
  rw [Tally.entries_foldl, Tally.dropped_foldl_empty, Tally.outOfScope_foldl_empty]
  obtain ⟨outcomes, hreading, hinScope, hout⟩ := exists_reading h items
  refine ⟨outcomes, hreading, ?_, hout.symm, ?_⟩
  · rw [hinScope]
    exact firstOfKey_firstWins _
  · have hkept := (firstWins_append_repeats key
      ((items.map field).filterMap Field.entry?)).length_eq
    rw [List.length_append] at hkept
    have htotal := length_fields (items.map field)
    rw [List.length_map] at htotal
    omega

/-- One more dropped element only raises the count of a run of the loop. -/
lemma Inserts.foldl_add {α κ : Type} [DecidableEq α] [DecidableEq κ] {key : α → κ}
    {fields fields' : List (Field α)} (h : Inserts (· = .dropped) fields fields') :
    (fields'.foldl (Tally.add key) Tally.empty).entries =
        (fields.foldl (Tally.add key) Tally.empty).entries ∧
      (fields'.foldl (Tally.add key) Tally.empty).dropped =
        (fields.foldl (Tally.add key) Tally.empty).dropped + 1 ∧
      (fields'.foldl (Tally.add key) Tally.empty).outOfScope =
        (fields.foldl (Tally.add key) Tally.empty).outOfScope := by
  have hentry : ∀ field : Field α, field = .dropped → field.entry? = none := by
    rintro _ rfl
    rfl
  refine ⟨?_, ?_, ?_⟩
  · rw [Tally.entries_foldl, Tally.entries_foldl, (h.mono hentry).filterMap]
  · rw [Tally.dropped_foldl_empty, Tally.dropped_foldl_empty, h.countP]
    simp
  · rw [Tally.outOfScope_foldl_empty, Tally.outOfScope_foldl_empty, h.countP_of_not]
    simp

/-- The answer of a wishlist with a valid envelope. -/
lemma parseWishlist_of_envelope {json : Value} {items : List Value}
    (h : WishlistEnvelope json items) :
    parseWishlist json =
      .listed ((items.map wishlistField).foldl (Tally.add WishlistEntry.id) Tally.empty).entries
        ((items.map wishlistField).foldl (Tally.add WishlistEntry.id) Tally.empty).dropped
        ((items.map wishlistField).foldl (Tally.add WishlistEntry.id) Tally.empty).outOfScope := by
  unfold parseWishlist
  rw [wishlistItems_iff.mpr h]

/-- **The wishlist** keeps its contract.

**Proof sketch.** Without a list the code gives a drift or a denied access. Of a list it keeps a
tally of the outcomes of the items, and one more dropped outcome changes a tally by one count
(`Inserts.foldl_add`). -/
theorem wishlist_holds : wishlistContract.Holds parseWishlist where
  failed_iff json := by
    refine ListContract.failed_iff_of_cases ?_ ?_
    · intro items henvelope hfailed
      have hok := parseWishlist_of_envelope henvelope
      rcases hfailed with hfailed | hfailed
      · rw [hfailed] at hok
        cases hok
      · rw [hfailed] at hok
        cases hok
    · show (parseWishlist json = .drift ∨ parseWishlist json = .denied) ∨ _
      unfold parseWishlist
      cases hitems : wishlistItems json with
      | none =>
        left
        dsimp only
        split_ifs
        · exact Or.inr rfl
        · exact Or.inl rfl
      | some items => exact Or.inr ⟨items, wishlistItems_iff.mp hitems⟩
  account json items henvelope :=
    ⟨_, _, _, _, scopedAccount_foldl decodes_wishlistField WishlistEntry.id items,
      parseWishlist_of_envelope henvelope⟩
  oneMore json json' items items' henvelope henvelope' hmore := by
    have hfields : Inserts (· = .dropped) (items.map wishlistField) (items'.map wishlistField) :=
      Inserts.map (Inserts.mono hmore fun value => (eq_dropped_iff decodes_wishlistField).mpr)
    obtain ⟨hentries, hdropped, houtOfScope⟩ :=
      @Inserts.foldl_add _ _ _ _ WishlistEntry.id _ _ hfields
    refine ⟨_, _, _, parseWishlist_of_envelope henvelope, ?_⟩
    rw [parseWishlist_of_envelope henvelope', hentries, hdropped, houtOfScope]

/-- The answer of a library page with a valid envelope. -/
lemma parsePage_of_envelope {json : Value} {games : List Value}
    (h : PurchasedEnvelope json games) :
    parsePage json = some {
      rawCount := games.length
      entries := (games.map purchasedField).filterMap Field.entry?
      dropped := (games.map purchasedField).countP (· = .dropped)
      outOfScope := (games.map purchasedField).countP (· = .outOfScope) } := by
  unfold parsePage
  rw [pageGames_iff.mpr h]
  rfl

/-- **The library page** keeps its contract.

**Proof sketch.** The code gives no page where the games are missing, which is where there is no
envelope (`pageGames_iff`). The outcomes of the games are their readings (`exists_reading`), each of
one of three kinds, so the three counts add up. -/
theorem purchased_holds : purchasedContract.Holds parsePage where
  failed_iff json := by
    refine ListContract.failed_iff_of_cases ?_ ?_
    · intro games henvelope hnone
      have hok := parsePage_of_envelope henvelope
      rw [hnone] at hok
      cases hok
    · show parsePage json = none ∨ _
      unfold parsePage
      cases hgames : pageGames json with
      | none => exact Or.inl rfl
      | some games => exact Or.inr ⟨games, pageGames_iff.mp hgames⟩
  account json games henvelope := by
    obtain ⟨outcomes, hreading, hinScope, hout⟩ := exists_reading decodes_purchasedField games
    refine ⟨outcomes, _, hreading, parsePage_of_envelope henvelope, rfl, hinScope.symm, hout.symm,
      ?_⟩
    have htotal := length_fields (games.map purchasedField)
    rw [List.length_map] at htotal
    exact htotal
  oneMore json json' games games' henvelope henvelope' hmore := by
    have hlength : games'.length = games.length + 1 := Inserts.length hmore
    have hfields : Inserts (· = .dropped) (games.map purchasedField) (games'.map purchasedField) :=
      Inserts.map (Inserts.mono hmore fun value => (eq_dropped_iff decodes_purchasedField).mpr)
    have hentry : ∀ field : Field PurchasedEntry, field = .dropped → field.entry? = none := by
      rintro _ rfl
      rfl
    refine ⟨_, parsePage_of_envelope henvelope, ?_⟩
    rw [parsePage_of_envelope henvelope', hlength, (hfields.mono hentry).filterMap,
      hfields.countP, hfields.countP_of_not]
    · simp
    · simp

/-! ## The monthly feed -/

/-- The buckets that decode are counted. -/
lemma foldl_readBucket_decoded (buckets : List Value)
    (state : Tally PlusMonthlyEntry ProductId × ℕ) :
    (buckets.foldl readBucket state).2 =
      state.2 + buckets.countP fun bucket => (bucketGames bucket).isSome := by
  induction buckets generalizing state with
  | nil => rfl
  | cons bucket buckets ih =>
    rw [List.foldl_cons, ih, List.countP_cons]
    unfold readBucket
    cases bucketGames bucket with
    | none => simp
    | some games => simp; omega

/-- The outcomes of the feed are those of the games of its buckets, and a dropped one for each other
element. -/
lemma exists_feedReading (buckets : List Value) :
    ∃ games strays, FeedReading buckets games strays ∧
      (feedFields buckets).filterMap Field.entry? =
        (games.map monthlyField).filterMap Field.entry? ∧
      (feedFields buckets).countP (· = .dropped) =
        (games.map monthlyField).countP (· = .dropped) + strays ∧
      (feedFields buckets).countP (· = .outOfScope) =
        (games.map monthlyField).countP (· = .outOfScope) := by
  induction buckets with
  | nil => exact ⟨[], 0, .nil, rfl, rfl, rfl⟩
  | cons bucket buckets ih =>
    obtain ⟨rest, strays, hfeed, hentries, hdropped, hout⟩ := ih
    have hcons : feedFields (bucket :: buckets) = bucketFields bucket ++ feedFields buckets := by
      simp [feedFields]
    rw [hcons]
    cases hgames : bucketGames bucket with
    | some games =>
      have hfields : bucketFields bucket = games.map monthlyField := by
        rw [bucketFields, hgames]
      refine ⟨games ++ rest, strays, .bucket (bucketGames_iff.mp hgames) hfeed, ?_, ?_, ?_⟩
      · rw [hfields, List.filterMap_append, hentries, List.map_append, List.filterMap_append]
      · rw [hfields, List.countP_append, hdropped, List.map_append, List.countP_append,
          Nat.add_assoc]
      · rw [hfields, List.countP_append, hout, List.map_append, List.countP_append]
    | none =>
      have hfields : bucketFields bucket = [.dropped] := by rw [bucketFields, hgames]
      have hstray : ¬∃ games, IsBucket bucket games := by
        rintro ⟨games, hbucket⟩
        rw [bucketGames_iff.mpr hbucket] at hgames
        cases hgames
      refine ⟨rest, strays + 1, .stray hstray hfeed, ?_, ?_, ?_⟩
      · rw [hfields, ← hentries]
        rfl
      · rw [hfields, List.countP_append, hdropped]
        simp
        omega
      · rw [hfields, List.countP_append, hout]
        simp

/-- A feed has a bucket exactly where the count of those that decode is not zero. -/
lemma exists_isBucket_iff {buckets : List Value} :
    (∃ bucket ∈ buckets, ∃ games, IsBucket bucket games) ↔
      buckets.countP (fun bucket => (bucketGames bucket).isSome) ≠ 0 := by
  simp only [ne_eq, List.countP_eq_zero, not_forall, Option.isSome_iff_exists, not_not,
    bucketGames_iff, exists_prop]

/-- The answer of a monthly feed with a valid envelope. -/
lemma parsePlusMonthly_of_envelope {json : Value} {buckets : List Value}
    (h : MonthlyEnvelope json buckets) :
    parsePlusMonthly json =
      .ok ((feedFields buckets).foldl (Tally.add PlusMonthlyEntry.productId) Tally.empty).entries
        ((feedFields buckets).foldl (Tally.add PlusMonthlyEntry.productId) Tally.empty).dropped
        ((feedFields buckets).foldl (Tally.add PlusMonthlyEntry.productId)
          Tally.empty).outOfScope := by
  obtain ⟨rfl, hbuckets⟩ := h
  have hdecoded : ¬(buckets ≠ [] ∧ (buckets.foldl readBucket (Tally.empty, 0)).2 = 0) := by
    rintro ⟨hne, hzero⟩
    rw [foldl_readBucket_decoded, Nat.zero_add] at hzero
    rcases hbuckets with hnil | hbucket
    · exact hne hnil
    · exact exists_isBucket_iff.mp hbucket hzero
  show (if buckets ≠ [] ∧ (buckets.foldl readBucket (Tally.empty, 0)).2 = 0 then
    PlusMonthlyOutcome.drift else _) = _
  rw [if_neg hdecoded, foldl_readBucket]

/-- One more game that does not decode is one more dropped element of the feed. -/
lemma inserts_feedFields {buckets buckets' : List Value}
    (h : monthlyContract.OneMore buckets buckets') :
    Inserts (· = .dropped) (feedFields buckets) (feedFields buckets') := by
  obtain ⟨before, bucket, bucket', after, games, games', rfl, rfl, hbucket, hbucket', hinserts⟩ := h
  have hfields : bucketFields bucket = games.map monthlyField := by
    unfold bucketFields
    rw [bucketGames_iff.mpr hbucket]
  have hfields' : bucketFields bucket' = games'.map monthlyField := by
    unfold bucketFields
    rw [bucketGames_iff.mpr hbucket']
  obtain ⟨first, game, last, hnothing, rfl, rfl⟩ := hinserts
  have hdropped : monthlyField game = .dropped := (eq_dropped_iff decodes_monthlyField).mpr hnothing
  refine ⟨feedFields before ++ first.map monthlyField, monthlyField game,
    last.map monthlyField ++ feedFields after, hdropped, ?_, ?_⟩
  · simp [feedFields, hfields]
  · simp [feedFields, hfields']

/-- **The monthly feed** keeps its contract.

**Proof sketch.** The feed is a list of buckets, empty or with one that decodes. The games of the
decoded buckets go through one tally, and a stray bucket is one dropped element
(`exists_feedReading`), so the account of the tally is the one of the feed. -/
theorem monthly_holds : monthlyContract.Holds parsePlusMonthly where
  failed_iff json := by
    refine ListContract.failed_iff_of_cases ?_ ?_
    · intro buckets henvelope hdrift
      have hok := parsePlusMonthly_of_envelope henvelope
      rw [hdrift] at hok
      cases hok
    · refine or_iff_not_imp_right.mpr fun hnone => ?_
      show parsePlusMonthly json = .drift
      unfold parsePlusMonthly
      cases hbuckets : json.asArray with
      | none => rfl
      | some buckets =>
        obtain rfl := Value.asArray_eq_some_iff.mp hbuckets
        dsimp only
        rw [if_pos]
        rw [foldl_readBucket_decoded, Nat.zero_add]
        constructor
        · rintro rfl
          exact hnone ⟨[], rfl, .inl rfl⟩
        · by_contra hdecoded
          exact hnone ⟨buckets, rfl, .inr (exists_isBucket_iff.mpr hdecoded)⟩
  account json buckets henvelope := by
    obtain ⟨games, strays, hfeed, hentries, hdropped, hout⟩ := exists_feedReading buckets
    refine ⟨games, strays, _, _, _, _, hfeed,
      scopedAccount_foldl decodes_monthlyField PlusMonthlyEntry.productId games, ?_⟩
    rw [parsePlusMonthly_of_envelope henvelope]
    simp only [Tally.entries_foldl, Tally.dropped_foldl_empty, Tally.outOfScope_foldl_empty,
      hentries, hdropped, hout]
  oneMore json json' buckets buckets' henvelope henvelope' hmore := by
    obtain ⟨hentries, hdropped, houtOfScope⟩ :=
      @Inserts.foldl_add _ _ _ _ PlusMonthlyEntry.productId _ _ (inserts_feedFields hmore)
    refine ⟨_, _, _, parsePlusMonthly_of_envelope henvelope, ?_⟩
    rw [parsePlusMonthly_of_envelope henvelope', hentries, hdropped, houtOfScope]

/-! ## All decoders -/

/-- **Decode accounting.** Each list decoder reports drift (the wishlist also a denied access)
exactly where the envelope is invalid. Otherwise it keeps the elements that decode and are in scope,
in their order, and accounts for every element once; and one more element that does not decode
changes nothing but the counts.

**Proof sketch.** One lemma for each decoder. Each of them decodes the elements by a tally that
keeps, drops or passes over an element, and the tally of a list is a filter of its elements with the
counts of the others. The envelope and the kept elements are described on the JSON (`ElementsRead`),
and the decode of one element agrees with the description. -/
theorem decode_accounting :
    categoryGridContract.Holds extractCategoryGrid ∧
      (∀ size, (browseContract size).Holds (extractBrowsePage · size)) ∧
      searchContract.Holds parseSearchResponse ∧
      monthlyContract.Holds parsePlusMonthly ∧
      purchasedContract.Holds parsePage ∧
      wishlistContract.Holds parseWishlist :=
  ⟨categoryGrid_holds, browse_holds, search_holds, monthly_holds, purchased_holds, wishlist_holds⟩

/-- A wishlist with these elements. -/
def wishlistAnswer (items : List Value) : Value :=
  .object [("data", .object [("storeWishlistSecure", .array items)])]

/-- An element without an id before an element that is not an object: the wishlist drops both. -/
theorem decode_accounting_wishlist :
    wishlistContract.Raised (parseWishlist (wishlistAnswer [.null]))
      (parseWishlist (wishlistAnswer [.object [], .null])) :=
  decode_accounting.2.2.2.2.2.oneMore _ _ [.null] [.object [], .null]
    ⟨_, ⟨_, _, rfl, rfl, rfl⟩, rfl⟩ ⟨_, ⟨_, _, rfl, rfl, rfl⟩, rfl⟩
    ⟨[], .object [], [.null], (eq_dropped_iff decodes_wishlistField).mp (by decide), rfl, rfl⟩

end PsStore
