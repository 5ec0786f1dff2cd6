import PsStore.Domain.Library
import PsStore.Sources.Sony.Catalog

set_option relaxedAutoImplicit false
set_option autoImplicit false

/-!
# The signed-in store client

The library pages and the wishlist of `sources/sony/account.rs`, `account/purchased.rs` and
`account/wishlist.rs`. The answer of a call is the JSON of a body or the failure of the call, and
whether a deadline passes is a flag. The sign-in exchange itself is not modelled here.

## Main definitions

* `purchasedField`, `parsePage` — one library page.
* `crawlPages`, `purchasedGames` — the crawl of the library.
* `wishlistField`, `parseWishlist`, `wishlistGames` — the wishlist.

## Main results

* `nodup_purchasedGames`, `nodup_wishlistGames` — no id occurs twice in a signed-in list.
-/

namespace PsStore

open Json

/-! ## Failures -/

/-- An outage with a fixed message. -/
def unavailable (message : String) : AccountError := .upstream (.unavailable message)

/-- Sony rejected the sign-in. -/
def rejected : AccountError := .sessionRejected "Sony rejected the sign-in"

/-- A rotated persisted query. -/
def queryRotated (operation : String) : AccountError := .upstream (rotated operation)

/-- Runs a call with a deadline. A late call fails with `message`. -/
def within {α : Type} (late : Bool) (message : String) (work : Except AccountError α) :
    Except AccountError α :=
  if late then .error (unavailable message) else work

/-! ## The library pages -/

/-- The games per library page. -/
def purchasedPageSize : ℕ := 100

/-- The most library pages per request. -/
def purchasedMaxPages : ℕ := 20

/-- The URL of an image field, or `none` for a field of the wrong type. -/
def imageUrl (game : Object) : Option (Option String) :=
  match game.get "image" with
  | none | some .null => some none
  | some (.object image) => nullableString image "url"
  | some _ => none

/-- What a library page makes of one game: it is kept when its platform is exactly PS5, its name is
not empty, and its product id is valid. -/
def purchasedField (raw : Value) : Field PurchasedEntry :=
  match raw.asObject with
  | none => .dropped
  | some game =>
    match nullableString game "productId", nullableString game "name",
        nullableString game "platform", imageUrl game with
    | some (some productId), some (some name), some platform, some imageUrl =>
      if name = "" then .dropped
      else
        match (ProductId.parse productId).filter fun _ => platform == some "PS5" with
        | none => .outOfScope
        | some productId => .kept { productId, name, imageUrl := imageUrl.getD "" }
    | _, _, _, _ => .dropped

/-- A decoded page. -/
structure PurchasedPage where
  /-- The games that Sony returned on this page, before any filter. -/
  rawCount : ℕ
  entries : List PurchasedEntry
  dropped : ℕ
  outOfScope : ℕ

/-- The games of a library page, unless an envelope has another shape. -/
def pageGames (body : Value) : Option (List Value) := do
  let data ← ((← body.asObject).get "data").bind Value.asObject
  let titles ← (data.get "purchasedTitlesRetrieve").bind Value.asObject
  (titles.get "games").bind Value.asArray

/-- The page, or `none` for an envelope of another shape. -/
def parsePage (body : Value) : Option PurchasedPage := do
  let games ← pageGames body
  let fields := games.map purchasedField
  return {
    rawCount := games.length
    entries := fields.filterMap Field.entry?
    dropped := fields.countP (· = .dropped)
    outOfScope := fields.countP (· = .outOfScope) }

/-- The crawl from a page on: reads the pages in sequence until a page is not full. The last allowed
page must not be full. -/
def crawlPages (contract : SonyContract) (pages : ℕ → Except AccountError Value) :
    ℕ → ℕ → List PurchasedEntry → Except AccountError (List PurchasedEntry)
  | 0, _, _ => .error (unavailable "Sony library list exceeds the supported size")
  | left + 1, page, collected => do
    let body ← pages page
    if isPersistedQueryRotation body then .error (queryRotated contract.purchasedOperation)
    else
      match parsePage body with
      | none => .error (unavailable "Sony library list has an unexpected shape")
      | some outcome =>
        let collected := collected ++ outcome.entries
        if outcome.rawCount < purchasedPageSize then .ok (dedupePurchased collected)
        else crawlPages contract pages left (page + 1) collected

/-- The purchased games. -/
def purchasedGames (contract : SonyContract) (late : Bool)
    (pages : ℕ → Except AccountError Value) : Except AccountError (List PurchasedEntry) :=
  within late "Sony library list timed out" (crawlPages contract pages purchasedMaxPages 0 [])

/-! ## The wishlist -/

/-- The id when it is valid for the type name. -/
def wishlistId (typename : Option String) (id : String) : Option WishlistId :=
  match typename with
  | some "Product" => (ProductId.parse id).map .product
  | some "Concept" => (ConceptId.parse id).map .concept
  | _ => none

/-- The box art URL, or the empty string. -/
def boxArtUrl (boxArt : Option Value) : String :=
  match boxArt.bind Value.asObject with
  | some art => ((nullableString art "url").join).getD ""
  | none => ""

/-- The platforms of an entry, or `none` for a field of the wrong type. -/
def wishlistPlatforms (entry : Object) : Option (List Value) :=
  match entry.get "platforms" with
  | none | some .null => some []
  | some (.array platforms) => some platforms
  | some _ => none

/-- What the wishlist makes of one element: it is kept when its platforms contain PS5, its name is
not empty, and its id is valid for its type name. -/
def wishlistField (raw : Value) : Field WishlistEntry :=
  match raw.asObject with
  | none => .dropped
  | some entry =>
    match wishlistPlatforms entry, nullableString entry "__typename", nullableString entry "id",
        nullableString entry "name" with
    | some platforms, some typename, some (some id), some (some name) =>
      if id = "" ∨ name = "" then .dropped
      else
        match wishlistId typename id with
        | none => .outOfScope
        | some id =>
          if platforms.any fun platform => platform.asString == some "PS5" then
            .kept { id, name, imageUrl := boxArtUrl (entry.get "boxArt") }
          else .outOfScope
    | _, _, _, _ => .dropped

/-- The outcome of a wishlist answer. -/
inductive WishlistOutcome where
  /-- Sony answered "access denied" and returned no list. -/
  | denied
  | drift
  /-- The entries in scope without duplicate ids, and the counts of the other elements. -/
  | listed (entries : List WishlistEntry) (dropped outOfScope : ℕ)
deriving DecidableEq

/-- True for an answer with a null list and errors, one of which says "access denied". Each error
must be an object whose `message` is absent, `null`, or a string. -/
def isAccessDenied (body : Value) : Bool :=
  match body.asObject with
  | none => false
  | some root =>
    match root.get "errors", root.get "data" with
    | some (.array errors), some (.object data) =>
      if ((Object.get data "storeWishlistSecure").any Value.isNull) = false then false
      else
        match errors.mapM fun error => error.asObject.bind (nullableString · "message") with
        | none => false
        | some messages => messages.any fun message =>
            containsLower "access denied" (message.getD "")
    | _, _ => false

/-- The list of a wishlist answer. -/
def wishlistItems (body : Value) : Option (List Value) := do
  let data ← ((← body.asObject).get "data").bind Value.asObject
  (data.get "storeWishlistSecure").bind Value.asArray

/-- The outcome of a wishlist answer. The first entry of an id wins. -/
def parseWishlist (body : Value) : WishlistOutcome :=
  match wishlistItems body with
  | none => if isAccessDenied body then .denied else .drift
  | some items =>
    let tally := (items.map wishlistField).foldl (Tally.add WishlistEntry.id) Tally.empty
    .listed tally.entries tally.dropped tally.outOfScope

/-- The wishlist in one request. -/
def wishlistGames (contract : SonyContract) (late : Bool) (answer : Except AccountError Value) :
    Except AccountError (List WishlistEntry) :=
  within late "Sony wishlist timed out" do
    let body ← answer
    if isPersistedQueryRotation body then .error (queryRotated contract.wishlistOperation)
    else
      match parseWishlist body with
      | .denied => .error rejected
      | .drift => .error (unavailable "Sony wishlist has an unexpected shape")
      | .listed entries _ _ => .ok entries

/-! ## No id twice -/

/-- A call within its deadline. -/
lemma within_eq_ok {α : Type} {late : Bool} {message : String} {work : Except AccountError α}
    {a : α} (h : within late message work = .ok a) : work = .ok a := by
  unfold within at h
  split_ifs at h
  exact h

/-- A crawl that ends answers deduplicated entries. -/
lemma nodup_crawlPages {contract : SonyContract} {pages : ℕ → Except AccountError Value}
    {left page : ℕ} {collected entries : List PurchasedEntry}
    (h : crawlPages contract pages left page collected = .ok entries) :
    (entries.map PurchasedEntry.productId).Nodup := by
  induction left generalizing page collected with
  | zero => cases h
  | succ left ih =>
    rw [crawlPages] at h
    obtain ⟨body, -, h⟩ := bind_eq_ok h
    split_ifs at h with hrotation
    cases hpage : parsePage body with
    | none => rw [hpage] at h; cases h
    | some outcome =>
      rw [hpage] at h
      dsimp only at h
      split_ifs at h with hlast
      · cases h
        unfold dedupePurchased
        apply nodup_map_firstWins
      · exact ih h

/-- **No product id occurs twice in the purchased games.** -/
theorem nodup_purchasedGames {contract : SonyContract} {late : Bool}
    {pages : ℕ → Except AccountError Value} {entries : List PurchasedEntry}
    (h : purchasedGames contract late pages = .ok entries) :
    (entries.map PurchasedEntry.productId).Nodup :=
  nodup_crawlPages (within_eq_ok h)

/-- **No id occurs twice in the wishlist.** -/
theorem nodup_wishlistGames {contract : SonyContract} {late : Bool}
    {answer : Except AccountError Value} {entries : List WishlistEntry}
    (h : wishlistGames contract late answer = .ok entries) :
    (entries.map WishlistEntry.id).Nodup := by
  obtain ⟨body, -, h⟩ := bind_eq_ok (within_eq_ok h)
  split_ifs at h with hrotation
  unfold parseWishlist at h
  cases hitems : wishlistItems body with
  | none =>
    rw [hitems] at h
    dsimp only at h
    split_ifs at h
  | some items =>
    rw [hitems] at h
    cases h
    rw [Tally.entries_foldl]
    apply nodup_map_firstWins

end PsStore
