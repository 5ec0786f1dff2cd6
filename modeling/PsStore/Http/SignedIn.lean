import PsStore.Application.Account
import PsStore.Http.Session
import PsStore.Sources.Sony.AccessCode
import PsStore.Sources.Sony.Rejections

set_option relaxedAutoImplicit false
set_option autoImplicit false

/-!
# The signed-in routes

The purchased and the wishlist route of `http/games.rs` over the requests of
`application/account.rs`, with the calls to Sony that each request makes. A request that shares the
exchange of another one has that exchange's calls.

## Main definitions

* `AccountClient.purchasedRequest`, `AccountClient.wishlistRequest` — the signed-in requests.
* `signedIn` — the handler of both routes.

## Main results

* `AccountClient.follows_purchasedRequest`, `AccountClient.follows_wishlistRequest` — a request
  fails with a rejection exactly where one of its calls denies.
* `signedIn_rejections` — when a route answers 401, and when it clears the cookie.
-/

namespace PsStore

open Json

namespace AccountClient

variable (client : AccountClient)

/-- The purchased games: a sign-in and the library. -/
def purchasedRequest (npsso : Secret) : Recorded SonyCall AccountError PageResult := do
  let accessToken ← client.exchange npsso
  let entries ← client.purchased accessToken
  pure (wholePage (purchasedCards entries))

/-- The wishlist: a sign-in, the list, and the store lookups of its entries. -/
def wishlistRequest (store : Enrichment) (npsso : Secret) :
    Recorded SonyCall AccountError PageResult := do
  let accessToken ← client.exchange npsso
  let entries ← client.wishlist accessToken
  pure (wholePage (store.cards entries))

variable {client}

/-- **The purchased games agree with the calls of the request.** -/
theorem follows_purchasedRequest (npsso : Secret) :
    (client.purchasedRequest npsso).Follows client.judgement := by
  apply (follows_exchange npsso).bind
  intro accessToken _
  apply (follows_purchased accessToken).bind
  intro entries _
  exact Recorded.Follows.pure _

/-- **The wishlist agrees with the calls of the request.** -/
theorem follows_wishlistRequest (store : Enrichment) (npsso : Secret) :
    (client.wishlistRequest store npsso).Follows client.judgement := by
  apply (follows_exchange npsso).bind
  intro accessToken _
  apply (follows_wishlist accessToken).bind
  intro entries _
  exact Recorded.Follows.pure _

end AccountClient

/-! ## The routes -/

/-- The signed-in lists. -/
inductive SignedInList where
  | purchased
  | wishlist
deriving DecidableEq

/-- The answer of a signed-in route, with the calls that the request made to Sony. -/
structure SignedInReply where
  calls : List SonyCall
  response : Response PageResult

/-- The answer of a request that Sony was asked for. -/
def signedInReply (outcome : Recorded SonyCall AccountError PageResult) : SignedInReply where
  calls := outcome.calls
  response := expireCookieOnRejection <|
    match outcome.result with
    | .ok page => .json page
    | .error error => (Problem.ofAccountError error).intoResponse

/-- A signed-in list. Without a usable cookie the route answers 401 before any Sony call. -/
def signedIn (client : AccountClient) (store : Enrichment) (cookies : List (List UInt8))
    (list : SignedInList) : SignedInReply :=
  match npssoFromCookie cookies with
  | none =>
    { calls := []
      response := (Problem.ofAccountError (.sessionRejected "Not signed in")).intoResponse }
  | some npsso =>
    match list with
    | .purchased => signedInReply (client.purchasedRequest npsso)
    | .wishlist => signedInReply (client.wishlistRequest store npsso)

/-- A request that succeeds answers 200 and keeps the cookie. -/
lemma signedInReply_of_ok {outcome : Recorded SonyCall AccountError PageResult}
    {page : PageResult} (h : outcome.result = .ok page) :
    (signedInReply outcome).response = .json page := by
  unfold signedInReply expireCookieOnRejection
  rw [h]
  rfl

/-- A rejection answers 401 and clears the cookie. -/
lemma signedInReply_of_rejection {outcome : Recorded SonyCall AccountError PageResult}
    {e : AccountError} (h : outcome.result = .error e) (he : e.IsRejection) :
    (signedInReply outcome).response.status = 401 ∧
      (signedInReply outcome).response.setCookie = [expiredCookie] := by
  cases e with
  | upstream error => exact absurd he id
  | sessionRejected message =>
    unfold signedInReply expireCookieOnRejection
    rw [h]
    exact ⟨rfl, rfl⟩

/-- Another failure answers 502 or 503 and keeps the cookie. -/
lemma signedInReply_of_upstream {outcome : Recorded SonyCall AccountError PageResult}
    {e : AccountError} (h : outcome.result = .error e) (he : ¬e.IsRejection) :
    ((signedInReply outcome).response.status = 502 ∨
      (signedInReply outcome).response.status = 503) ∧
      (signedInReply outcome).response.setCookie = [] := by
  cases e with
  | sessionRejected message => exact absurd trivial he
  | upstream error =>
    have hresponse : (signedInReply outcome).response =
        (Problem.ofUpstreamError error).intoResponse := by
      unfold signedInReply expireCookieOnRejection
      rw [h]
      have hne : (Problem.ofUpstreamError error).code.status ≠ 401 := by
        rcases Problem.ofUpstreamError_status error with hstatus | hstatus <;> omega
      exact if_neg hne
    rw [hresponse]
    exact ⟨Problem.ofUpstreamError_status error, rfl⟩

/-- What a request answers that Sony was asked for: a cleared cookie where a call denies, and
otherwise no 401. -/
lemma signedInReply_cases {client : AccountClient}
    {outcome : Recorded SonyCall AccountError PageResult}
    (hfollows : outcome.Follows client.judgement) :
    ((∃ call ∈ outcome.calls, client.Denies call) ∧
      (signedInReply outcome).response.status = 401 ∧
        (signedInReply outcome).response.setCookie = [expiredCookie]) ∨
    ((¬∃ call ∈ outcome.calls, client.Denies call) ∧
      (signedInReply outcome).response.status ≠ 401 ∧
        (signedInReply outcome).response.setCookie = []) := by
  by_cases hdenies : ∃ call ∈ outcome.calls, client.Denies call
  · obtain ⟨e, he, hrejection⟩ := hfollows.denial_iff.mpr hdenies
    exact Or.inl ⟨hdenies, signedInReply_of_rejection he hrejection⟩
  · refine Or.inr ⟨hdenies, ?_⟩
    cases hresult : outcome.result with
    | ok page =>
      rw [signedInReply_of_ok hresult]
      exact ⟨nofun, rfl⟩
    | error e =>
      have hrejection : ¬e.IsRejection :=
        fun h => hdenies (hfollows.denial_iff.mp ⟨e, hresult, h⟩)
      obtain ⟨hstatus, hcookie⟩ := signedInReply_of_upstream hresult hrejection
      refine ⟨?_, hcookie⟩
      omega

/-- A signed-in request with a cookie is one of the two requests. -/
lemma exists_follows_of_cookie {client : AccountClient} {store : Enrichment}
    {cookies : List (List UInt8)} {npsso : Secret} (h : npssoFromCookie cookies = some npsso)
    (list : SignedInList) :
    ∃ outcome, signedIn client store cookies list = signedInReply outcome ∧
      outcome.Follows client.judgement := by
  unfold signedIn
  rw [h]
  cases list with
  | purchased => exact ⟨_, rfl, AccountClient.follows_purchasedRequest npsso⟩
  | wishlist => exact ⟨_, rfl, AccountClient.follows_wishlistRequest store npsso⟩

/-- What a signed-in route answers, by the judgement of the client on its calls and by the cookie
that it reads. -/
lemma signedIn_answers (client : AccountClient) (store : Enrichment)
    (cookies : List (List UInt8)) (list : SignedInList) :
    let reply := signedIn client store cookies list
    (reply.response.status = 401 ∧ reply.response.setCookie = [expiredCookie] ↔
      ∃ call ∈ reply.calls, client.Denies call) ∧
    (reply.response.status = 401 ∧ reply.response.setCookie = [] ↔
      npssoFromCookie cookies = none) ∧
    (npssoFromCookie cookies = none → reply.calls = []) ∧
    ∀ call ∈ reply.calls, client.Outage call →
      (reply.response.status = 502 ∨ reply.response.status = 503) ∧
        reply.response.setCookie = [] := by
  intro reply
  cases hcookie : npssoFromCookie cookies with
  | none =>
    have hreply : reply = {
        calls := []
        response := (Problem.new .sessionRejected).intoResponse } := by
      show signedIn client store cookies list = _
      unfold signedIn
      rw [hcookie]
      rfl
    rw [hreply]
    refine ⟨?_, ?_, fun _ => rfl, nofun⟩
    · constructor
      · intro h
        obtain ⟨-, ⟨⟩⟩ := h
      · intro h
        obtain ⟨call, ⟨⟩, -⟩ := h
    · exact iff_of_true ⟨rfl, rfl⟩ rfl
  | some npsso =>
    obtain ⟨outcome, hreply, hfollows⟩ := @exists_follows_of_cookie client store _ _ hcookie list
    have hreply : reply = signedInReply outcome := hreply
    have hcalls : reply.calls = outcome.calls := by rw [hreply]; rfl
    rw [hcalls, hreply]
    refine ⟨?_, ?_, nofun, ?_⟩
    · rcases signedInReply_cases hfollows with ⟨hdenies, h401, hcleared⟩ | ⟨hnone, h401, hkept⟩
      · exact iff_of_true ⟨h401, hcleared⟩ hdenies
      · exact iff_of_false (fun h => h401 h.1) hnone
    · rcases signedInReply_cases hfollows with ⟨hdenies, h401, hcleared⟩ | ⟨hnone, h401, hkept⟩
      · rw [hcleared]
        simp
      · exact iff_of_false (fun h => h401 h.1) nofun
    · intro call hcall houtage
      obtain ⟨haccepts, hdenies⟩ := houtage.not_accepts_or_denies
      obtain ⟨e, he, hrejection⟩ := hfollows.outage hcall haccepts hdenies
      exact signedInReply_of_upstream he hrejection

/-! ## The rejections in the terms of HTTP -/

namespace AccountClient

variable (client : AccountClient)

/-- The bytes of a header as characters of their codes. -/
def latinText (bytes : List UInt8) : List Char := bytes.map fun b => Char.ofNat b.toNat

/-- The answer redirects to the registered target with a code. -/
def RedirectsWithCode (answer : Answer) : Prop :=
  ∃ bytes, answer.headers.lookup "location" = some bytes ∧
    GivesCode client.contract.authRedirectUri (latinText bytes)

/-- The `Location` of an authorize redirect does not reach what the prefix test and the search for
the question mark get wrong: no code behind a target that is continued by another character, none in
the fragment, and none in a header with bytes that are no visible ASCII. -/
def PlainRedirect (call : SonyCall) : Prop :=
  call.request.call = .authorize → ∀ answer ∈ readResponse call.exchange,
    ∀ bytes, answer.headers.lookup "location" = some bytes →
      if bytes.all isVisibleAscii then
        ¬ ForeignCode client.contract.authRedirectUri (latinText bytes) ∧
          ¬ FragmentCode client.contract.authRedirectUri (latinText bytes)
      else ¬ GivesCode client.contract.authRedirectUri (latinText bytes)

/-- The answer of a call rejects the session: an authorize redirect without a code to the registered
target, a token call, a library page or a wishlist with status 401 or 403, or a 2xx wishlist with a
`null` list, an "access denied" and no rotation. -/
def RejectsSession (call : SonyCall) : Prop :=
  ∃ answer ∈ readResponse call.exchange,
    match call.request with
    | .authorize _ => answer.status = 302 ∧ ¬ client.RedirectsWithCode answer
    | .token _ | .purchased _ _ => IsForbidden answer.status
    | .wishlist _ => IsForbidden answer.status ∨ IsOk answer.status ∧ ∃ body,
        client.fromSlice answer.body = some body ∧ isPersistedQueryRotation body = false ∧
          isAccessDenied body = true

variable {client}

/-- The code of a plain redirect is the one in the query of the registered target. -/
lemma codeOf_eq_none_iff {npsso : Secret} {exchange : Exchange} {answer : Answer}
    (hread : readResponse exchange = some answer)
    (hplain : client.PlainRedirect { request := .authorize npsso, exchange }) :
    client.codeOf answer = none ↔ ¬ client.RedirectsWithCode answer := by
  have hplain := hplain rfl answer hread
  rw [← not_iff_not, not_not, ← ne_eq, Option.ne_none_iff_exists']
  unfold codeOf location RedirectsWithCode
  cases hlocation : answer.headers.lookup "location" with
  | none => simp [accessCode]
  | some bytes =>
    have hplain := hplain bytes hlocation
    rw [Option.bind_some]
    by_cases hvisible : bytes.all isVisibleAscii = true
    · rw [if_pos hvisible] at hplain
      have htext : headerText bytes = some (latinText bytes) := if_pos hvisible
      rw [htext, accessCode_isSome_iff_givesCode hplain.1 hplain.2]
      simp
    · rw [if_neg hvisible] at hplain
      have htext : headerText bytes = none := if_neg hvisible
      rw [htext]
      simp [accessCode, hplain]

/-- **A call that rejects the session** is one that the client takes for a denial. -/
lemma denies_iff_rejectsSession {call : SonyCall} (hplain : client.PlainRedirect call) :
    client.Denies call ↔ client.RejectsSession call := by
  obtain ⟨request, exchange⟩ := call
  unfold Denies RejectsSession
  apply exists_congr
  intro answer
  apply and_congr_right
  intro hread
  cases request with
  | authorize npsso =>
    unfold IsDenial
    rw [codeOf_eq_none_iff hread hplain]
  | token code => rfl
  | purchased accessToken page => rfl
  | wishlist accessToken => rfl

end AccountClient

/-- **When a signed-in route answers 401.** Whatever Sony does with each call, and whichever
deadlines pass:

* where every redirect is plain, the route answers 401 and clears the cookie exactly where a call
  that it made rejects the session: an authorize redirect without a code to the registered target,
  a token call, library page or wishlist with status 401 or 403, or a 2xx wishlist with a `null`
  list, an "access denied" and no rotation;
* where no header with other bytes than visible ASCII holds a session cookie, it answers 401 and
  keeps the cookie exactly where the request carries no session cookie, and then it makes no call;
* every other timeout, status, body, rotation or drift answers 502 or 503 and keeps the cookie.

**Proof sketch.** The calls of a request agree with its result, call by call: an accepted call goes
on, a denial ends the request with the rejection, and an outage ends it with another failure
(`AccountClient.follows_purchasedRequest`, `AccountClient.follows_wishlistRequest`). So the result
is a rejection exactly where a call denies, and the handler clears the cookie of a rejection only.
The code of a plain redirect is the one of its URL (`accessCode_isSome_iff_givesCode`). -/
theorem signedIn_rejections (client : AccountClient) (store : Enrichment)
    (cookies : List (List UInt8)) (list : SignedInList) :
    let reply := signedIn client store cookies list
    ((∀ call ∈ reply.calls, client.PlainRedirect call) →
      (reply.response.status = 401 ∧ reply.response.setCookie = [expiredCookie] ↔
        ∃ call ∈ reply.calls, client.RejectsSession call)) ∧
    (PlainSession cookies →
      (reply.response.status = 401 ∧ reply.response.setCookie = [] ↔ ¬ CarriesSession cookies) ∧
      (¬ CarriesSession cookies → reply.calls = [])) ∧
    ∀ call ∈ reply.calls, client.Outage call →
      (reply.response.status = 502 ∨ reply.response.status = 503) ∧
        reply.response.setCookie = [] := by
  intro reply
  obtain ⟨hcleared, hkept, hcalls, houtage⟩ := signedIn_answers client store cookies list
  refine ⟨?_, ?_, houtage⟩
  · intro hplain
    rw [hcleared]
    constructor
    · rintro ⟨call, hcall, hdenies⟩
      exact ⟨call, hcall, (AccountClient.denies_iff_rejectsSession (hplain call hcall)).mp hdenies⟩
    · rintro ⟨call, hcall, hrejects⟩
      have hdenies := (AccountClient.denies_iff_rejectsSession (hplain call hcall)).mpr hrejects
      exact ⟨call, hcall, hdenies⟩
  · intro hplain
    have hnone : npssoFromCookie cookies = none ↔ ¬ CarriesSession cookies := by
      rw [← npssoFromCookie_isSome_iff hplain, Option.not_isSome_iff_eq_none]
    rw [← hnone]
    exact ⟨hkept, hcalls⟩

/-- The text of a token answer. -/
def tokenText : List UInt8 := asciiBytes "\x7b\"access_token\":\"t\"\x7d"

/-- The text of a denied wishlist. -/
def deniedText : List UInt8 := asciiBytes <|
  "\x7b\"errors\":[\x7b\"message\":\"Access denied\"\x7d]," ++
    "\"data\":\x7b\"storeWishlistSecure\":null\x7d\x7d"

/-- A Sony that accepts the sign-in and denies the wishlist with status 201. -/
def createdSony : SonyRequest → Exchange
  | .authorize _ => .response 302
      [("location", asciiBytes "com.scee.psxandroid.scecompcall://redirect/?code=v3")] []
  | .token _ => .response 200 [] [some tokenText]
  | _ => .response 201 [] [some deniedText]

/-- A client in front of that Sony. -/
def createdClient : AccountClient :=
  .sample [
    (tokenText, .object [("access_token", .string "t")]),
    (deniedText, .object [
      ("errors", .array [.object [("message", .string "Access denied")]]),
      ("data", .object [("storeWishlistSecure", .null)])])]
    createdSony

/-- A store that no wishlist entry is looked up in. -/
def noLookups : Enrichment where
  found := fun _ _ => none
  completion := fun _ => 0
  inTime := true

/-- A denied wishlist clears the cookie with the status 201, too: the redirect carries a code, and
no call answers 401, 403, or a wishlist with status 200. -/
theorem signedIn_clears_on_created :
    let reply := signedIn createdClient noLookups [asciiBytes "npsso=synthetic"] .wishlist
    reply.response.status = 401 ∧ reply.response.setCookie = [expiredCookie] ∧
    (reply.calls.map fun call => (call.request.call, (readResponse call.exchange).map fun answer =>
      (answer.status, (createdClient.codeOf answer).isSome))) =
      [(.authorize, some (302, true)), (.token, some (200, false)),
        (.wishlist, some (201, false))] := by
  decide +kernel

end PsStore
