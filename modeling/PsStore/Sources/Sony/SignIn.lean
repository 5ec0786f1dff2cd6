import PsStore.Lib.FormUrlencoded
import PsStore.Lib.Recorded
import PsStore.Sources.Sony.Account

set_option relaxedAutoImplicit false
set_option autoImplicit false

/-!
# The calls of a signed-in request

The account client of `sources/sony/account.rs` and `account/session.rs` with the calls that it
makes: the authorize call and the token call of a sign-in, the library pages and the wishlist. No
call retries. What Sony does with a request is an `Exchange`, and a deadline is the number of the
calls that meet it. The JSON parser is a field of the client. The URLs and the other headers of the
requests are left out.

## Main definitions

* `SonyRequest`, `SonyCall` — a request to Sony, and what Sony did with it.
* `AccountClient` — the client, with Sony on the other side.
* `AccountClient.authorize`, `AccountClient.requestToken`, `AccountClient.exchange` — the sign-in.
* `AccountClient.page`, `AccountClient.purchased`, `AccountClient.wishlist` — the signed-in lists.

## Main results

* `send_eq_verdict` — a call without retries answers the verdict on its one attempt.
* `AccountClient.crawl_result` — the crawl with its calls gives the result of the crawl of pages.
-/

namespace PsStore

open Json

/-! ## Requests -/

/-- A credential. -/
structure Secret where
  expose : String
deriving DecidableEq

/-- The contract with the parts that the sign-in reads. -/
structure AccountContract extends SonyContract where
  authRedirectUri : String
  authBasicHeader : String

/-- The variables of one library page. -/
structure PurchasedVariables where
  isActive : Bool
  platform : List String
  size : ℕ
  start : ℕ
  sortBy : String
  sortDirection : String
deriving DecidableEq

/-- The variables of a page, from its number. -/
def PurchasedVariables.page (page : ℕ) : PurchasedVariables where
  isActive := true
  platform := ["ps5"]
  size := purchasedPageSize
  start := page * purchasedPageSize
  sortBy := "ACTIVE_DATE"
  sortDirection := "desc"

/-- A request to Sony. -/
inductive SonyRequest where
  | authorize (npsso : Secret)
  | token (code : Secret)
  | purchased (accessToken : Secret) (page : PurchasedVariables)
  | wishlist (accessToken : Secret)
deriving DecidableEq

/-- The call whose failure is mapped. The calls differ in the statuses that prove a rejection of the
credential. -/
inductive Call where
  | authorize
  | token
  | purchased
  | wishlist
deriving DecidableEq

/-- The call of a request. -/
def SonyRequest.call : SonyRequest → Call
  | authorize _ => .authorize
  | token _ => .token
  | purchased _ _ => .purchased
  | wishlist _ => .wishlist

/-- A request and what Sony did with it. -/
structure SonyCall where
  request : SonyRequest
  exchange : Exchange

/-- The call when a deadline passes before its answer. -/
def SonyCall.cut (call : SonyCall) : SonyCall := { call with exchange := .timedOut }

/-- The account client, with Sony on the other side. -/
structure AccountClient where
  contract : AccountContract
  /-- The JSON parser. -/
  fromSlice : List UInt8 → Option Value
  /-- The text can be sent as a header value. -/
  isHeaderValue : String → Bool
  /-- What Sony does with a request. -/
  sony : SonyRequest → Exchange
  /-- The calls of a sign-in, of a library crawl, and of a wishlist that meet the deadline. -/
  exchangeInTime : ℕ
  purchasedInTime : ℕ
  wishlistInTime : ℕ

/-- The bytes of an ASCII text. -/
def asciiBytes (text : String) : List UInt8 := text.toList.map fun c => c.toNat.toUInt8

/-! ## Failures -/

/-- The message of a sign-in outage. -/
def signInUnavailable : String := "Sony sign-in unavailable"

/-- The message of an unexpected sign-in answer. -/
def signInUnexpected : String := "Sony sign-in answered unexpectedly"

/-- A rate limit, with the delay rounded up to whole seconds. -/
def rateLimited (retryAfter : Option ℕ) : AccountError :=
  .upstream (.rateLimited "Sony sign-in rate limited the request (HTTP 429)"
    (retryAfter.map fun delay =>
      delay / nanosPerSecond + if 0 < delay % nanosPerSecond then 1 else 0))

/-- A transport failure of a call. Only a 401 or 403 answer of the token call or a library call is a
rejection. Sony answers 400 for a persisted query that it does not whitelist. -/
def callFailed (contract : AccountContract) (call : Call) : TransportError → AccountError
  | .rateLimited retryAfter => rateLimited retryAfter
  | .status code =>
    if code = 400 ∧ call = .wishlist then queryRotated contract.wishlistOperation
    else if (code = 401 ∨ code = 403) ∧ call ≠ .authorize then rejected
    else unavailable signInUnavailable
  | .failed => unavailable signInUnavailable

/-! ## The credential steps -/

/-- The text before the first `separator` and the text after it. -/
def splitOnce (separator : Char) (text : List Char) : Option (List Char × List Char) :=
  match text.dropWhile (· ≠ separator) with
  | [] => none
  | _ :: rest => some (text.takeWhile (· ≠ separator), rest)

/-- The text before the separator is cut off where it has no separator. -/
lemma splitOnce_append {separator : Char} {before : List Char} (h : separator ∉ before)
    (after : List Char) :
    splitOnce separator (before ++ separator :: after) = some (before, after) := by
  have hbefore : ∀ c ∈ before, decide (c ≠ separator) = true := by
    intro c hc
    rw [decide_eq_true_eq]
    rintro rfl
    exact h hc
  unfold splitOnce
  rw [List.dropWhile_append_of_pos hbefore, List.dropWhile_cons_of_neg (by simp),
    List.takeWhile_append_of_pos hbefore, List.takeWhile_cons_of_neg (by simp), List.append_nil]

/-- A text that is cut at a separator is the two parts with the separator between them. -/
lemma eq_of_splitOnce {separator : Char} {text before after : List Char}
    (h : splitOnce separator text = some (before, after)) :
    text = before ++ separator :: after ∧ separator ∉ before := by
  unfold splitOnce at h
  split at h
  · cases h
  · rename_i c rest hdrop
    obtain ⟨rfl, rfl⟩ := Prod.mk.inj (Option.some.inj h)
    have hhead := List.head?_dropWhile_not (· ≠ separator) text
    rw [hdrop, List.head?_cons] at hhead
    have hc : c = separator := by simpa using hhead
    constructor
    · subst hc
      rw [← hdrop, List.takeWhile_append_dropWhile]
    · intro hmem
      have hne := List.mem_takeWhile_imp hmem
      simp at hne

/-- `form_urlencoded::parse` of a text. -/
def parseUrlQuery (query : List Char) : List (String × String) :=
  FormUrlencoded.parse (toUtf8 query)

/-- The one-time code of the authorize redirect, or `none` when the location is absent, points to
another target, or has no code. -/
def accessCode (parseQuery : List Char → List (String × String)) (location : Option (List Char))
    (redirectUri : String) : Option Secret := do
  let location ← location
  if redirectUri.toList <+: location then
    let (_, query) ← splitOnce '?' location
    -- one more leading question mark is dropped
    let query := if query.head? = some '?' then query.tail else query
    let (_, code) ← (parseQuery query).find? fun pair => pair.1 == "code"
    if code = "" then none else some { expose := code }
  else none

/-- The access token of the token answer. `expires_in` is absent or a number. -/
def accessToken (body : Value) : Option Secret := do
  let fields ← body.asObject
  match fields.get "expires_in" with
  | none | some (.number _) =>
    match fields.get "access_token" with
    | some (.string token) => if token = "" then none else some { expose := token }
    | _ => none
  | some _ => none

/-- The `Location` header of an answer as text. -/
def location (answer : Answer) : Option (List Char) :=
  (answer.headers.lookup "location").bind headerText

/-! ## The calls -/

/-- One attempt with a deadline of six seconds. -/
def accountAttempts : Attempts where
  timeout := 6 * nanosPerSecond
  retries := 0
  retryAfterMax := 6 * nanosPerSecond

/-- **A call without retries answers the verdict on its one attempt.** -/
theorem send_eq_verdict (exchange : ℕ → Exchange) {fuel : ℕ} (hfuel : 2 ≤ fuel) :
    (send accountAttempts .manual exchange fuel).result =
      some (verdict accountAttempts .manual (exchange 0)) := by
  have hretries : accountAttempts.retries.toNat < 2 ^ 32 - 1 := by decide
  unfold send
  rw [sendRetrying_eq exchange hretries hfuel]
  rfl

namespace AccountClient

variable (client : AccountClient)

/-- One request. -/
def send (request : SonyRequest) : Recorded SonyCall AccountError Answer :=
  .call { request, exchange := client.sony request } <|
    match verdict accountAttempts .manual (client.sony request) with
    | .ok answer => .ok answer
    | .error error => .error (callFailed client.contract request.call error)

/-- The JSON body of a 2xx answer. A 3xx answer and a body that is not JSON are outages. -/
def jsonBody (answer : Answer) : Except AccountError Value :=
  if 200 ≤ answer.status ∧ answer.status < 300 then
    match client.fromSlice answer.body with
    | some body => .ok body
    | none => .error (unavailable signInUnavailable)
  else .error (unavailable signInUnavailable)

/-- The one-time code of the authorize redirect. A 302 answer without a code is the definitive
rejection of the NPSSO. -/
def authorize (npsso : Secret) : Recorded SonyCall AccountError Secret :=
  if client.isHeaderValue ("npsso=" ++ npsso.expose) then do
    let answer ← client.send (.authorize npsso)
    if answer.status ≠ 302 then .fail (unavailable signInUnexpected)
    else
      match accessCode parseUrlQuery (location answer) client.contract.authRedirectUri with
      | some code => pure code
      | none => .fail rejected
  else .fail (unavailable signInUnavailable)

/-- The access token for the one-time code. -/
def requestToken (code : Secret) : Recorded SonyCall AccountError Secret :=
  if client.isHeaderValue client.contract.authBasicHeader then do
    let answer ← client.send (.token code)
    let body ← .lift (client.jsonBody answer)
    match accessToken body with
    | some token => pure token
    | none => .fail (unavailable signInUnexpected)
  else .fail (unavailable signInUnavailable)

/-- The sign-in exchange, within its deadline. -/
def exchange (npsso : Secret) : Recorded SonyCall AccountError Secret :=
  .upTo client.exchangeInTime SonyCall.cut (unavailable "Sony sign-in timed out") do
    let code ← client.authorize npsso
    client.requestToken code

/-- One persisted query with the access token. -/
def graphql (request : SonyRequest) : Recorded SonyCall AccountError Value := do
  let answer ← client.send request
  .lift (client.jsonBody answer)

/-- What the crawl reads from the body of a page. -/
def readPage (body : Value) : Except AccountError PurchasedPage :=
  if isPersistedQueryRotation body then .error (queryRotated client.contract.purchasedOperation)
  else
    match parsePage body with
    | none => .error (unavailable "Sony library list has an unexpected shape")
    | some outcome => .ok outcome

/-- One library page. -/
def page (accessToken : Secret) (page : ℕ) : Recorded SonyCall AccountError PurchasedPage := do
  let body ← client.graphql (.purchased accessToken (.page page))
  .lift (client.readPage body)

/-- The crawl from a page on, with `left` pages allowed. A full page is counted before the scope
filter. -/
def crawl (accessToken : Secret) : ℕ → ℕ → List PurchasedEntry →
    Recorded SonyCall AccountError (List PurchasedEntry)
  | 0, _, _ => .fail (unavailable "Sony library list exceeds the supported size")
  | left + 1, page, collected => do
    let outcome ← client.page accessToken page
    let collected := collected ++ outcome.entries
    if outcome.rawCount < purchasedPageSize then pure (dedupePurchased collected)
    else crawl accessToken left (page + 1) collected

/-- The purchased games, within the deadline of the crawl. -/
def purchased (accessToken : Secret) : Recorded SonyCall AccountError (List PurchasedEntry) :=
  .upTo client.purchasedInTime SonyCall.cut (unavailable "Sony library list timed out")
    (client.crawl accessToken purchasedMaxPages 0 [])

/-- What the wishlist call reads from its body. -/
def readWishlist (body : Value) : Except AccountError (List WishlistEntry) :=
  if isPersistedQueryRotation body then .error (queryRotated client.contract.wishlistOperation)
  else
    match parseWishlist body with
    | .denied => .error rejected
    | .drift => .error (unavailable "Sony wishlist has an unexpected shape")
    | .listed entries _ _ => .ok entries

/-- The wishlist in one request, within its deadline. -/
def wishlist (accessToken : Secret) : Recorded SonyCall AccountError (List WishlistEntry) :=
  .upTo client.wishlistInTime SonyCall.cut (unavailable "Sony wishlist timed out") do
    let body ← client.graphql (.wishlist accessToken)
    .lift (client.readWishlist body)

/-! ## Answers -/

variable {client}

/-- A request is answered where Sony answers it with a 2xx or 3xx status. -/
lemma send_eq_ok_iff {request : SonyRequest} {answer : Answer} :
    (client.send request).result = .ok answer ↔
      readResponse (client.sony request) = some answer ∧ IsSuccess .manual answer.status := by
  rw [← @verdict_eq_ok_iff accountAttempts]
  unfold send
  rw [Recorded.call_result]
  cases verdict accountAttempts .manual (client.sony request) with
  | ok answer' => simp
  | error e => simp

/-- The body of a 2xx answer that is JSON. -/
lemma jsonBody_eq_ok_iff {answer : Answer} {body : Value} :
    client.jsonBody answer = .ok body ↔
      (200 ≤ answer.status ∧ answer.status < 300) ∧ client.fromSlice answer.body = some body := by
  unfold jsonBody
  split_ifs with hstatus
  · cases client.fromSlice answer.body with
    | none => simp
    | some body' => simp [hstatus]
  · simp [hstatus]

/-- A query is answered where Sony answers it with a 2xx status and a JSON body. -/
lemma graphql_eq_ok_iff {request : SonyRequest} {body : Value} :
    (client.graphql request).result = .ok body ↔
      ∃ answer, readResponse (client.sony request) = some answer ∧
        (200 ≤ answer.status ∧ answer.status < 300) ∧
          client.fromSlice answer.body = some body := by
  unfold graphql
  rw [Recorded.bind_result, bind_eq_ok_iff]
  constructor
  · intro h
    obtain ⟨answer, hanswer, hbody⟩ := h
    exact ⟨answer, (send_eq_ok_iff.mp hanswer).1, jsonBody_eq_ok_iff.mp hbody⟩
  · intro h
    obtain ⟨answer, hread, hstatus, hbody⟩ := h
    exact ⟨answer, send_eq_ok_iff.mpr ⟨hread, Or.inl hstatus⟩,
      jsonBody_eq_ok_iff.mpr ⟨hstatus, hbody⟩⟩

/-- A query makes its one call. -/
lemma graphql_calls (request : SonyRequest) :
    (client.graphql request).calls = [{ request, exchange := client.sony request }] := by
  unfold graphql
  rw [Recorded.bind_lift_calls]
  rfl

variable (client)

/-! ## The lists without their calls -/

/-- **The crawl with its calls gives the result of the crawl of pages.**

**Proof sketch.** By induction on the pages that are left. Both crawls make the same request, fail
alike where it fails, where it reads as a rotation and where the page does not parse, and go on with
the same entries. -/
theorem crawl_result (accessToken : Secret) (left page : ℕ) (collected : List PurchasedEntry) :
    (client.crawl accessToken left page collected).result =
      crawlPages client.contract.toSonyContract
        (fun p => (client.graphql (.purchased accessToken (.page p))).result)
        left page collected := by
  induction left generalizing page collected with
  | zero => rfl
  | succ left ih =>
    rw [crawl, crawlPages, Recorded.bind_result, AccountClient.page, Recorded.bind_result]
    cases (client.graphql (.purchased accessToken (.page page))).result with
    | error e => rfl
    | ok body =>
      show (client.readPage body >>= _) = ite _ _ _
      unfold readPage
      by_cases hrotation : isPersistedQueryRotation body = true
      · rw [if_pos hrotation, if_pos hrotation]
        rfl
      · rw [if_neg hrotation, if_neg hrotation]
        cases hpage : parsePage body with
        | none => rfl
        | some outcome =>
          show Recorded.result (ite _ _ _) = ite _ _ _
          split_ifs with hlast
          · rfl
          · exact ih (page + 1) (collected ++ outcome.entries)

end AccountClient

end PsStore
