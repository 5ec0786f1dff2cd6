import PsStore.Sources.Sony.GraphqlErrors
import PsStore.Sources.Sony.Monthly
import PsStore.Sources.Sony.Product
import PsStore.Sources.Sony.Search
import PsStore.Sources.Transport

set_option relaxedAutoImplicit false
set_option autoImplicit false

/-!
# The anonymous store client

The requests of `sources/sony/catalog.rs`. Each sends one request within the retry budget, detects a
rotated query and a failure of Sony's backend, and decodes the answer at the boundary. The JSON
parser is a parameter; the request texts and the log lines are left out.

## Main definitions

* `upstreamError` — a transport failure as a typed error.
* `graphql`, `monthlyFeed` — one persisted query, and one request of the monthly feed.
* `graphqlChecked` — the answer of a query when it reports no error.
* `fetchConcepts`, `fetchProductDetail`, `fetchSearchPage`, `fetchBrowsePage`, `fetchPlusMonthly` —
  what the client makes of an answer.

## Main results

* `graphql_ends`, `monthlyFeed_ends` — a call ends after at most two requests, and a rate limit
  reports at most six seconds.
* `graphqlChecked_eq_ok_iff` — which answers are accepted.
-/

namespace PsStore

open Json

/-- The operation names of the Sony contract. -/
structure SonyContract where
  categoryGridOperation : String
  productOperation : String
  searchOperation : String
  purchasedOperation : String
  wishlistOperation : String

/-! ## One query -/

/-- The deadline of one Sony request attempt, 6000 ms. -/
def sonyTimeout : ℕ := 6000 * 10 ^ 6

/-- Additional attempts after the first one. -/
def sonyRetryCount : UInt32 := 1

/-- The longest `Retry-After` delay before the retry: the attempt deadline. -/
def sonyRetryAfterMax : ℕ := sonyTimeout

/-- The retry budget of the client. -/
def sonyAttempts : Attempts where
  timeout := sonyTimeout
  retries := sonyRetryCount
  retryAfterMax := sonyRetryAfterMax

/-- A delay in whole seconds, rounded up from its milliseconds, as a `u64`. -/
def retryAfterSeconds (delay : ℕ) : ℕ := min ((delay / 10 ^ 6 + 999) / 1000) (2 ^ 64 - 1)

/-- A transport failure as a typed error with a fixed message. -/
def upstreamError : TransportError → UpstreamError
  | .rateLimited retryAfter =>
    .rateLimited "Sony upstream rate limited the request (HTTP 429)"
      (retryAfter.map retryAfterSeconds)
  | .status code => .unavailable ("Sony upstream returned " ++ toString code)
  | .failed => .unavailable "Sony upstream unavailable"

/-- The bytes of the key of an error report. -/
def errorsKey : List UInt8 := "\"errors\"".toList.map fun c => c.toNat.toUInt8

/-- True when an HTTP 2xx body reports a Sony server error. Only a body with an `errors` key is
parsed. -/
def reportsServerError (fromSlice : List UInt8 → Option Value) (body : List UInt8) : Bool :=
  decide (errorsKey <:+: body) && (fromSlice body).any isGraphqlServerError

/-- The body as JSON. A body that is not JSON is an outage. -/
def jsonBody (fromSlice : List UInt8 → Option Value) (body : List UInt8) :
    Except UpstreamError Value :=
  match fromSlice body with
  | some json => .ok json
  | none => .error (.unavailable "Sony upstream returned a body that is not JSON")

/-- What a call answers for the result of its retry loop. -/
def jsonResult (fromSlice : List UInt8 → Option Value) :
    Except TransportError Answer → Except UpstreamError Value
  | .error error => .error (upstreamError error)
  | .ok answer => jsonBody fromSlice answer.body

/-- One persisted query, or `none` where the retry loop has not ended after `fuel` passes. -/
def graphql (fromSlice : List UInt8 → Option Value) (exchange : ℕ → Exchange) (fuel : ℕ) :
    Option (Except UpstreamError Value) :=
  (sendRetrying sonyAttempts .follow (fun answer => reportsServerError fromSlice answer.body)
    exchange fuel).result.map (jsonResult fromSlice)

/-- One request of the monthly feed, outside the GraphQL contract. -/
def monthlyFeed (fromSlice : List UInt8 → Option Value) (exchange : ℕ → Exchange) (fuel : ℕ) :
    Option (Except UpstreamError Value) :=
  (send sonyAttempts .follow exchange fuel).result.map (jsonResult fromSlice)

/-- The message of a rotated query. -/
def rotatedMessage : String :=
  "Sony rejected the persisted query (hash rotated); re-run pnpm sony:refresh"

/-- The failure of a rotated query. -/
def rotated (operation : String) : UpstreamError := .queryRotated rotatedMessage operation

/-- A GraphQL answer that is not a rotation. A server error after the retry is an outage. -/
def graphqlChecked (operation : String) (answer : Except UpstreamError Value) :
    Except UpstreamError Value := do
  let json ← answer
  if isPersistedQueryRotation json then .error (rotated operation)
  else if isGraphqlServerError json then
    .error (.unavailable "Sony upstream reported a server error")
  else .ok json

/-- **Which answers are accepted**: those that report neither a rotation nor a server error. -/
theorem graphqlChecked_eq_ok_iff {operation : String} {answer : Except UpstreamError Value}
    {json : Value} :
    graphqlChecked operation answer = .ok json ↔
      answer = .ok json ∧ isPersistedQueryRotation json = false ∧
        isGraphqlServerError json = false := by
  constructor
  · intro h
    obtain ⟨json', hanswer, hchecked⟩ := bind_eq_ok h
    split_ifs at hchecked with hrotation hserver
    cases hchecked
    exact ⟨hanswer, by simpa using hrotation, by simpa using hserver⟩
  · intro h
    obtain ⟨rfl, hrotation, hserver⟩ := h
    show (if isPersistedQueryRotation json then _ else _) = _
    rw [if_neg (by simp [hrotation]), if_neg (by simp [hserver])]

/-- A rate limit reports the clamped delay of a 429 answer. -/
lemma jsonResult_rateLimited {fromSlice : List UInt8 → Option Value} {exchange : Exchange}
    {message : String} {seconds : ℕ}
    (h : jsonResult fromSlice (verdict sonyAttempts .follow exchange) =
      .error (.rateLimited message (some seconds))) : seconds ≤ 6 := by
  cases hverdict : verdict sonyAttempts .follow exchange with
  | ok answer =>
    rw [hverdict] at h
    simp only [jsonResult, jsonBody] at h
    split at h <;> cases h
  | error error =>
    rw [hverdict] at h
    cases error with
    | status code => cases h
    | failed => cases h
    | rateLimited retryAfter =>
      cases retryAfter with
      | none => cases h
      | some delay =>
        cases h
        obtain ⟨answer, -, -, hdelay⟩ := verdict_eq_rateLimited hverdict
        have hle : delay ≤ sonyRetryAfterMax := le_of_mem_parseRetryAfter hdelay.symm
        unfold retryAfterSeconds
        unfold sonyRetryAfterMax sonyTimeout at hle
        omega

/-- The call has ended after at most two requests with what the last one answers, and a rate limit
reports at most six seconds. -/
def EndsInTwo (fromSlice : List UInt8 → Option Value) (exchange : ℕ → Exchange)
    (answer : Option (Except UpstreamError Value)) : Prop :=
  (∃ d ≤ 1, answer = some (jsonResult fromSlice (verdict sonyAttempts .follow (exchange d)))) ∧
    ∀ message seconds, answer = some (.error (.rateLimited message (some seconds))) → seconds ≤ 6

/-- A call ends after at most two requests, whatever its callback flags. -/
lemma endsInTwo_of_call (fromSlice : List UInt8 → Option Value) (isFailure : Answer → Bool)
    (exchange : ℕ → Exchange) {fuel : ℕ} (hfuel : 3 ≤ fuel) :
    EndsInTwo fromSlice exchange ((sendRetrying sonyAttempts .follow isFailure exchange
      fuel).result.map (jsonResult fromSlice)) := by
  have hretries : sonyAttempts.retries.toNat < 2 ^ 32 - 1 := by decide
  rw [sendRetrying_eq exchange hretries hfuel]
  constructor
  · exact ⟨_, deciding_le 1 0, rfl⟩
  · intro message seconds h
    exact jsonResult_rateLimited (Option.some.inj h)

/-- **A query ends** after at most two requests, and a rate limit reports at most six seconds. -/
theorem graphql_ends (fromSlice : List UInt8 → Option Value) (exchange : ℕ → Exchange) {fuel : ℕ}
    (hfuel : 3 ≤ fuel) : EndsInTwo fromSlice exchange (graphql fromSlice exchange fuel) :=
  endsInTwo_of_call fromSlice _ exchange hfuel

/-- **The feed request ends** after at most two requests, too. -/
theorem monthlyFeed_ends (fromSlice : List UInt8 → Option Value) (exchange : ℕ → Exchange)
    {fuel : ℕ} (hfuel : 3 ≤ fuel) :
    EndsInTwo fromSlice exchange (monthlyFeed fromSlice exchange fuel) :=
  endsInTwo_of_call fromSlice _ exchange hfuel

/-! ## The requests -/

/-- The concepts of a grid. A corrupt or absent node fails, so drift never reads as a
legitimately empty grid. -/
def fetchConcepts (contract : SonyContract) (answer : Except UpstreamError Value) :
    Except UpstreamError (List Concept) := do
  match extractCategoryGrid (← graphqlChecked contract.categoryGridOperation answer) with
  | .drift => .error (.unavailable "Sony category grid has an unexpected shape")
  | .ok concepts _ => .ok concepts

/-- The product detail. -/
def fetchProductDetail (contract : SonyContract) (answer : Except UpstreamError Value) :
    Except UpstreamError ProductDetail := do
  return extractProductDetail (← graphqlChecked contract.productOperation answer)

/-- A search page. A broken search fails, so it stays distinct from "no results". -/
def fetchSearchPage (contract : SonyContract) (answer : Except UpstreamError Value) :
    Except UpstreamError SearchPage := do
  match parseSearchResponse (← graphqlChecked contract.searchOperation answer) with
  | .drift => .error (.unavailable "Sony search response has an unexpected shape")
  | .ok entries isLast dropped =>
    .ok {
      candidates := narrowSearchEntries entries
      isLast
      rawCount := entries.length + dropped }

/-- A BROWSE page of `size` concepts. -/
def fetchBrowsePage (contract : SonyContract) (size : ℕ) (answer : Except UpstreamError Value) :
    Except UpstreamError BrowsePage := do
  match extractBrowsePage (← graphqlChecked contract.categoryGridOperation answer) size with
  | .drift => .error (.unavailable "Sony browse grid has an unexpected shape")
  | .ok concepts isLast _ => .ok { concepts, isLast }

/-- The monthly feed, outside the GraphQL contract. -/
def fetchPlusMonthly (answer : Except UpstreamError Value) :
    Except UpstreamError (List PlusMonthlyEntry) := do
  match parsePlusMonthly (← answer) with
  | .drift => .error (.unavailable "PS Plus monthly list has an unexpected shape")
  | .ok entries _ _ => .ok entries

end PsStore
