import PsStore.Sources.Sony.PurchasedCrawl

set_option relaxedAutoImplicit false
set_option autoImplicit false

/-!
# Which answers reject a sign-in

Three calls in a row decide whether Sony rejected the credential of a signed-in request, and each
classifies its answer in its own way. Every call is accepted, denies the credential, or is an
outage, and the account client fails with a rejection exactly where a call that it made denies.

## Main definitions

* `AccountClient.Accepts`, `AccountClient.Denies`, `AccountClient.Outage` — what the answer of a
  call means.
* `AccountClient.judgement` — the judgement of the client.

## Main results

* `AccountClient.accepts_or_denies_or_outage` — no answer is left out.
* `AccountClient.follows_exchange`, `AccountClient.follows_purchased`,
  `AccountClient.follows_wishlist` — the calls of the client agree with its result.
-/

namespace PsStore

open Json

/-- A 2xx status. -/
def IsOk (status : ℕ) : Prop := 200 ≤ status ∧ status < 300
deriving Decidable

/-- The statuses that reject the credential of a call after the redirect. -/
def IsForbidden (status : ℕ) : Prop := status = 401 ∨ status = 403
deriving Decidable

/-- The error is a rejection of the sign-in. -/
def AccountError.IsRejection : AccountError → Prop
  | sessionRejected _ => True
  | upstream _ => False

namespace AccountClient

variable (client : AccountClient)

/-! ## What an answer means -/

/-- The code that an authorize answer redirects to the registered target with. -/
def codeOf (answer : Answer) : Option Secret :=
  accessCode parseUrlQuery (location answer) client.contract.authRedirectUri

/-- The answer of a call is what the call is for. -/
def IsGood (request : SonyRequest) (answer : Answer) : Prop :=
  match request with
  | .authorize _ => answer.status = 302 ∧ ∃ code, client.codeOf answer = some code
  | .token _ => IsOk answer.status ∧ ∃ body token, client.fromSlice answer.body = some body ∧
      accessToken body = some token
  | .purchased _ _ => IsOk answer.status ∧ ∃ body outcome,
      client.fromSlice answer.body = some body ∧ isPersistedQueryRotation body = false ∧
        parsePage body = some outcome
  | .wishlist _ => IsOk answer.status ∧ ∃ body entries dropped outOfScope,
      client.fromSlice answer.body = some body ∧ isPersistedQueryRotation body = false ∧
        parseWishlist body = .listed entries dropped outOfScope

/-- The answer of a call proves a rejection of the credential: a redirect without a code to the
registered target, a 401 or 403 of a later call, or a wishlist whose list is `null` next to an error
that says "access denied". -/
def IsDenial (request : SonyRequest) (answer : Answer) : Prop :=
  match request with
  | .authorize _ => answer.status = 302 ∧ client.codeOf answer = none
  | .token _ | .purchased _ _ => IsForbidden answer.status
  | .wishlist _ => IsForbidden answer.status ∨ IsOk answer.status ∧ ∃ body,
      client.fromSlice answer.body = some body ∧ isPersistedQueryRotation body = false ∧
        isAccessDenied body = true

/-- The call is accepted. -/
def Accepts (call : SonyCall) : Prop :=
  ∃ answer ∈ readResponse call.exchange, client.IsGood call.request answer

/-- The call denies the credential. -/
def Denies (call : SonyCall) : Prop :=
  ∃ answer ∈ readResponse call.exchange, client.IsDenial call.request answer

/-- The call is an outage. -/
inductive Outage : SonyCall → Prop
  /-- A timeout, a deadline that passes, or a transport error. -/
  | unanswered {call : SonyCall} (h : readResponse call.exchange = none) : Outage call
  /-- An authorize answer that is no 302. -/
  | notRedirected {npsso : Secret} {exchange : Exchange} {answer : Answer}
      (h : readResponse exchange = some answer) (hstatus : answer.status ≠ 302) :
      Outage { request := .authorize npsso, exchange }
  /-- A redirect, a 4xx other than 401 and 403, or a 5xx of a later call. -/
  | otherStatus {call : SonyCall} {answer : Answer} (h : readResponse call.exchange = some answer)
      (hcall : call.request.call ≠ .authorize) (hok : ¬IsOk answer.status)
      (hforbidden : ¬IsForbidden answer.status) : Outage call
  /-- A body that is not JSON. -/
  | notJson {call : SonyCall} {answer : Answer} (h : readResponse call.exchange = some answer)
      (hcall : call.request.call ≠ .authorize) (hok : IsOk answer.status)
      (hbody : client.fromSlice answer.body = none) : Outage call
  /-- A token answer without a token. -/
  | noToken {code : Secret} {exchange : Exchange} {answer : Answer} {body : Value}
      (h : readResponse exchange = some answer) (hok : IsOk answer.status)
      (hbody : client.fromSlice answer.body = some body) (hnone : accessToken body = none) :
      Outage { request := .token code, exchange }
  /-- A rotated persisted query. -/
  | rotated {call : SonyCall} {answer : Answer} {body : Value}
      (h : readResponse call.exchange = some answer)
      (hcall : call.request.call = .purchased ∨ call.request.call = .wishlist)
      (hok : IsOk answer.status) (hbody : client.fromSlice answer.body = some body)
      (hrotation : isPersistedQueryRotation body = true) : Outage call
  /-- A library page of another shape. -/
  | pageDrift {accessToken : Secret} {page : PurchasedVariables} {exchange : Exchange}
      {answer : Answer} {body : Value} (h : readResponse exchange = some answer)
      (hok : IsOk answer.status) (hbody : client.fromSlice answer.body = some body)
      (hdrift : parsePage body = none) :
      Outage { request := .purchased accessToken page, exchange }
  /-- A wishlist of another shape. -/
  | wishlistDrift {accessToken : Secret} {exchange : Exchange} {answer : Answer} {body : Value}
      (h : readResponse exchange = some answer) (hok : IsOk answer.status)
      (hbody : client.fromSlice answer.body = some body) (hdrift : parseWishlist body = .drift) :
      Outage { request := .wishlist accessToken, exchange }

/-! ## No answer is left out -/

/-- A wishlist is denied where the list is `null` next to an "access denied".

**Proof sketch.** The items are looked for first. Where the access is denied the list is `null`, so
there are none, and the denial is what is left. -/
lemma parseWishlist_eq_denied_iff {body : Value} :
    parseWishlist body = .denied ↔ isAccessDenied body = true := by
  unfold parseWishlist
  constructor
  · intro h
    cases hitems : wishlistItems body with
    | some items =>
      rw [hitems] at h
      cases h
    | none =>
      rw [hitems] at h
      dsimp only at h
      split_ifs at h with hdenied
      exact hdenied
  · intro hdenied
    have hitems : wishlistItems body = none := by
      unfold isAccessDenied at hdenied
      unfold wishlistItems
      cases hroot : body.asObject with
      | none => rfl
      | some root =>
        rw [hroot] at hdenied
        dsimp only at hdenied
        split at hdenied
        · rename_i errors data herrors hdata
          split_ifs at hdenied with hnull
          simp only [Option.bind_eq_bind, Option.bind_some, hdata, Value.asObject]
          cases hlist : Object.get data "storeWishlistSecure" with
          | none => rfl
          | some list =>
            cases list with
            | null => rfl
            | _ => simp [hlist, Value.isNull] at hnull
        · cases hdenied
    rw [hitems]
    dsimp only
    rw [if_pos hdenied]

variable {client}

/-- No status both accepts and rejects a credential. -/
lemma not_isForbidden_of_isOk {status : ℕ} (h : IsOk status) : ¬IsForbidden status := by
  unfold IsOk at h
  unfold IsForbidden
  omega

/-- The body of a good answer after the redirect. -/
lemma IsGood.body {request : SonyRequest} {answer : Answer} (h : client.IsGood request answer)
    (hcall : request.call ≠ .authorize) :
    IsOk answer.status ∧ ∃ body, client.fromSlice answer.body = some body ∧
      (request.call ≠ .token → isPersistedQueryRotation body = false) := by
  cases request with
  | authorize npsso => exact absurd rfl hcall
  | token code =>
    obtain ⟨hok, body, token, hbody, -⟩ := h
    exact ⟨hok, body, hbody, fun hne => absurd rfl hne⟩
  | purchased accessToken page =>
    obtain ⟨hok, body, outcome, hbody, hrotation, -⟩ := h
    exact ⟨hok, body, hbody, fun _ => hrotation⟩
  | wishlist accessToken =>
    obtain ⟨hok, body, entries, dropped, outOfScope, hbody, hrotation, -⟩ := h
    exact ⟨hok, body, hbody, fun _ => hrotation⟩

/-- A denial after the redirect is a status or the body of a wishlist. -/
lemma isDenial_iff {request : SonyRequest} {answer : Answer}
    (hcall : request.call ≠ .authorize) :
    client.IsDenial request answer ↔ IsForbidden answer.status ∨
      IsOk answer.status ∧ ∃ body, client.fromSlice answer.body = some body ∧
        request.call = .wishlist ∧ isPersistedQueryRotation body = false ∧
          isAccessDenied body = true := by
  cases request with
  | authorize npsso => exact absurd rfl hcall
  | token code => simp [IsDenial, SonyRequest.call]
  | purchased accessToken page => simp [IsDenial, SonyRequest.call]
  | wishlist accessToken => simp [IsDenial, SonyRequest.call]

/-- A denial with a 2xx status is the body of a wishlist. -/
lemma IsDenial.body {request : SonyRequest} {answer : Answer} {body : Value}
    (h : client.IsDenial request answer) (hcall : request.call ≠ .authorize)
    (hok : IsOk answer.status) (hbody : client.fromSlice answer.body = some body) :
    request.call = .wishlist ∧ isPersistedQueryRotation body = false ∧
      isAccessDenied body = true := by
  rcases (isDenial_iff hcall).mp h with hforbidden | ⟨-, body', hbody', hdenied⟩
  · exact absurd hforbidden (not_isForbidden_of_isOk hok)
  · rw [hbody] at hbody'
    cases hbody'
    exact hdenied

/-- What is good is no denial. -/
lemma not_isDenial_of_isGood {request : SonyRequest} {answer : Answer}
    (h : client.IsGood request answer) : ¬client.IsDenial request answer := by
  intro hdenial
  cases request with
  | authorize npsso =>
    obtain ⟨-, code, hcode⟩ := h
    obtain ⟨-, hnone⟩ := hdenial
    rw [hcode] at hnone
    cases hnone
  | token code => exact not_isForbidden_of_isOk h.1 hdenial
  | purchased accessToken page => exact not_isForbidden_of_isOk h.1 hdenial
  | wishlist accessToken =>
    obtain ⟨hok, body, entries, dropped, outOfScope, hbody, -, hlisted⟩ := h
    obtain ⟨-, -, hdenied⟩ := hdenial.body nofun hok hbody
    rw [parseWishlist_eq_denied_iff.mpr hdenied] at hlisted
    cases hlisted

/-- An accepted call denies nothing. -/
lemma not_denies_of_accepts (call : SonyCall) (h : client.Accepts call) :
    ¬client.Denies call := by
  obtain ⟨answer, hread, hgood⟩ := h
  rintro ⟨answer', hread', hdenial⟩
  rw [hread] at hread'
  cases hread'
  exact not_isDenial_of_isGood hgood hdenial

/-- The judgement of the client. -/
def judgement (client : AccountClient) : Judgement SonyCall AccountError where
  Accepts := client.Accepts
  Denies := client.Denies
  IsDenial := AccountError.IsRejection
  not_denies := not_denies_of_accepts

/-- A call whose answer is neither good nor a denial is neither accepted nor denied. -/
lemma not_accepts_or_denies_of_answer {call : SonyCall} {answer : Answer}
    (hread : readResponse call.exchange = some answer)
    (hgood : ¬client.IsGood call.request answer)
    (hdenial : ¬client.IsDenial call.request answer) :
    ¬client.Accepts call ∧ ¬client.Denies call := by
  constructor
  · rintro ⟨answer', hanswer, h⟩
    rw [hread] at hanswer
    cases hanswer
    exact hgood h
  · rintro ⟨answer', hanswer, h⟩
    rw [hread] at hanswer
    cases hanswer
    exact hdenial h

/-- **An outage is neither accepted nor a denial.**

**Proof sketch.** By the kind of the outage. An answer is read in one way, so what an acceptance or
a denial says of its status and its body contradicts what the outage says of them. -/
theorem Outage.not_accepts_or_denies {call : SonyCall} (h : client.Outage call) :
    ¬client.Accepts call ∧ ¬client.Denies call := by
  cases h with
  | unanswered hread => simp [Accepts, Denies, hread]
  | notRedirected hread hstatus =>
    exact not_accepts_or_denies_of_answer hread (fun h => hstatus h.1) fun h => hstatus h.1
  | otherStatus hread hcall hok hforbidden =>
    apply not_accepts_or_denies_of_answer hread
    · intro h
      exact hok (h.body hcall).1
    · intro h
      rcases (isDenial_iff hcall).mp h with h | h
      · exact hforbidden h
      · exact hok h.1
  | notJson hread hcall hok hbody =>
    apply not_accepts_or_denies_of_answer hread
    · intro h
      obtain ⟨-, body, hbody', -⟩ := h.body hcall
      rw [hbody] at hbody'
      cases hbody'
    · intro h
      rcases (isDenial_iff hcall).mp h with h | ⟨-, body, hbody', -⟩
      · exact not_isForbidden_of_isOk hok h
      · rw [hbody] at hbody'
        cases hbody'
  | rotated hread hcall hok hbody hrotation =>
    have hauthorize : call.request.call ≠ .authorize := by rcases hcall with h | h <;> simp [h]
    have htoken : call.request.call ≠ .token := by rcases hcall with h | h <;> simp [h]
    apply not_accepts_or_denies_of_answer hread
    · intro h
      obtain ⟨-, body', hbody', hfalse⟩ := h.body hauthorize
      rw [hbody] at hbody'
      cases hbody'
      rw [hfalse htoken] at hrotation
      cases hrotation
    · intro h
      obtain ⟨-, hfalse, -⟩ := h.body hauthorize hok hbody
      rw [hfalse] at hrotation
      cases hrotation
  | noToken hread hok hbody hnone =>
    apply not_accepts_or_denies_of_answer hread
    · intro h
      obtain ⟨-, body', token, hbody', htoken⟩ := h
      rw [hbody] at hbody'
      cases hbody'
      rw [hnone] at htoken
      cases htoken
    · exact not_isForbidden_of_isOk hok
  | pageDrift hread hok hbody hdrift =>
    apply not_accepts_or_denies_of_answer hread
    · intro h
      obtain ⟨-, body', outcome, hbody', -, hparse⟩ := h
      rw [hbody] at hbody'
      cases hbody'
      rw [hdrift] at hparse
      cases hparse
    · exact not_isForbidden_of_isOk hok
  | wishlistDrift hread hok hbody hdrift =>
    apply not_accepts_or_denies_of_answer hread
    · intro h
      obtain ⟨-, body', entries, dropped, outOfScope, hbody', -, hlisted⟩ := h
      rw [hbody] at hbody'
      cases hbody'
      rw [hdrift] at hlisted
      cases hlisted
    · intro h
      obtain ⟨-, -, hdenied⟩ := h.body nofun hok hbody
      rw [parseWishlist_eq_denied_iff.mpr hdenied] at hdrift
      cases hdrift

/-- **No answer is left out**: a call is accepted, denies, or is an outage.

**Proof sketch.** The tests of the code in its order: the answer is read, the status of a redirect,
a forbidden status, a success status, the JSON, and what the parser of the call makes of it. Each
test that fails names an outage or a denial. -/
theorem accepts_or_denies_or_outage (call : SonyCall) :
    client.Accepts call ∨ client.Denies call ∨ client.Outage call := by
  obtain ⟨request, exchange⟩ := call
  cases hread : readResponse exchange with
  | none => exact Or.inr (Or.inr (.unanswered hread))
  | some answer =>
    by_cases hcall : request.call = .authorize
    · obtain ⟨npsso, rfl⟩ : ∃ npsso, request = .authorize npsso := by
        cases request with
        | authorize npsso => exact ⟨npsso, rfl⟩
        | _ => cases hcall
      by_cases hstatus : answer.status = 302
      · cases hcode : client.codeOf answer with
        | none => exact Or.inr (Or.inl ⟨answer, hread, hstatus, hcode⟩)
        | some code => exact Or.inl ⟨answer, hread, hstatus, code, hcode⟩
      · exact Or.inr (Or.inr (.notRedirected hread hstatus))
    by_cases hforbidden : IsForbidden answer.status
    · exact Or.inr (Or.inl ⟨answer, hread, (isDenial_iff hcall).mpr (Or.inl hforbidden)⟩)
    by_cases hok : IsOk answer.status
    swap
    · exact Or.inr (Or.inr (.otherStatus hread hcall hok hforbidden))
    cases hbody : client.fromSlice answer.body with
    | none => exact Or.inr (Or.inr (.notJson hread hcall hok hbody))
    | some body =>
      cases request with
      | authorize npsso => exact absurd rfl hcall
      | token code =>
        cases htoken : accessToken body with
        | none => exact Or.inr (Or.inr (.noToken hread hok hbody htoken))
        | some token => exact Or.inl ⟨answer, hread, hok, body, token, hbody, htoken⟩
      | purchased accessToken page =>
        cases hrotation : isPersistedQueryRotation body with
        | true => exact Or.inr (Or.inr (.rotated hread (Or.inl rfl) hok hbody hrotation))
        | false =>
          cases hpage : parsePage body with
          | none => exact Or.inr (Or.inr (.pageDrift hread hok hbody hpage))
          | some outcome =>
            exact Or.inl ⟨answer, hread, hok, body, outcome, hbody, hrotation, hpage⟩
      | wishlist accessToken =>
        cases hrotation : isPersistedQueryRotation body with
        | true => exact Or.inr (Or.inr (.rotated hread (Or.inr rfl) hok hbody hrotation))
        | false =>
          cases hlist : parseWishlist body with
          | drift => exact Or.inr (Or.inr (.wishlistDrift hread hok hbody hlist))
          | denied =>
            have hdenied := parseWishlist_eq_denied_iff.mp hlist
            exact Or.inr (Or.inl ⟨answer, hread, Or.inr ⟨hok, body, hbody, hrotation, hdenied⟩⟩)
          | listed entries dropped outOfScope =>
            exact Or.inl ⟨answer, hread, hok, body, entries, dropped, outOfScope, hbody, hrotation,
              hlist⟩

/-! ## The calls agree with the result -/

/-- An outage with a fixed message is no rejection. -/
lemma not_isRejection_unavailable (message : String) :
    ¬(unavailable message).IsRejection := id

/-- A transport failure is a rejection for the statuses of a call after the redirect. -/
lemma isRejection_callFailed_iff {contract : AccountContract} {call : Call}
    {error : TransportError} :
    (callFailed contract call error).IsRejection ↔
      call ≠ .authorize ∧ ∃ code, error = .status code ∧ IsForbidden code := by
  cases error with
  | rateLimited retryAfter => simp [callFailed, rateLimited, AccountError.IsRejection]
  | failed => simp [callFailed, unavailable, AccountError.IsRejection]
  | status code =>
    unfold callFailed
    dsimp only
    split_ifs with hrotated hrejected
    · simp [queryRotated, AccountError.IsRejection, IsForbidden, hrotated.1]
    · simp [rejected, AccountError.IsRejection, IsForbidden, hrejected.1, hrejected.2]
    · simp only [unavailable, AccountError.IsRejection, IsForbidden, false_iff]
      rintro ⟨hcall, code', hcode, hforbidden⟩
      cases hcode
      exact hrejected ⟨hforbidden, hcall⟩

/-- What an attempt with a forbidden status means. -/
lemma verdict_eq_forbidden_iff {exchange : Exchange} :
    (∃ code, verdict accountAttempts .manual exchange = .error (.status code) ∧
      IsForbidden code) ↔ ∃ answer ∈ readResponse exchange, IsForbidden answer.status := by
  unfold verdict
  cases readResponse exchange with
  | none => simp
  | some answer =>
    dsimp only
    by_cases hforbidden : IsForbidden answer.status
    · have h429 : answer.status ≠ 429 := by unfold IsForbidden at hforbidden; omega
      have hsuccess : ¬IsSuccess .manual answer.status := by
        unfold IsForbidden at hforbidden
        unfold IsSuccess
        omega
      rw [if_neg h429, if_neg hsuccess]
      simp [hforbidden]
    · split_ifs with h429 hsuccess
      · simp [hforbidden]
      · simp [hforbidden]
      · simp [hforbidden]

/-- A query that fails is a rejection for its statuses only, and has no JSON body.

**Proof sketch.** The call fails or its body is not read. A call that fails is a rejection for the
forbidden statuses alone (`isRejection_callFailed_iff`), and another failure is an outage. With a
success status and a JSON body the query would not have failed. -/
lemma graphql_eq_error {request : SonyRequest} {e : AccountError}
    (hcall : request.call ≠ .authorize) (h : (client.graphql request).result = .error e) :
    (e.IsRejection ↔ ∃ answer ∈ readResponse (client.sony request),
      IsForbidden answer.status) ∧
      ∀ answer ∈ readResponse (client.sony request), IsOk answer.status →
        client.fromSlice answer.body = none := by
  constructor
  · rw [← verdict_eq_forbidden_iff]
    unfold graphql send at h
    rw [Recorded.bind_result, Recorded.call_result] at h
    cases hverdict : verdict accountAttempts .manual (client.sony request) with
    | error error =>
      rw [hverdict] at h
      cases h
      rw [isRejection_callFailed_iff]
      simp [hcall]
    | ok answer =>
      rw [hverdict] at h
      have hjson : client.jsonBody answer = .error e := h
      unfold jsonBody at hjson
      split_ifs at hjson with hok
      · cases hbody : client.fromSlice answer.body with
        | none =>
          rw [hbody] at hjson
          cases hjson
          simp [not_isRejection_unavailable]
        | some body =>
          rw [hbody] at hjson
          cases hjson
      · cases hjson
        simp [not_isRejection_unavailable]
  · intro answer hread hok
    by_contra hbody
    obtain ⟨body, hbody⟩ := Option.ne_none_iff_exists'.mp hbody
    rw [graphql_eq_ok_iff.mpr ⟨answer, hread, hok, hbody⟩] at h
    cases h

/-- A query and what is read from its body agree with its call.

**Proof sketch.** There is one call. A value comes from a body that was read, so the answer is a
good one. An error comes from the call or from its body: one of the call is a rejection exactly for
a forbidden status, for then no body was read that could say more; one of the body is a rejection
exactly where `herror` says, which is what a denial of a read body is. -/
lemma follows_query {α : Type} {request : SonyRequest} {read : Value → Except AccountError α}
    {x : Recorded SonyCall AccountError α} (hcall : request.call ≠ .authorize)
    (hcalls : x.calls = [{ request, exchange := client.sony request }])
    (hresult : x.result = (client.graphql request).result >>= read)
    (hok : ∀ answer body a, IsOk answer.status → client.fromSlice answer.body = some body →
      read body = .ok a → client.IsGood request answer)
    (herror : ∀ body e, read body = .error e → (e.IsRejection ↔
      request.call = .wishlist ∧ isPersistedQueryRotation body = false ∧
        isAccessDenied body = true)) :
    x.Follows client.judgement := by
  apply Recorded.Follows.single hcalls
  · intro a ha
    rw [hresult] at ha
    obtain ⟨body, hbody, hread⟩ := bind_eq_ok ha
    obtain ⟨answer, hanswer, hstatus, hjson⟩ := graphql_eq_ok_iff.mp hbody
    exact ⟨answer, hanswer, hok answer body a hstatus hjson hread⟩
  · intro e he
    rw [hresult] at he
    rcases bind_eq_error_iff.mp he with he | ⟨body, hbody, hread⟩
    · obtain ⟨hrejection, hnone⟩ := graphql_eq_error hcall he
      show e.IsRejection ↔ client.Denies _
      rw [hrejection]
      constructor
      · intro h
        obtain ⟨answer, hanswer, hforbidden⟩ := h
        exact ⟨answer, hanswer, (isDenial_iff hcall).mpr (Or.inl hforbidden)⟩
      · intro h
        obtain ⟨answer, hanswer, hdenial⟩ := h
        rcases (isDenial_iff hcall).mp hdenial with hforbidden | ⟨hstatus, body, hbody, -⟩
        · exact ⟨answer, hanswer, hforbidden⟩
        · rw [hnone answer hanswer hstatus] at hbody
          cases hbody
    · obtain ⟨answer, hanswer, hstatus, hjson⟩ := graphql_eq_ok_iff.mp hbody
      show e.IsRejection ↔ client.Denies _
      rw [herror body e hread]
      constructor
      · intro hdenied
        exact ⟨answer, hanswer, (isDenial_iff hcall).mpr (Or.inr ⟨hstatus, body, hjson, hdenied⟩)⟩
      · intro h
        obtain ⟨answer', hanswer', hdenial⟩ := h
        rw [hanswer] at hanswer'
        cases hanswer'
        exact hdenial.body hcall hstatus hjson

/-- The answer of an authorize request is returned where it is a redirect. -/
lemma send_authorize_of_redirect {npsso : Secret} {answer : Answer}
    (hread : readResponse (client.sony (.authorize npsso)) = some answer)
    (hstatus : answer.status = 302) : (client.send (.authorize npsso)).result = .ok answer :=
  send_eq_ok_iff.mpr ⟨hread, Or.inr ⟨rfl, by omega⟩⟩

/-- An authorize request that fails is no rejection. -/
lemma send_authorize_eq_error {npsso : Secret} {e : AccountError}
    (h : (client.send (.authorize npsso)).result = .error e) : ¬e.IsRejection := by
  unfold send at h
  rw [Recorded.call_result] at h
  cases hverdict : verdict accountAttempts .manual (client.sony (.authorize npsso)) with
  | ok answer =>
    rw [hverdict] at h
    cases h
  | error error =>
    rw [hverdict] at h
    cases h
    rw [isRejection_callFailed_iff]
    rintro ⟨hne, -⟩
    exact hne rfl

/-- **The authorize call** rejects with its redirect only.

**Proof sketch.** The call is one request, so its result is compared with the judgement of that
request (`Recorded.Follows.single`). It succeeds only behind a 302 with a code. It fails with the
rejection only behind a 302 without one; the other failures, of the transport and of another status,
are no rejections. -/
theorem follows_authorize (npsso : Secret) :
    (client.authorize npsso).Follows client.judgement := by
  unfold authorize
  split_ifs with hheader
  swap
  · exact Recorded.Follows.fail id
  apply Recorded.Follows.single
  · rw [Recorded.bind_calls_of_nil]
    · rfl
    · intro answer
      split_ifs with hstatus
      · rfl
      · split <;> rfl
  · intro code hcode
    rw [Recorded.bind_result] at hcode
    obtain ⟨answer, hanswer, hread⟩ := bind_eq_ok hcode
    split_ifs at hread with hstatus
    · cases hread
    · have hstatus : answer.status = 302 := not_not.mp hstatus
      cases hfound : client.codeOf answer with
      | some code' =>
        exact ⟨answer, (send_eq_ok_iff.mp hanswer).1, hstatus, code', hfound⟩
      | none =>
        unfold codeOf at hfound
        rw [hfound] at hread
        cases hread
  · intro e he
    rw [Recorded.bind_result] at he
    rcases bind_eq_error_iff.mp he with he | ⟨answer, hanswer, hread⟩
    · -- no redirect was answered
      constructor
      · intro hrejection
        exact absurd hrejection (send_authorize_eq_error he)
      · intro h
        obtain ⟨answer, hread, hstatus, -⟩ := h
        rw [send_authorize_of_redirect hread hstatus] at he
        cases he
    · have hanswer := (send_eq_ok_iff.mp hanswer).1
      split_ifs at hread with hstatus
      · cases hread
        constructor
        · intro hrejection
          exact absurd hrejection (not_isRejection_unavailable signInUnexpected)
        · intro h
          obtain ⟨answer', hanswer', hstatus', -⟩ := h
          dsimp only at hanswer'
          rw [hanswer] at hanswer'
          cases hanswer'
          exact absurd hstatus' hstatus
      · have hstatus : answer.status = 302 := not_not.mp hstatus
        cases hfound : client.codeOf answer with
        | some code' =>
          unfold codeOf at hfound
          rw [hfound] at hread
          cases hread
        | none =>
          have hdenies : client.Denies
              { request := .authorize npsso, exchange := client.sony (.authorize npsso) } :=
            ⟨answer, hanswer, hstatus, hfound⟩
          unfold codeOf at hfound
          rw [hfound] at hread
          cases hread
          exact iff_of_true trivial hdenies

/-- **The token call** rejects with its status only.

**Proof sketch.** The call is one request behind a check of its header, and its body is read by
`accessToken`, so `follows_query` applies: a token is an acceptance, and a body without one is a
failure that is no rejection. -/
theorem follows_requestToken (code : Secret) :
    (client.requestToken code).Follows client.judgement := by
  unfold requestToken
  split_ifs with hheader
  swap
  · exact Recorded.Follows.fail id
  let read : Value → Except AccountError Secret := fun body =>
    (accessToken body).elim (.error (unavailable signInUnexpected)) .ok
  apply @follows_query client _ (.token code) read _ nofun
  · rw [Recorded.bind_calls_of_nil]
    · rfl
    · intro answer
      rw [Recorded.bind_calls_of_nil]
      · rfl
      · intro body
        split <;> rfl
  · unfold graphql
    simp only [Recorded.bind_result, bind_assoc]
    congr 1
    funext answer
    congr 1
    funext body
    unfold read
    cases accessToken body <;> rfl
  · intro answer body token hstatus hbody hread
    unfold read at hread
    cases htoken : accessToken body with
    | none => rw [htoken] at hread; cases hread
    | some token' => exact ⟨hstatus, body, token', hbody, htoken⟩
  · intro body e hread
    unfold read at hread
    cases htoken : accessToken body with
    | some token => rw [htoken] at hread; cases hread
    | none =>
      rw [htoken] at hread
      cases hread
      simp [not_isRejection_unavailable, SonyRequest.call]

/-- A deadline message is no rejection, and a call that it cuts denies nothing. -/
lemma follows_upTo {α : Type} {x : Recorded SonyCall AccountError α}
    (hx : x.Follows client.judgement) (n : ℕ) (message : String) :
    (x.upTo n SonyCall.cut (unavailable message)).Follows client.judgement := by
  apply hx.upTo
  · rintro call ⟨answer, hread, -⟩
    cases hread
  · exact not_isRejection_unavailable message

/-- **The sign-in agrees with its calls.** -/
theorem follows_exchange (npsso : Secret) :
    (client.exchange npsso).Follows client.judgement := by
  apply follows_upTo
  apply (follows_authorize npsso).bind
  intro code _
  exact follows_requestToken code

/-- A library page agrees with its call. -/
lemma follows_page (accessToken : Secret) (p : ℕ) :
    (client.page accessToken p).Follows client.judgement := by
  apply @follows_query client _ (.purchased accessToken (.page p)) client.readPage _ nofun
  · exact page_calls p
  · unfold page
    rw [Recorded.bind_result]
    rfl
  · intro answer body outcome hstatus hbody hread
    obtain ⟨hrotation, hpage⟩ := readPage_eq_ok_iff.mp hread
    exact ⟨hstatus, body, outcome, hbody, hrotation, hpage⟩
  · intro body e hread
    have hrejection : ¬e.IsRejection := by
      unfold readPage at hread
      split_ifs at hread
      · cases hread
        exact id
      · cases hpage : parsePage body with
        | some outcome => rw [hpage] at hread; cases hread
        | none =>
          rw [hpage] at hread
          cases hread
          exact id
    simp [hrejection, SonyRequest.call]

/-- The crawl agrees with its calls. -/
lemma follows_crawl (accessToken : Secret) (left p : ℕ) (collected : List PurchasedEntry) :
    (client.crawl accessToken left p collected).Follows client.judgement := by
  induction left generalizing p collected with
  | zero => exact Recorded.Follows.fail id
  | succ left ih =>
    rw [crawl]
    apply (follows_page accessToken p).bind
    intro outcome _
    dsimp only
    split_ifs with hlast
    · exact Recorded.Follows.pure _
    · exact ih (p + 1) (collected ++ outcome.entries)

/-- **The purchased games agree with their calls.** -/
theorem follows_purchased (accessToken : Secret) :
    (client.purchased accessToken).Follows client.judgement :=
  follows_upTo (follows_crawl accessToken _ 0 []) _ _

/-- **The wishlist agrees with its call.**

**Proof sketch.** The call is one request within a deadline, and `follows_query` applies to it. A
rotation and a drift are no rejections; the list of another body is an acceptance, and a denied
access is the rejection that the judgement names (`parseWishlist_eq_denied_iff`). -/
theorem follows_wishlist (accessToken : Secret) :
    (client.wishlist accessToken).Follows client.judgement := by
  apply follows_upTo
  apply @follows_query client _ (.wishlist accessToken) client.readWishlist _ nofun
  · rw [Recorded.bind_lift_calls, graphql_calls]
  · rw [Recorded.bind_result]
    rfl
  · intro answer body entries hstatus hbody hread
    unfold readWishlist at hread
    split_ifs at hread with hrotation
    cases hlist : parseWishlist body with
    | denied => rw [hlist] at hread; cases hread
    | drift => rw [hlist] at hread; cases hread
    | listed entries' dropped outOfScope =>
      exact ⟨hstatus, body, entries', dropped, outOfScope, hbody, by simpa using hrotation, hlist⟩
  · intro body e hread
    unfold readWishlist at hread
    split_ifs at hread with hrotation
    · cases hread
      simp [queryRotated, AccountError.IsRejection, hrotation]
    · have hrotation : isPersistedQueryRotation body = false := by simpa using hrotation
      rw [← parseWishlist_eq_denied_iff]
      cases hlist : parseWishlist body with
      | listed entries dropped outOfScope => rw [hlist] at hread; cases hread
      | denied =>
        rw [hlist] at hread
        cases hread
        simp [rejected, AccountError.IsRejection, hrotation, SonyRequest.call]
      | drift =>
        rw [hlist] at hread
        cases hread
        simp [not_isRejection_unavailable]

end AccountClient

end PsStore
