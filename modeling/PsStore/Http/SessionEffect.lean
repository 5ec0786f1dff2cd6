import PsStore.Http.Documented

set_option relaxedAutoImplicit false
set_option autoImplicit false

/-!
# What an answer does to the session

The `Set-Cookie` headers of the server. A sign-in sets the cookie after Sony accepted the NPSSO. A
sign-out clears it, and so does a signed-in list whose NPSSO Sony rejects.

## Main definitions

* `SessionEffect` — what an answer does to the session of the browser.
* `Services.signedInList` — the service of a signed-in list.
* `SetsCookie` — the headers of an answer, with the reason and the effect.
* `Rejects`, `ChangesSession` — what a request asks for that changes the session.

## Main results

* `exists_setsCookie_app` — every answer of the server has one of these effects.
* `setCookie_of_changesSession` — what a request asks for is done, unless its handling panics.
* `setCookie_signOut` — a successful sign-out clears the cookie.
-/

namespace PsStore

/-- What an answer does to the session of the browser. -/
inductive SessionEffect where
  | keep
  | enter (npsso : Secret)
  | leave
deriving DecidableEq

/-- The service of a signed-in list. -/
def Services.signedInList (services : Services) :
    Operation → Option (Secret → Except AccountError PageResult)
  | .listPurchasedGames => some services.purchasedGames
  | .listWishlistGames => some services.wishlistGames
  | _ => none

/-- The `Set-Cookie` headers of the answer to a request, with the reason for them and the effect. -/
inductive SetsCookie (server : Server) (request : HttpRequest) :
    List String → SessionEffect → Prop where
  | keep : SetsCookie server request [] .keep
  | signedIn {body : List UInt8} {npsso : Secret} (hoperation : request.operation? = some .signIn)
      (hbody : request.body = .ok body)
      (hnpsso : npssoFromBody server.fromSlice body = some npsso)
      (haccepted : server.services.verifyNpsso npsso = .ok ()) :
      SetsCookie server request [signInCookie npsso] (.enter npsso)
  | signedOut (hoperation : request.operation? = some .signOut) :
      SetsCookie server request [expiredCookie] .leave
  | rejected {operation : Operation} {service : Secret → Except AccountError PageResult}
      {npsso : Secret} {message : String} (hoperation : request.operation? = some operation)
      (hservice : server.services.signedInList operation = some service)
      (hcookie : npssoFromCookie request.cookies = some npsso)
      (hrejected : service npsso = .error (.sessionRejected message)) :
      SetsCookie server request [expiredCookie] .leave

/-- The server rejects the NPSSO of a request: the request is for a signed-in list, and the service
of the list rejects the NPSSO that the request carries. -/
def Rejects (server : Server) (request : HttpRequest) : Prop :=
  ∃ operation service npsso message, request.operation? = some operation ∧
    server.services.signedInList operation = some service ∧
    npssoFromCookie request.cookies = some npsso ∧
    service npsso = .error (.sessionRejected message)

/-- What a request asks for where its handling ends: to sign in with an NPSSO that Sony accepts, to
sign out, or to read a list with an NPSSO that Sony rejects. A sign-in needs a JSON body: the
request names this media type or none. -/
inductive ChangesSession (server : Server) (request : HttpRequest) : SessionEffect → Prop where
  | signIn {body : List UInt8} {npsso : Secret} (hoperation : request.operation? = some .signIn)
      (hmedia : ∀ media ∈ mediaType request.contentType, media = "application/json".toList)
      (hbody : request.body = .ok body)
      (hnpsso : npssoFromBody server.fromSlice body = some npsso)
      (haccepted : server.services.verifyNpsso npsso = .ok ()) :
      ChangesSession server request (.enter npsso)
  | signOut (hoperation : request.operation? = some .signOut) :
      ChangesSession server request .leave
  | rejection (hrejects : Rejects server request) : ChangesSession server request .leave

/-- The `Set-Cookie` headers of an effect. -/
def SessionEffect.setCookie : SessionEffect → List String
  | .keep => []
  | .enter npsso => [signInCookie npsso]
  | .leave => [expiredCookie]

/-! ## The handlers -/

/-- The answer of a service sets no cookie. -/
lemma setCookie_respond {ε α : Type} (toProblem : ε → Problem) (payload : α → Payload)
    (result : Except ε α) : (respond toProblem payload result).setCookie = [] := by
  cases result <;> rfl

/-- A list of one page sets no cookie. -/
lemma setCookie_pageRoute (service : Page → Except UpstreamError PageResult)
    (query : Option String) : (pageRoute service query).setCookie = [] := by
  unfold pageRoute
  cases pagination query with
  | error error => rfl
  | ok page => exact setCookie_respond _ _ _

/-- A search sets no cookie. -/
lemma setCookie_searchRoute (services : Services) (query : Option String) :
    (searchRoute services query).setCookie = [] := by
  unfold searchRoute
  cases search query with
  | error error => rfl
  | ok arguments => exact setCookie_respond _ _ _

/-- A browse request sets no cookie. -/
lemma setCookie_browseRoute (services : Services) (query : Option String) :
    (browseRoute services query).setCookie = [] := by
  unfold browseRoute
  cases browse query with
  | error error => rfl
  | ok arguments => exact setCookie_respond _ _ _

/-- A game page sets no cookie. -/
lemma setCookie_gameRoute (services : Services) (segment : List Char) :
    (gameRoute services segment).setCookie = [] := by
  unfold gameRoute
  cases (pathParam segment).bind GameId.fromPath with
  | none => rfl
  | some id => exact setCookie_respond _ _ _

/-- A signed-in list clears the cookie of a rejected NPSSO and sets no other. -/
lemma setCookie_signedInRoute (service : Secret → Except AccountError PageResult)
    (cookies : List (List UInt8)) :
    (signedInRoute service cookies).setCookie = [] ∨
      (signedInRoute service cookies).setCookie = [expiredCookie] ∧
        ∃ npsso message, npssoFromCookie cookies = some npsso ∧
          service npsso = .error (.sessionRejected message) := by
  unfold signedInRoute
  cases npssoFromCookie cookies with
  | none => exact Or.inl rfl
  | some npsso =>
    dsimp only
    cases hresult : service npsso with
    | ok page => exact Or.inl rfl
    | error error =>
      cases error with
      | sessionRejected message => exact Or.inr ⟨rfl, npsso, message, rfl, hresult⟩
      | upstream error =>
        left
        have hstatus : (Problem.ofUpstreamError error).code.status ≠ 401 := by
          rcases Problem.ofUpstreamError_status error with h | h
          · rw [h]
            decide
          · rw [h]
            decide
        exact (congrArg Response.setCookie (if_neg hstatus)).trans rfl

/-- A sign-in sets the cookie of an accepted NPSSO and no other. -/
lemma setCookie_signInRoute (server : Server) (request : HttpRequest) :
    (signInRoute server request).setCookie = [] ∨
      ∃ body npsso, request.body = .ok body ∧
        npssoFromBody server.fromSlice body = some npsso ∧
        server.services.verifyNpsso npsso = .ok () ∧
        (signInRoute server request).setCookie = [signInCookie npsso] := by
  unfold signInRoute
  cases hbody : request.body with
  | error rejection => exact Or.inl rfl
  | ok body =>
    dsimp only
    split_ifs with hmedia
    · exact Or.inl rfl
    · cases hnpsso : npssoFromBody server.fromSlice body with
      | none => exact Or.inl rfl
      | some npsso =>
        dsimp only
        cases haccepted : server.services.verifyNpsso npsso with
        | error error => exact Or.inl rfl
        | ok accepted =>
          dsimp only
          cases headerValueFromStr (signInCookie npsso) with
          | none => exact Or.inl rfl
          | some value => exact Or.inr ⟨body, npsso, rfl, hnpsso, haccepted, rfl⟩

/-! ## The server -/

/-- **The effect of a handler.** -/
lemma exists_setsCookie_handleOperation (server : Server) {request : HttpRequest}
    {operation : Operation} (h : request.operation? = some operation) (segment : List Char) :
    ∃ effect, SetsCookie server request
      (handleOperation server (trimTrailingSlash request) segment operation).setCookie effect := by
  have hkeep : ∀ {list : List String}, list = [] → ∃ effect,
      SetsCookie server request list effect := by
    rintro list rfl
    exact ⟨.keep, .keep⟩
  have hlist : ∀ {service : Secret → Except AccountError PageResult},
      server.services.signedInList operation = some service → ∃ effect, SetsCookie server request
        (signedInRoute service request.cookies).setCookie effect := by
    intro service hservice
    rcases setCookie_signedInRoute service request.cookies with hnone | hrejected
    · exact hkeep hnone
    · obtain ⟨hcookie, npsso, message, hnpsso, hrejected⟩ := hrejected
      rw [hcookie]
      exact ⟨.leave, .rejected h hservice hnpsso hrejected⟩
  cases operation with
  | listNewGames => exact hkeep (setCookie_pageRoute _ _)
  | listUpcomingGames => exact hkeep (setCookie_pageRoute _ _)
  | listDiscountedGames => exact hkeep (setCookie_pageRoute _ _)
  | listMonthlyGames => exact hkeep (setCookie_pageRoute _ _)
  | listPurchasedGames => exact hlist rfl
  | listWishlistGames => exact hlist rfl
  | searchGames => exact hkeep (setCookie_searchRoute _ _)
  | listGenres => exact hkeep (setCookie_respond _ _ _)
  | browseGames => exact hkeep (setCookie_browseRoute _ _)
  | getGame => exact hkeep (setCookie_gameRoute _ _)
  | signIn =>
    rcases setCookie_signInRoute server (trimTrailingSlash request) with hnone | hset
    · exact hkeep hnone
    · obtain ⟨body, npsso, hbody, hnpsso, haccepted, hcookie⟩ := hset
      refine ⟨.enter npsso, ?_⟩
      show SetsCookie server request (signInRoute server (trimTrailingSlash request)).setCookie _
      rw [hcookie]
      exact .signedIn h hbody hnpsso haccepted
  | signOut => exact ⟨.leave, .signedOut h⟩

/-- An answer outside the documented routes sets no cookie. -/
lemma setCookie_handle {server : Server} {request : HttpRequest}
    (h : (matchRoute request.path).bind (Route.operation? request.method) = none) :
    (handle server request).setCookie = [] := by
  unfold handle
  cases hroute : matchRoute request.path with
  | none =>
    dsimp only
    unfold serveFallback
    split_ifs
    · rfl
    · cases server.site.respond request <;> rfl
  | some route =>
    rw [hroute, Option.bind_some] at h
    dsimp only
    have hoperational : ∀ body, (operationalRoute request.method body).setCookie = [] := by
      intro body
      unfold operationalRoute
      split_ifs <;> rfl
    cases route with
    | healthz => exact hoperational _
    | readyz => exact hoperational _
    | version => exact hoperational _
    | games listed => rw [handleRoute_of_undocumented server (by trivial) h]; rfl
    | gameById id => rw [handleRoute_of_undocumented server (by trivial) h]; rfl
    | session => rw [handleRoute_of_undocumented server (by trivial) h]; rfl

/-- **Every answer of the server** keeps the session, or changes it for one of three reasons. -/
theorem exists_setsCookie_app (server : Server) (request : HttpRequest) :
    ∃ effect, SetsCookie server request (app server request).response.setCookie effect := by
  show ∃ effect, SetsCookie server request
    (contained server (trimTrailingSlash request)).setCookie effect
  unfold contained
  split_ifs with hpanic
  · exact ⟨.keep, .keep⟩
  · cases hoperation : request.operation? with
    | none =>
      rw [@setCookie_handle server (trimTrailingSlash request) hoperation]
      exact ⟨.keep, .keep⟩
    | some operation =>
      obtain ⟨segment, hhandle⟩ := @exists_handleOperation server _ _ hoperation
      rw [hhandle]
      exact exists_setsCookie_handleOperation server hoperation segment

/-- An accepted sign-in sets the cookie of its NPSSO. -/
lemma setCookie_signInRoute_of_accepted {server : Server} {request : HttpRequest}
    {body : List UInt8} {npsso : Secret}
    (hmedia : ∀ media ∈ mediaType request.contentType, media = "application/json".toList)
    (hbody : request.body = .ok body) (hnpsso : npssoFromBody server.fromSlice body = some npsso)
    (haccepted : server.services.verifyNpsso npsso = .ok ()) :
    (signInRoute server request).setCookie = [signInCookie npsso] := by
  have hjson : (mediaType request.contentType).any (· ≠ "application/json".toList) = false := by
    cases hcontent : mediaType request.contentType with
    | none => rfl
    | some media => exact decide_eq_false (not_not.mpr (hmedia media hcontent))
  obtain ⟨value, hvalue⟩ := (exists_headerValue_signInCookie hnpsso).2
  unfold signInRoute
  rw [hbody]
  dsimp only
  rw [hjson, if_neg Bool.false_ne_true, hnpsso]
  dsimp only
  rw [haccepted]
  dsimp only
  rw [hvalue]

/-- A rejected NPSSO clears the cookie. -/
lemma setCookie_signedInRoute_of_rejected {service : Secret → Except AccountError PageResult}
    {cookies : List (List UInt8)} {npsso : Secret} {message : String}
    (hcookie : npssoFromCookie cookies = some npsso)
    (hrejected : service npsso = .error (.sessionRejected message)) :
    (signedInRoute service cookies).setCookie = [expiredCookie] := by
  unfold signedInRoute
  rw [hcookie]
  dsimp only
  rw [hrejected]
  rfl

/-- **What a request asks for is done**, unless its handling panics: the answer has the headers of
the effect.

**Proof sketch.** Without a panic the answer is that of the handler of the route. The handler of a
sign-in goes through its checks, which the request meets; the one of a sign-out has none; and a
signed-in list clears the cookie on a 401, which a rejection is. -/
theorem setCookie_of_changesSession {server : Server} {request : HttpRequest}
    {effect : SessionEffect} (h : ChangesSession server request effect)
    (hpanic : server.panics (trimTrailingSlash request) = false) :
    (app server request).response.setCookie = effect.setCookie := by
  have hresponse : (app server request).response = handle server (trimTrailingSlash request) := by
    show contained server (trimTrailingSlash request) = _
    unfold contained
    rw [hpanic, if_neg Bool.false_ne_true]
  rw [hresponse]
  cases h with
  | signIn hoperation hmedia hbody hnpsso haccepted =>
    obtain ⟨segment, hhandle⟩ := @exists_handleOperation server _ _ hoperation
    rw [hhandle]
    show (signInRoute server (trimTrailingSlash request)).setCookie = _
    exact setCookie_signInRoute_of_accepted hmedia hbody hnpsso haccepted
  | signOut hoperation =>
    obtain ⟨segment, hhandle⟩ := @exists_handleOperation server _ _ hoperation
    rw [hhandle]
    rfl
  | rejection hrejects =>
    obtain ⟨operation, service, npsso, message, hoperation, hservice, hcookie, hrejected⟩ :=
      hrejects
    obtain ⟨segment, hhandle⟩ := @exists_handleOperation server _ _ hoperation
    rw [hhandle]
    cases operation with
    | listPurchasedGames =>
      obtain rfl := Option.some.inj hservice
      exact setCookie_signedInRoute_of_rejected hcookie hrejected
    | listWishlistGames =>
      obtain rfl := Option.some.inj hservice
      exact setCookie_signedInRoute_of_rejected hcookie hrejected
    | _ => cases hservice

/-- **A successful sign-out** clears the cookie. -/
theorem setCookie_signOut {server : Server} {request : HttpRequest}
    (h : request.operation? = some .signOut)
    (hstatus : (app server request).response.status = 204) :
    (app server request).response.setCookie = [expiredCookie] := by
  apply setCookie_of_changesSession (.signOut h)
  by_contra hpanic
  have hcontained : contained server (trimTrailingSlash request) =
      (Problem.new .internalError).intoResponse := if_pos (Bool.eq_true_of_not_eq_false hpanic)
  replace hstatus : (contained server (trimTrailingSlash request)).status = 204 := hstatus
  rw [hcontained] at hstatus
  exact absurd hstatus (by decide)

end PsStore
