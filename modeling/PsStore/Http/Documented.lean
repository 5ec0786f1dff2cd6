import PsStore.Http.App
import PsStore.Lib.JsonText

set_option relaxedAutoImplicit false
set_option autoImplicit false

/-!
# The documented answers

The annotations of the handlers in `http/games.rs`, `http/session.rs` and `http/openapi.rs` document
the answers of each route. They describe the handlers; here the handlers are compared with them.

## Main definitions

* `Operation.problems`, `Operation.Succeeds` — the documented failures and the documented success,
  with the `Set-Cookie` header of sign-in and sign-out.
* `Response.IsProblem` — the answer is a failure with one of some codes.

## Main results

* `documented_answers` — a route answers exactly what its annotation documents.
* `api_boundary` — which answers a path outside the documented routes gets.
-/

namespace PsStore

/-! ## The documentation -/

/-- The documented upstream failures of a route that calls Sony. -/
def upstreamFailure : List ProblemCode :=
  [.upstreamUnavailable, .upstreamQueryRotated, .upstreamRateLimited]

/-- The documented failures of a route. -/
def Operation.problems : Operation → List ProblemCode
  | .listNewGames | .listUpcomingGames | .listDiscountedGames | .listMonthlyGames
  | .searchGames | .browseGames => .invalidRequest :: (upstreamFailure ++ [.internalError])
  | .listGenres => upstreamFailure ++ [.internalError]
  | .getGame => .invalidRequest :: .gameNotFound :: (upstreamFailure ++ [.internalError])
  | .listPurchasedGames | .listWishlistGames =>
    .sessionRejected :: (upstreamFailure ++ [.internalError])
  | .signIn =>
    [.invalidRequest, .sessionRejected, .payloadTooLarge, .unsupportedMediaType] ++
      (upstreamFailure ++ [.internalError])
  | .signOut => [.internalError]

/-- The `Set-Cookie` header of the documented 204 of sign-in, for the NPSSO of the request. -/
def documentedSignInCookie (npsso : Secret) : String :=
  "npsso=" ++ npsso.expose ++ "; Max-Age=2592000; Path=/api; HttpOnly; Secure; SameSite=Strict"

/-- The `Set-Cookie` header of the documented 204 of sign-out. -/
def documentedSignOutCookie : String :=
  "npsso=; Max-Age=0; Path=/api; Expires=Thu, 01 Jan 1970 00:00:00 GMT; HttpOnly; Secure; " ++
    "SameSite=Strict"

/-- The documented empty 204 with one `Set-Cookie` header. -/
def documentedNoContent (cookie : String) : Response Payload where
  status := 204
  setCookie := [cookie]
  body := .ok .noContent

/-- The documented success of a route: a list or a game as JSON and no cookie, or the empty 204 with
its `Set-Cookie` header. The header of sign-in holds the NPSSO `posted` with the request. -/
def Operation.Succeeds (posted : Option Secret) (response : Response Payload) : Operation → Prop
  | .listGenres => ∃ genres, response = .json (.genres genres)
  | .getGame => ∃ detail, response = .json (.game detail)
  | .signIn => ∃ npsso ∈ posted, response = documentedNoContent (documentedSignInCookie npsso)
  | .signOut => response = documentedNoContent documentedSignOutCookie
  | _ => ∃ page, response = .json (.page page)

/-- The answer is a failure with one of the codes. -/
def Response.IsProblem (codes : List ProblemCode) (response : Response Payload) : Prop :=
  ∃ problem : Problem, response.body = .error problem ∧ response.status = problem.status ∧
    problem.IsPublic ∧ problem.code ∈ codes

/-- The NPSSO in the body of a sign-in request, as the server reads it. -/
def HttpRequest.postedNpsso (server : Server) (request : HttpRequest) : Option Secret :=
  request.body.toOption.bind (npssoFromBody server.fromSlice)

/-- The answer is one of the documented answers of the route to a request that posts an NPSSO. -/
def Operation.Documents (posted : Option Secret) (operation : Operation)
    (response : Response Payload) : Prop :=
  operation.Succeeds posted response ∨ response.IsProblem operation.problems

/-! ## The answers of the handlers -/

/-- A public problem answers its code. -/
lemma isProblem_intoResponse {problem : Problem} (h : problem.IsPublic) {codes : List ProblemCode}
    (hcode : problem.code ∈ codes) : problem.intoResponse.IsProblem codes := by
  refine ⟨problem, rfl, ?_, h, hcode⟩
  rw [h.eq_new]
  rfl

/-- The code of an upstream failure. -/
lemma code_ofUpstreamError (error : UpstreamError) :
    (Problem.ofUpstreamError error).code ∈ upstreamFailure := by
  cases error <;> simp [Problem.ofUpstreamError, Problem.new, upstreamFailure]

/-- A service with upstream failures answers its value or one of them. -/
lemma respond_cases {ε α : Type} {toProblem : ε → Problem} {payload : α → Payload}
    {codes : List ProblemCode} (hpublic : ∀ error, (toProblem error).IsPublic)
    (hcodes : ∀ error, (toProblem error).code ∈ codes) (result : Except ε α) :
    (∃ value, respond toProblem payload result = .json (payload value)) ∨
      (respond toProblem payload result).IsProblem codes := by
  cases result with
  | ok value => exact Or.inl ⟨value, rfl⟩
  | error error => exact Or.inr (isProblem_intoResponse (hpublic error) (hcodes error))

/-- More codes allow more. -/
lemma Response.IsProblem.mono {codes codes' : List ProblemCode} {response : Response Payload}
    (h : response.IsProblem codes) (hsubset : codes ⊆ codes') : response.IsProblem codes' := by
  obtain ⟨problem, hbody, hstatus, hpublic, hcode⟩ := h
  exact ⟨problem, hbody, hstatus, hpublic, hsubset hcode⟩

/-- A 401 loses nothing but the cookie. -/
lemma Response.IsProblem.expireCookie {codes : List ProblemCode} {response : Response Payload}
    (h : response.IsProblem codes) : (expireCookieOnRejection response).IsProblem codes := by
  obtain ⟨problem, hbody, hstatus, hpublic, hcode⟩ := h
  unfold expireCookieOnRejection
  split_ifs <;> exact ⟨problem, hbody, hstatus, hpublic, hcode⟩

/-- An invalid request is a 400. -/
lemma isProblem_invalid (error : InvalidRequest) :
    ((Problem.ofInvalid error).intoResponse : Response Payload).IsProblem [.invalidRequest] :=
  isProblem_intoResponse (by cases error; exact Problem.isPublic_new _) (by cases error; decide)

/-- What a list of one page answers. -/
lemma documents_pageRoute (service : Page → Except UpstreamError PageResult)
    (query : Option String) :
    (∃ page, pageRoute service query = .json (.page page)) ∨
      (pageRoute service query).IsProblem (.invalidRequest :: upstreamFailure) := by
  unfold pageRoute
  cases pagination query with
  | error error => exact Or.inr ((isProblem_invalid error).mono (by decide))
  | ok page =>
    exact (respond_cases Problem.isPublic_ofUpstreamError code_ofUpstreamError _).imp id
      fun h => h.mono (by decide)

/-- What a search answers. -/
lemma documents_searchRoute (services : Services) (query : Option String) :
    (∃ page, searchRoute services query = .json (.page page)) ∨
      (searchRoute services query).IsProblem (.invalidRequest :: upstreamFailure) := by
  unfold searchRoute
  cases search query with
  | error error => exact Or.inr ((isProblem_invalid error).mono (by decide))
  | ok arguments =>
    exact (respond_cases Problem.isPublic_ofUpstreamError code_ofUpstreamError _).imp id
      fun h => h.mono (by decide)

/-- What a browse request answers. -/
lemma documents_browseRoute (services : Services) (query : Option String) :
    (∃ page, browseRoute services query = .json (.page page)) ∨
      (browseRoute services query).IsProblem (.invalidRequest :: upstreamFailure) := by
  unfold browseRoute
  cases browse query with
  | error error => exact Or.inr ((isProblem_invalid error).mono (by decide))
  | ok arguments =>
    exact (respond_cases Problem.isPublic_ofUpstreamError code_ofUpstreamError _).imp id
      fun h => h.mono (by decide)

/-- What a game page answers. -/
lemma documents_gameRoute (services : Services) (segment : List Char) :
    (∃ detail, gameRoute services segment = .json (.game detail)) ∨
      (gameRoute services segment).IsProblem
        (.invalidRequest :: .gameNotFound :: upstreamFailure) := by
  have hcodes : ∀ error, (Problem.ofGameLookupError error).code ∈
      .gameNotFound :: upstreamFailure := by
    intro error
    cases error with
    | notFound id => exact List.mem_cons_self
    | upstream error => exact List.mem_cons_of_mem _ (code_ofUpstreamError error)
  unfold gameRoute
  cases (pathParam segment).bind GameId.fromPath with
  | none => exact Or.inr ((isProblem_invalid .invalid).mono (by decide))
  | some id =>
    rcases @respond_cases _ _ _ (fun game => .game ⟨game, services.scoreFor game⟩) _
      Problem.isPublic_ofGameLookupError hcodes (services.gameById id) with ⟨game, h⟩ | h
    · exact Or.inl ⟨_, h⟩
    · exact Or.inr (h.mono (by decide))

/-- The code of a failure of a signed-in request. -/
lemma code_ofAccountError (error : AccountError) :
    (Problem.ofAccountError error).code ∈ .sessionRejected :: upstreamFailure := by
  cases error with
  | sessionRejected message => exact List.mem_cons_self
  | upstream error => exact List.mem_cons_of_mem _ (code_ofUpstreamError error)

/-- What a signed-in list answers. -/
lemma documents_signedInRoute (service : Secret → Except AccountError PageResult)
    (cookies : List (List UInt8)) :
    (∃ page, signedInRoute service cookies = .json (.page page)) ∨
      (signedInRoute service cookies).IsProblem (.sessionRejected :: upstreamFailure) := by
  unfold signedInRoute
  cases npssoFromCookie cookies with
  | none =>
    exact Or.inr (isProblem_intoResponse (Problem.isPublic_ofAccountError _)
      (code_ofAccountError _))
  | some npsso =>
    rcases @respond_cases _ _ _ Payload.page _
      Problem.isPublic_ofAccountError code_ofAccountError (service npsso) with ⟨page, h⟩ | h
    · refine Or.inl ⟨page, ?_⟩
      dsimp only
      rw [h]
      rfl
    · exact Or.inr h.expireCookie

/-- An accepted NPSSO gives a valid header. -/
lemma exists_headerValue_signInCookie {fromSlice : List UInt8 → Option Json.Value}
    {body : List UInt8} {npsso : Secret} (h : npssoFromBody fromSlice body = some npsso) :
    isValidNpsso npsso.expose = true ∧ ∃ value,
      headerValueFromStr (signInCookie npsso) = some value := by
  obtain ⟨value, -, h⟩ := Option.bind_eq_some_iff.mp h
  obtain ⟨fields, -, h⟩ := Option.bind_eq_some_iff.mp h
  obtain ⟨field, -, h⟩ := Option.bind_eq_some_iff.mp h
  obtain ⟨text, -, h⟩ := Option.bind_eq_some_iff.mp h
  split_ifs at h with hvalid
  cases h
  exact ⟨hvalid, Option.isSome_iff_exists.mp (setCookieIntact hvalid).1⟩

/-- The cookie that sign-in sets is the documented one. -/
lemma signInCookie_eq_documented (npsso : Secret) :
    signInCookie npsso = documentedSignInCookie npsso := by
  unfold signInCookie documentedSignInCookie
  rfl

/-- What sign-in answers. -/
lemma documents_signInRoute (server : Server) (request : HttpRequest) :
    Operation.signIn.Documents (request.postedNpsso server) (signInRoute server request) := by
  unfold Operation.Documents signInRoute HttpRequest.postedNpsso
  cases request.body with
  | error rejection =>
    right
    cases rejection with
    | tooLarge => exact isProblem_intoResponse (Problem.isPublic_new _) (by decide)
    | unreadable => exact isProblem_intoResponse (Problem.isPublic_new _) (by decide)
  | ok body =>
    dsimp only
    split_ifs with hmedia
    · exact Or.inr (isProblem_intoResponse (Problem.isPublic_new _) (by decide))
    · cases hnpsso : npssoFromBody server.fromSlice body with
      | none => exact Or.inr (isProblem_intoResponse (Problem.isPublic_new _) (by decide))
      | some npsso =>
        dsimp only
        cases server.services.verifyNpsso npsso with
        | error error =>
          right
          have hproblem := isProblem_intoResponse (Problem.isPublic_ofAccountError error)
            (code_ofAccountError error)
          exact hproblem.mono (by decide)
        | ok accepted =>
          obtain ⟨value, hvalue⟩ := (exists_headerValue_signInCookie hnpsso).2
          dsimp only
          rw [hvalue]
          exact Or.inl ⟨npsso, hnpsso, by rw [signInCookie_eq_documented]; rfl⟩

/-- **What a handler answers** is documented. -/
theorem documents_handleOperation (server : Server) (request : HttpRequest) (segment : List Char)
    (operation : Operation) :
    operation.Documents (request.postedNpsso server)
      (handleOperation server request segment operation) := by
  cases operation with
  | listNewGames => exact (documents_pageRoute _ _).imp id fun h => h.mono (by decide)
  | listUpcomingGames => exact (documents_pageRoute _ _).imp id fun h => h.mono (by decide)
  | listDiscountedGames => exact (documents_pageRoute _ _).imp id fun h => h.mono (by decide)
  | listMonthlyGames => exact (documents_pageRoute _ _).imp id fun h => h.mono (by decide)
  | listPurchasedGames => exact (documents_signedInRoute _ _).imp id fun h => h.mono (by decide)
  | listWishlistGames => exact (documents_signedInRoute _ _).imp id fun h => h.mono (by decide)
  | searchGames => exact (documents_searchRoute _ _).imp id fun h => h.mono (by decide)
  | listGenres =>
    exact (respond_cases Problem.isPublic_ofUpstreamError code_ofUpstreamError _).imp id
      fun h => h.mono (by decide)
  | browseGames => exact (documents_browseRoute _ _).imp id fun h => h.mono (by decide)
  | getGame => exact (documents_gameRoute _ _).imp id fun h => h.mono (by decide)
  | signIn => exact documents_signInRoute server request
  | signOut => exact Or.inl rfl

/-- The routes that a documented request reaches. -/
lemma exists_handleOperation {server : Server} {request : HttpRequest} {operation : Operation}
    (h : request.operation? = some operation) :
    ∃ segment, handle server (trimTrailingSlash request) =
      handleOperation server (trimTrailingSlash request) segment operation := by
  obtain ⟨route, hroute, hoperation⟩ := Option.bind_eq_some_iff.mp h
  refine ⟨route.segment, ?_⟩
  unfold handle
  rw [show (trimTrailingSlash request).path = trimPath request.path from rfl, hroute]
  exact handleRoute_of_operation server hoperation

/-- Every documented route can answer the contained panic. -/
lemma internalError_mem_problems (operation : Operation) :
    ProblemCode.internalError ∈ operation.problems := by
  cases operation <;> decide

/-- **The answer to a documented request** is documented. -/
theorem documents_app (server : Server) {request : HttpRequest} {operation : Operation}
    (h : request.operation? = some operation) :
    operation.Documents (request.postedNpsso server) (app server request).response := by
  show operation.Documents _ (contained server (trimTrailingSlash request))
  unfold contained
  split_ifs with hpanic
  · exact Or.inr (isProblem_intoResponse (Problem.isPublic_new _)
      (internalError_mem_problems operation))
  · obtain ⟨segment, hhandle⟩ := @exists_handleOperation server _ _ h
    rw [hhandle]
    exact documents_handleOperation _ _ _ _

/-! ## Every documented answer occurs -/

/-- The code of a failure. -/
def Response.code? (response : Response Payload) : Option ProblemCode :=
  match response.body with
  | .error problem => some problem.code
  | .ok _ => none

/-- The upstream failure of a code. -/
def sampleUpstreamError : ProblemCode → UpstreamError
  | .upstreamQueryRotated => .queryRotated "" ""
  | .upstreamRateLimited => .rateLimited "" none
  | _ => .unavailable ""

/-- The failure of a signed-in request with a code. -/
def sampleAccountError (code : ProblemCode) : AccountError :=
  if code = .sessionRejected then .sessionRejected "" else .upstream (sampleUpstreamError code)

/-- A card. -/
def sampleGame : Game where
  id := ⟨"concept", by decide⟩
  name := ""
  date := ""
  url := ""
  price := ""
  originalPrice := ""
  discountText := ""
  discountDate := ""
  screenshots := []
  videos := []
  genres := []
  description := ""
  studio := ""
  preOrder := false
  plusUpsellText := none
  plusOffer := none
  idKind := .concept

/-- A result that succeeds, or fails with the failure of a code. -/
def sampleResult {ε α : Type} (failure : ProblemCode → ε) (value : α) :
    Option ProblemCode → Except ε α
  | none => .ok value
  | some code => .error (failure code)

/-- The services that succeed, or all fail with the failure of a code. -/
def sampleServices (outcome : Option ProblemCode) : Services where
  newGames := fun _ => sampleResult sampleUpstreamError ⟨[], 0, none⟩ outcome
  upcomingGames := fun _ => sampleResult sampleUpstreamError ⟨[], 0, none⟩ outcome
  discountedGames := fun _ => sampleResult sampleUpstreamError ⟨[], 0, none⟩ outcome
  monthlyGames := fun _ => sampleResult sampleUpstreamError ⟨[], 0, none⟩ outcome
  searchGames := fun _ _ => sampleResult sampleUpstreamError ⟨[], 0, none⟩ outcome
  genres := sampleResult sampleUpstreamError [] outcome
  browseGames := fun _ _ _ => sampleResult sampleUpstreamError ⟨[], 0, none⟩ outcome
  gameById := fun id => sampleResult (fun code =>
    if code = .gameNotFound then .notFound id else .upstream (sampleUpstreamError code))
    sampleGame outcome
  scoreFor := fun _ => none
  verifyNpsso := fun _ => sampleResult sampleAccountError () outcome
  purchasedGames := fun _ => sampleResult sampleAccountError ⟨[], 0, none⟩ outcome
  wishlistGames := fun _ => sampleResult sampleAccountError ⟨[], 0, none⟩ outcome

/-- The server in front of these services, without a build. -/
def sampleServer (outcome : Option ProblemCode) : Server where
  services := sampleServices outcome
  site := {
    serveAssets := fun _ => ⟨404, [], []⟩
    serveRoot := fun _ => ⟨404, [], []⟩
    serveIndex := fun _ => ⟨404, [], []⟩
    indexIsFile := false }
  build := { version := "", commit := "" }
  fromSlice := fun body => (fromUtf8 body).bind Json.read
  panics := fun _ => outcome = some .internalError

/-- The method and the path of a documented route. -/
def Operation.endpoint : Operation → Method × List Char
  | .listNewGames => (.get, "/api/games/new".toList)
  | .listUpcomingGames => (.get, "/api/games/upcoming".toList)
  | .listDiscountedGames => (.get, "/api/games/discounted".toList)
  | .listMonthlyGames => (.get, "/api/games/monthly".toList)
  | .listPurchasedGames => (.get, "/api/games/purchased".toList)
  | .listWishlistGames => (.get, "/api/games/wishlist".toList)
  | .searchGames => (.get, "/api/games/search".toList)
  | .listGenres => (.get, "/api/games/genres".toList)
  | .browseGames => (.get, "/api/games/browse".toList)
  | .getGame => (.get, "/api/games/concept".toList)
  | .signIn => (.post, "/api/session".toList)
  | .signOut => (.delete, "/api/session".toList)

/-- A valid request for a route, or one that the outcome makes invalid. -/
def sampleRequest (operation : Operation) (outcome : Option ProblemCode) : HttpRequest where
  method := operation.endpoint.1
  path :=
    if operation = .getGame ∧ outcome = some .invalidRequest then "/api/games/%20".toList
    else operation.endpoint.2
  query :=
    if outcome = some .invalidRequest then some "size=0"
    else
      match operation with
      | .searchGames => some "q=a"
      | .browseGames => some "genre=ACTION&order=newest"
      | _ => none
  cookies := if outcome = some .sessionRejected then [] else [asciiBytes "npsso=synthetic"]
  contentType :=
    if outcome = some .unsupportedMediaType then some (asciiBytes "text/plain") else none
  accept := none
  body :=
    if outcome = some .payloadTooLarge then .error .tooLarge
    else if outcome = some .invalidRequest then .ok []
    else .ok (asciiBytes "\x7b\"npsso\":\"abcdefgh01234567\"\x7d")

/-- The request is one for the route. -/
lemma operation?_sampleRequest (operation : Operation) (outcome : Option ProblemCode) :
    (sampleRequest operation outcome).operation? = some operation := by
  unfold HttpRequest.operation? sampleRequest
  dsimp only
  by_cases houtcome : operation = .getGame ∧ outcome = some .invalidRequest
  · rw [if_pos houtcome, houtcome.1]
    decide +kernel
  · rw [if_neg houtcome]
    cases operation <;> decide +kernel

/-- **A route answers exactly what its annotation documents.** Whatever the services answer,
whatever the request holds, and even where the handling panics, the answer to a request for a
documented route is its documented success or a failure with a documented code, the status of this
code and nothing of the request; and the success and every one of the codes are answered to some
request. The success of sign-in sets the cookie with the NPSSO of the request and its attributes,
the success of sign-out clears it, and no other success sets a cookie.

**Proof sketch.** `documents_app` goes through the handlers: each is a service behind the checks of
its arguments, and the check, the service and the panic fail with codes of the annotation alone. For
the other direction a sample server and a sample request bring about each code, by computation. -/
theorem documented_answers (operation : Operation) :
    (∀ (server : Server) (request : HttpRequest), request.operation? = some operation →
      operation.Succeeds (request.postedNpsso server) (app server request).response ∨
        (app server request).response.IsProblem operation.problems) ∧
    (∃ (server : Server) (request : HttpRequest), request.operation? = some operation ∧
      operation.Succeeds (request.postedNpsso server) (app server request).response) ∧
    ∀ code ∈ operation.problems, ∃ (server : Server) (request : HttpRequest),
      request.operation? = some operation ∧
        (app server request).response.code? = some code := by
  refine ⟨fun server request h => documents_app server h, ?_, ?_⟩
  · refine ⟨sampleServer none, sampleRequest operation none,
      operation?_sampleRequest operation none, ?_⟩
    rcases documents_app (sampleServer none) (operation?_sampleRequest operation none) with h | h
    · exact h
    · obtain ⟨problem, hbody, -⟩ := h
      have hcode : (app (sampleServer none) (sampleRequest operation none)).response.code? =
          some problem.code := by
        unfold Response.code?
        rw [hbody]
      have hnone : (app (sampleServer none) (sampleRequest operation none)).response.code? =
          none := by
        cases operation <;> decide +kernel
      rw [hnone] at hcode
      cases hcode
  · intro code hcode
    refine ⟨sampleServer (some code), sampleRequest operation (some code),
      operation?_sampleRequest operation (some code), ?_⟩
    have hall : ∀ code ∈ operation.problems,
        (app (sampleServer (some code)) (sampleRequest operation (some code))).response.code? =
          some code := by
      cases operation <;> decide +kernel
    exact hall code hcode

/-! ## The boundary of the API -/

/-- A success has no code. -/
lemma Operation.Succeeds.code? {operation : Operation} {posted : Option Secret}
    {response : Response Payload} (h : operation.Succeeds posted response) :
    response.code? = none := by
  unfold Response.code?
  cases operation with
  | listGenres => obtain ⟨genres, rfl⟩ := h; rfl
  | getGame => obtain ⟨detail, rfl⟩ := h; rfl
  | signIn => obtain ⟨npsso, -, rfl⟩ := h; rfl
  | signOut => obtain rfl := h; rfl
  | _ => obtain ⟨page, rfl⟩ := h; rfl

/-- A failure has one of its codes. -/
lemma Response.IsProblem.code? {codes : List ProblemCode} {response : Response Payload}
    (h : response.IsProblem codes) : ∃ code ∈ codes, response.code? = some code := by
  obtain ⟨problem, hbody, -, -, hcode⟩ := h
  refine ⟨problem.code, hcode, ?_⟩
  unfold Response.code?
  rw [hbody]

/-- A documented answer is no file and no `not_found`. -/
lemma Operation.Documents.spec {operation : Operation} {posted : Option Secret}
    {response : Response Payload} (h : operation.Documents posted response) :
    response.code? ≠ some .notFound ∧ ∀ answer, response.body ≠ .ok (.file answer) := by
  rcases h with hsuccess | hproblem
  · rw [hsuccess.code?]
    refine ⟨nofun, ?_⟩
    intro answer hbody
    cases operation with
    | listGenres => obtain ⟨genres, rfl⟩ := hsuccess; cases hbody
    | getGame => obtain ⟨detail, rfl⟩ := hsuccess; cases hbody
    | signIn => obtain ⟨npsso, -, rfl⟩ := hsuccess; cases hbody
    | signOut => obtain rfl := hsuccess; cases hbody
    | _ => obtain ⟨page, rfl⟩ := hsuccess; cases hbody
  · obtain ⟨code, hcode, hread⟩ := hproblem.code?
    obtain ⟨problem, hbody, -⟩ := hproblem
    rw [hread, hbody]
    refine ⟨?_, nofun⟩
    intro h
    obtain rfl := Option.some.inj h
    have hall : ∀ operation : Operation, ProblemCode.notFound ∉ operation.problems := by
      intro operation
      cases operation <;> decide
    exact hall operation hcode

/-- An API path without a documented route for the method is not found. -/
lemma handle_of_undocumented {server : Server} {request : HttpRequest}
    (hpath : isApiPath request.path = true)
    (h : (matchRoute request.path).bind (Route.operation? request.method) = none) :
    handle server request = (Problem.new .notFound).intoResponse := by
  unfold handle
  cases hroute : matchRoute request.path with
  | none => exact if_pos hpath
  | some route =>
    rw [hroute, Option.bind_some] at h
    exact handleRoute_of_undocumented server ((isApiPath_of_matchRoute hroute).mp hpath) h

/-- The operational routes answer no problem and no file. -/
lemma operationalRoute_spec (method : Method) (body : Json.Value) :
    (operationalRoute method body).code? = none ∧
      ∀ answer, (operationalRoute method body).body ≠ .ok (.file answer) := by
  unfold operationalRoute
  split_ifs
  · exact ⟨rfl, nofun⟩
  · exact ⟨rfl, nofun⟩

/-- Outside the API no answer is a problem, and a file comes from the client build.

**Proof sketch.** A path that no route matches goes to the fallback, which answers a file of the
build or an empty 404. The routes outside the API are the operational ones, and none of these
answers a problem or a file. -/
lemma handle_of_not_api {server : Server} {request : HttpRequest}
    (hpath : isApiPath request.path = false) :
    (handle server request).code? = none ∧
      ∀ answer, (handle server request).body = .ok (.file answer) →
        server.site.respond request = some answer := by
  unfold handle
  cases hroute : matchRoute request.path with
  | none =>
    dsimp only
    unfold serveFallback
    rw [if_neg (by simp [hpath])]
    cases server.site.respond request with
    | none => exact ⟨rfl, nofun⟩
    | some found =>
      refine ⟨rfl, ?_⟩
      intro answer h
      cases h
      rfl
  | some route =>
    have hapi : ¬route.IsApi := by
      rw [← isApiPath_of_matchRoute hroute, hpath]
      decide
    have hoperational : ∃ body, handleRoute server request route =
        operationalRoute request.method body := by
      cases route with
      | healthz => exact ⟨_, rfl⟩
      | readyz => exact ⟨_, rfl⟩
      | version => exact ⟨_, rfl⟩
      | _ => exact absurd trivial hapi
    obtain ⟨body, hbody⟩ := hoperational
    dsimp only
    rw [hbody]
    obtain ⟨hcode, hfile⟩ := operationalRoute_spec request.method body
    exact ⟨hcode, fun answer h => absurd h (hfile answer)⟩

/-- Setting another header leaves a header as it is. -/
lemma filter_insert_of_ne {headers : HeaderMap} {name other : String} {value : List UInt8}
    (hne : other ≠ name) :
    (HeaderMap.insert headers other value).filter (fun header => header.1 = name) =
      headers.filter fun header => header.1 = name := by
  unfold HeaderMap.insert
  have hlast : [(other, value)].filter (fun header => header.1 = name) = [] := by simp [hne]
  rw [List.filter_append, List.filter_filter, hlast, List.append_nil]
  apply List.filter_congr
  intro header _
  by_cases hname : header.1 = name
  · simp [hname, hne.symm]
  · simp [hname]

/-- A header that is set stands there once. -/
lemma filter_insert_self (headers : HeaderMap) (name : String) (value : List UInt8) :
    (HeaderMap.insert headers name value).filter (fun header => header.1 = name) =
      [(name, value)] := by
  unfold HeaderMap.insert
  rw [List.filter_append, List.filter_filter]
  simp

/-- **Each security header** stands once in the headers, with its value. -/
lemma filter_addSecurityHeaders (headers : HeaderMap) {header : String × String}
    (h : header ∈ securityHeaders) :
    (addSecurityHeaders headers).filter (fun entry => entry.1 = header.1) =
      [(header.1, toUtf8 header.2.toList)] := by
  unfold addSecurityHeaders
  have hnodup : (securityHeaders.map Prod.fst).Nodup := by decide
  generalize securityHeaders = list at h hnodup
  induction list using List.reverseRec with
  | nil => cases h
  | append_singleton list last ih =>
    rw [List.foldl_append, List.foldl_cons, List.foldl_nil]
    rw [List.map_append, List.map_singleton, List.nodup_append] at hnodup
    obtain ⟨hlist, -, hne⟩ := hnodup
    rcases List.mem_append.mp h with hmem | hmem
    · have hother : last.1 ≠ header.1 :=
        (hne _ (List.mem_map_of_mem hmem) _ (List.mem_singleton_self _)).symm
      rw [filter_insert_of_ne hother]
      exact ih hmem hlist
    · obtain rfl := List.mem_singleton.mp hmem
      exact filter_insert_self _ _ _

/-- **The boundary of the API.** For every request, service and file answer, whatever panics:

* an API path answers `not_found` exactly where it is no documented route for the method and its
  handling does not panic;
* an API path is never answered from the client build, whatever the request accepts, and every other
  answer from the client build is the one of the static site to the trimmed path;
* a path outside the API answers a problem only where its handling panics;
* the answer has each security header once, in place of what a file service sent.

**Proof sketch.** The middleware keeps the answer and replaces the headers, so the parts are about
the handler. The router finds a documented route for a request or none; without one an API path goes
to the fallback, which asks the static site for the other paths alone. -/
theorem api_boundary (server : Server) (request : HttpRequest) :
    let reply := app server request
    let trimmed := trimTrailingSlash request
    (isApiPath trimmed.path = true →
      (reply.response.code? = some .notFound ↔
        request.operation? = none ∧ server.panics trimmed = false)) ∧
    (∀ answer, reply.response.body = .ok (.file answer) →
      isApiPath trimmed.path = false ∧ server.site.respond trimmed = some answer) ∧
    (isApiPath trimmed.path = false →
      (reply.response.code?.isSome = true ↔ server.panics trimmed = true)) ∧
    ∀ header ∈ securityHeaders, (reply.headers.filter fun entry => entry.1 = header.1) =
      [(header.1, toUtf8 header.2.toList)] := by
  intro reply trimmed
  have hresponse : reply.response = contained server trimmed := rfl
  refine ⟨?_, ?_, ?_, fun header h => filter_addSecurityHeaders _ h⟩
  · intro hpath
    rw [hresponse]
    unfold contained
    by_cases hpanic : server.panics trimmed = true
    · rw [if_pos hpanic, hpanic]
      exact iff_of_false nofun (fun h => by cases h.2)
    · rw [if_neg hpanic]
      cases hoperation : request.operation? with
      | none =>
        rw [handle_of_undocumented hpath hoperation]
        exact iff_of_true rfl ⟨rfl, by simpa using hpanic⟩
      | some operation =>
        obtain ⟨segment, hhandle⟩ := @exists_handleOperation server _ _ hoperation
        rw [hhandle]
        exact iff_of_false (documents_handleOperation _ _ _ _).spec.1 nofun
  · intro answer hbody
    rw [hresponse] at hbody
    unfold contained at hbody
    split_ifs at hbody with hpanic
    · cases hbody
    · cases hpath : isApiPath trimmed.path with
      | false => exact ⟨rfl, (handle_of_not_api hpath).2 answer hbody⟩
      | true =>
        cases hoperation : request.operation? with
        | none =>
          rw [handle_of_undocumented hpath hoperation] at hbody
          cases hbody
        | some operation =>
          obtain ⟨segment, hhandle⟩ := @exists_handleOperation server _ _ hoperation
          rw [hhandle] at hbody
          exact absurd hbody ((documents_handleOperation _ _ _ _).spec.2 answer)
  · intro hpath
    rw [hresponse]
    unfold contained
    by_cases hpanic : server.panics trimmed = true
    · rw [if_pos hpanic]
      exact iff_of_true rfl hpanic
    · rw [if_neg hpanic, (handle_of_not_api hpath).1]
      exact iff_of_false nofun hpanic

end PsStore
