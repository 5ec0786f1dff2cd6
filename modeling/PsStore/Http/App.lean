import PsStore.Domain.Payload
import PsStore.Http.Params
import PsStore.Http.Session
import PsStore.Http.StaticSite

set_option relaxedAutoImplicit false
set_option autoImplicit false

/-!
# The server

The handlers of `http/games.rs`, `http/session.rs` and `http/probes.rs` behind the router of
`http/mod.rs`. The services are fields of the server: what they answer to a request is any answer,
and the handling of a request may panic. The body of a `HEAD` answer is the body of the `GET`
answer.

## Main definitions

* `Services`, `Server` — what the handlers use.
* `handle` — the answer of the router to a request.
* `app` — the server: the router behind the trimming of the path, the containment of a panic, and
  the security headers.

## Main results

* `handleRoute_of_operation` — a documented route is answered by its handler.
* `handleRoute_of_undocumented` — another method on an API path answers a 404.
-/

namespace PsStore

open Json

/-! ## The server -/

/-- The build identity. -/
structure BuildInfo where
  version : String
  commit : String

/-- The services behind the routes. -/
structure Services where
  newGames : Page → Except UpstreamError PageResult
  upcomingGames : Page → Except UpstreamError PageResult
  discountedGames : Page → Except UpstreamError PageResult
  monthlyGames : Page → Except UpstreamError PageResult
  searchGames : List Char → Page → Except UpstreamError PageResult
  genres : Except UpstreamError (List Genre)
  browseGames : GenreKey → BrowseOrder → Page → Except UpstreamError PageResult
  gameById : GameId → Except GameLookupError Game
  scoreFor : Game → Option CriticScore
  verifyNpsso : Secret → Except AccountError Unit
  purchasedGames : Secret → Except AccountError PageResult
  wishlistGames : Secret → Except AccountError PageResult

/-- The server. -/
structure Server where
  services : Services
  site : StaticSite
  build : BuildInfo
  /-- The JSON parser. -/
  fromSlice : List UInt8 → Option Value
  /-- The handling of the request panics. -/
  panics : HttpRequest → Bool

/-- The body of a success. -/
inductive Payload where
  | page (page : PageResult)
  | genres (genres : List Genre)
  | game (detail : GameDetail)
  /-- The answer of an operational route. -/
  | operational (body : Value)
  | noContent
  /-- An empty 404. -/
  | empty
  | file (answer : FileAnswer)

/-! ## The handlers -/

/-- The answer of a result. -/
def respond {ε α : Type} (toProblem : ε → Problem) (payload : α → Payload) (result : Except ε α) :
    Response Payload :=
  match result with
  | .ok value => .json (payload value)
  | .error error => (toProblem error).intoResponse

/-- The problem of an invalid query parameter or path segment. -/
def Problem.ofInvalid : InvalidRequest → Problem
  | .invalid => .new .invalidRequest

/-- The text of an order. -/
def BrowseOrder.asStr : BrowseOrder → String
  | .bestSelling => "best-selling"
  | .mostDownloaded => "most-downloaded"
  | .newest => "newest"
  | .oldest => "oldest"
  | .nameAsc => "name-asc"
  | .nameDesc => "name-desc"

/-- Every order. -/
def BrowseOrder.all : List BrowseOrder :=
  [.bestSelling, .mostDownloaded, .newest, .oldest, .nameAsc, .nameDesc]

/-- The order of a text. -/
def BrowseOrder.parse (value : String) : Option BrowseOrder :=
  all.find? fun order => order.asStr == value

/-- The genre key of a text. -/
def GenreKey.parse (value : String) : Option GenreKey :=
  if h : isGenreKey value = true then some ⟨value, h⟩ else none

/-- `genre` (a Sony genre key, not trimmed), `order` (an API order key), `offset`, and `size`. -/
def browse (raw : Option String) : Except InvalidRequest (GenreKey × BrowseOrder × Page) := do
  let query := Query.parse raw
  match (← query.single "genre").bind GenreKey.parse with
  | none => .error .invalid
  | some genre =>
    match (← query.single "order").bind BrowseOrder.parse with
    | none => .error .invalid
    | some order =>
      let page ← query.page
      .ok (genre, order, page)

/-- A list of one page. -/
def pageRoute (service : Page → Except UpstreamError PageResult) (query : Option String) :
    Response Payload :=
  match pagination query with
  | .error error => (Problem.ofInvalid error).intoResponse
  | .ok page => respond .ofUpstreamError .page (service page)

/-- A search of all PS5 games. -/
def searchRoute (services : Services) (query : Option String) : Response Payload :=
  match search query with
  | .error error => (Problem.ofInvalid error).intoResponse
  | .ok (term, page) => respond .ofUpstreamError .page (services.searchGames term page)

/-- The PS5 games of one genre in one order. -/
def browseRoute (services : Services) (query : Option String) : Response Payload :=
  match browse query with
  | .error error => (Problem.ofInvalid error).intoResponse
  | .ok (genre, order, page) =>
    respond .ofUpstreamError .page (services.browseGames genre order page)

/-- The game page: the game and its critic score. -/
def gameRoute (services : Services) (segment : List Char) : Response Payload :=
  match (pathParam segment).bind GameId.fromPath with
  | none => (Problem.ofInvalid .invalid).intoResponse
  | some id =>
    respond .ofGameLookupError (fun game => .game ⟨game, services.scoreFor game⟩)
      (services.gameById id)

/-- A signed-in list. Without a usable cookie the route answers 401. -/
def signedInRoute (service : Secret → Except AccountError PageResult)
    (cookies : List (List UInt8)) : Response Payload :=
  match npssoFromCookie cookies with
  | none => (Problem.ofAccountError (.sessionRejected "Not signed in")).intoResponse
  | some npsso => expireCookieOnRejection (respond .ofAccountError .page (service npsso))

/-- The media type of the request body without parameters, in lower case. -/
def mediaType (contentType : Option (List UInt8)) : Option (List Char) := do
  let value := (headerText (← contentType)).getD []
  let media := trimText (value.takeWhile (· ≠ ';'))
  if media = [] then none else some (media.map Char.toLower)

/-- The NPSSO of a JSON body. Other keys are ignored. -/
def npssoFromBody (fromSlice : List UInt8 → Option Value) (body : List UInt8) : Option Secret := do
  let value ← fromSlice body
  let npsso ← (← (← value.asObject).get "npsso").asString
  if isValidNpsso npsso = true then some { expose := npsso } else none

/-- A body over the body limit is a 413. Any other failure to read the body is a 400. -/
def Problem.ofBytesRejection : BytesRejection → Problem
  | .tooLarge => .new .payloadTooLarge
  | .unreadable => .new .invalidRequest

/-- Exchanges the NPSSO with Sony once and sets the cookie only after Sony accepted it. -/
def signInRoute (server : Server) (request : HttpRequest) : Response Payload :=
  match request.body with
  | .error rejection => (Problem.ofBytesRejection rejection).intoResponse
  | .ok body =>
    if (mediaType request.contentType).any (· ≠ "application/json".toList) then
      (Problem.new .unsupportedMediaType).intoResponse
    else
      match npssoFromBody server.fromSlice body with
      | none => (Problem.new .invalidRequest).intoResponse
      | some npsso =>
        match server.services.verifyNpsso npsso with
        | .ok () =>
          match headerValueFromStr (signInCookie npsso) with
          | some _ => { status := 204, setCookie := [signInCookie npsso], body := .ok .noContent }
          | none => (Problem.new .internalError).intoResponse
        | .error error => (Problem.ofAccountError error).intoResponse

/-- Clears the cookie. It makes no Sony call. -/
def signOutRoute : Response Payload :=
  { status := 204, setCookie := [expiredCookie], body := .ok .noContent }

/-- The handler of a documented route. -/
def handleOperation (server : Server) (request : HttpRequest) (segment : List Char) :
    Operation → Response Payload
  | .listNewGames => pageRoute server.services.newGames request.query
  | .listUpcomingGames => pageRoute server.services.upcomingGames request.query
  | .listDiscountedGames => pageRoute server.services.discountedGames request.query
  | .listMonthlyGames => pageRoute server.services.monthlyGames request.query
  | .listPurchasedGames => signedInRoute server.services.purchasedGames request.cookies
  | .listWishlistGames => signedInRoute server.services.wishlistGames request.cookies
  | .searchGames => searchRoute server.services request.query
  | .listGenres => respond .ofUpstreamError .genres server.services.genres
  | .browseGames => browseRoute server.services request.query
  | .getGame => gameRoute server.services segment
  | .signIn => signInRoute server request
  | .signOut => signOutRoute

/-! ## The router -/

/-- An empty 404. -/
def notFoundResponse : Response Payload := { status := 404, setCookie := [], body := .ok .empty }

/-- An operational route. Another method answers an empty 404. -/
def operationalRoute (method : Method) (body : Value) : Response Payload :=
  if method = .get ∨ method = .head then .json (.operational body) else notFoundResponse

/-- Any path that no route matches: a 404 for an API path, the client build for every other. -/
def serveFallback (server : Server) (request : HttpRequest) : Response Payload :=
  if isApiPath request.path then (Problem.new .notFound).intoResponse
  else
    match server.site.respond request with
    | some answer => { status := answer.status, setCookie := [], body := .ok (.file answer) }
    | none => notFoundResponse

/-- The raw segment of the id in the path of a game page. -/
def Route.segment : Route → List Char
  | .gameById id => id
  | _ => []

/-- The answer of a route. Another method on a documented path answers a 404. -/
def handleRoute (server : Server) (request : HttpRequest) (route : Route) : Response Payload :=
  match route with
  | .healthz => operationalRoute request.method (.object [("ok", .bool true)])
  | .readyz => operationalRoute request.method (.object [("ready", .bool true)])
  | .version =>
    operationalRoute request.method (.object [("version", .string server.build.version),
      ("commit", .string server.build.commit)])
  | .games _ | .gameById _ | .session =>
    match route.operation? request.method with
    | some operation => handleOperation server request route.segment operation
    | none => (Problem.new .notFound).intoResponse

/-- A documented route is answered by its handler. -/
lemma handleRoute_of_operation (server : Server) {request : HttpRequest} {route : Route}
    {operation : Operation} (h : route.operation? request.method = some operation) :
    handleRoute server request route = handleOperation server request route.segment operation := by
  cases route with
  | healthz => cases h
  | readyz => cases h
  | version => cases h
  | games listed => simp only [handleRoute, h]
  | gameById id => simp only [handleRoute, h]
  | session => simp only [handleRoute, h]

/-- A route of the API with another method answers a 404. -/
lemma handleRoute_of_undocumented (server : Server) {request : HttpRequest} {route : Route}
    (hapi : route.IsApi) (h : route.operation? request.method = none) :
    handleRoute server request route = (Problem.new .notFound).intoResponse := by
  cases route with
  | healthz => exact absurd hapi id
  | readyz => exact absurd hapi id
  | version => exact absurd hapi id
  | games listed => simp only [handleRoute, h]
  | gameById id => simp only [handleRoute, h]
  | session => simp only [handleRoute, h]

/-- The answer of the router. -/
def handle (server : Server) (request : HttpRequest) : Response Payload :=
  match matchRoute request.path with
  | some route => handleRoute server request route
  | none => serveFallback server request

/-! ## The middleware -/

/-- The policy of every response. -/
def contentSecurityPolicy : String :=
  "default-src 'self'; script-src 'self'; style-src 'self'; " ++
    "img-src 'self' https://image.api.playstation.com; " ++
    "media-src 'self' https://vulcan.dl.playstation.net; connect-src 'self'; font-src 'self'; " ++
    "object-src 'none'; base-uri 'self'; form-action 'self'; frame-ancestors 'none'"

/-- The security headers of every response. -/
def securityHeaders : List (String × String) :=
  [("content-security-policy", contentSecurityPolicy), ("x-content-type-options", "nosniff"),
    ("referrer-policy", "strict-origin-when-cross-origin"), ("x-frame-options", "DENY"),
    ("cross-origin-opener-policy", "same-origin")]

/-- Sets the security headers. -/
def addSecurityHeaders (headers : HeaderMap) : HeaderMap :=
  securityHeaders.foldl (fun headers header =>
    HeaderMap.insert headers header.1 (toUtf8 header.2.toList)) headers

/-- An answer with its headers. -/
structure HttpReply where
  response : Response Payload
  /-- The headers other than `Set-Cookie`. -/
  headers : HeaderMap

/-- The headers of an answer, before the security headers. -/
def Response.headers (response : Response Payload) : HeaderMap :=
  match response.body with
  | .error _ => [("content-type", toUtf8 "application/problem+json".toList)]
  | .ok (.file answer) => answer.headers
  | .ok .noContent | .ok .empty => []
  | .ok _ => [("content-type", toUtf8 "application/json".toList)]

/-- Contains a panic as the `internal_error` problem. -/
def contained (server : Server) (request : HttpRequest) : Response Payload :=
  if server.panics request then (Problem.new .internalError).intoResponse
  else handle server request

/-- The server: the answer to a request. -/
def app (server : Server) (request : HttpRequest) : HttpReply :=
  let response := contained server (trimTrailingSlash request)
  { response, headers := addSecurityHeaders response.headers }

end PsStore
