import PsStore.Domain.Catalog
import PsStore.Domain.Js
import PsStore.Lib.FormUrlencoded
import PsStore.Sources.Transport

set_option relaxedAutoImplicit false
set_option autoImplicit false

/-!
# Requests and routes

The requests of `http/mod.rs` and the routes that the router finds for them. A path is the raw path
of the request line. The router of the framework prefers a route without parameter, and a parameter
is one segment that is not empty.

## Main definitions

* `HttpRequest`, `trimTrailingSlash` — a request, without its trailing slashes.
* `Operation` — the documented routes of the API.
* `Route`, `matchRoute` — the routes, and the route of a path.
* `isApiPath`, `assetsPath`, `hasExtension` — the paths of the fallback.

## Main results

* `matchRoute_gameById_iff` — the paths of the game pages.
* `isApiPath_of_matchRoute` — a route of the API has a path of the API.
-/

namespace PsStore

/-! ## Requests -/

/-- The method of a request. -/
inductive Method where
  | get
  | head
  | post
  | delete
  | other (name : String)
deriving DecidableEq

/-- A failure to read the body of a request. -/
inductive BytesRejection where
  | tooLarge
  | unreadable
deriving DecidableEq

/-- A request with the parts that the server reads. -/
structure HttpRequest where
  method : Method
  path : List Char
  query : Option String
  /-- The `Cookie` headers. -/
  cookies : List (List UInt8)
  contentType : Option (List UInt8)
  accept : Option (List UInt8)
  body : Except BytesRejection (List UInt8)

/-- A path without the slashes at its end. The root keeps its slash. -/
def trimPath (path : List Char) : List Char :=
  if path.length > 1 ∧ path.getLast? = some '/' then
    let trimmed := path.rdropWhile (· = '/')
    if trimmed = [] then ['/'] else trimmed
  else path

/-- Removes trailing slashes from the path, except from the root path. -/
def trimTrailingSlash (request : HttpRequest) : HttpRequest :=
  { request with path := trimPath request.path }

/-! ## Routes -/

/-- The documented routes of the API: a path and a method. -/
inductive Operation where
  | listNewGames
  | listUpcomingGames
  | listDiscountedGames
  | listMonthlyGames
  | listPurchasedGames
  | listWishlistGames
  | searchGames
  | listGenres
  | browseGames
  | getGame
  | signIn
  | signOut
deriving DecidableEq

/-- A route of the server. -/
inductive Route where
  | healthz
  | readyz
  | version
  /-- A list or the genre menu of the API. -/
  | games (operation : Operation)
  /-- A game page, with the raw segment of its id. -/
  | gameById (id : List Char)
  | session
deriving DecidableEq

/-- The routes without parameter. -/
def staticRoutes : List (List Char × Route) :=
  [("/healthz".toList, .healthz), ("/readyz".toList, .readyz), ("/version".toList, .version),
    ("/api/games/new".toList, .games .listNewGames),
    ("/api/games/upcoming".toList, .games .listUpcomingGames),
    ("/api/games/discounted".toList, .games .listDiscountedGames),
    ("/api/games/monthly".toList, .games .listMonthlyGames),
    ("/api/games/purchased".toList, .games .listPurchasedGames),
    ("/api/games/wishlist".toList, .games .listWishlistGames),
    ("/api/games/search".toList, .games .searchGames),
    ("/api/games/genres".toList, .games .listGenres),
    ("/api/games/browse".toList, .games .browseGames),
    ("/api/session".toList, .session)]

/-- The text behind a front, where the text starts with it. -/
def stripFront (front text : List Char) : Option (List Char) :=
  if front <+: text then some (text.drop front.length) else none

/-- The path of the game pages, before the id. -/
def gamePath : List Char := "/api/games/".toList

/-- The route of a path. -/
def matchRoute (path : List Char) : Option Route :=
  match staticRoutes.lookup path with
  | some route => some route
  | none =>
    match stripFront gamePath path with
    | some id => if id ≠ [] ∧ '/' ∉ id then some (.gameById id) else none
    | none => none

/-- The documented route of a method, where the path has a route of the API. The router answers HEAD
by the handler of GET, so HEAD has the route of GET. -/
def Route.operation? (method : Method) : Route → Option Operation
  | .healthz | .readyz | .version => none
  | .games operation => if method = .get ∨ method = .head then some operation else none
  | .gameById _ => if method = .get ∨ method = .head then some .getGame else none
  | .session =>
    match method with
    | .post => some .signIn
    | .delete => some .signOut
    | _ => none

/-- The documented route of a request. -/
def HttpRequest.operation? (request : HttpRequest) : Option Operation :=
  (matchRoute (trimPath request.path)).bind (Route.operation? request.method)

/-! ## The paths of the fallback -/

/-- True for `/api` and every path under it, at a segment boundary. -/
def isApiPath (path : List Char) : Bool :=
  match stripFront "/api".toList path with
  | some rest => rest = [] || rest.head? = some '/'
  | none => false

/-- The part of the path after `/assets`, or `none` for another path. -/
def assetsPath (path : List Char) : Option (List Char) := do
  let rest ← stripFront "/assets".toList path
  if rest = [] ∨ rest.head? = some '/' then some rest else none

/-- The last segment of a path. -/
def lastSegment (path : List Char) : List Char := path.rtakeWhile (· ≠ '/')

/-- True when the last path segment has an extension: a dot that is not the first character of the
segment. -/
def hasExtension (path : List Char) : Bool := '.' ∈ (lastSegment path).tail

/-! ## The segment of a game id -/

/-- The text of bytes, where they are UTF-8. -/
def fromUtf8 (bytes : List UInt8) : Option (List Char) :=
  if toUtf8 (fromUtf8Lossy bytes) = bytes then some (fromUtf8Lossy bytes) else none

/-- The text of a path segment, or `none` where its escapes are no UTF-8. -/
def pathParam (segment : List Char) : Option (List Char) :=
  fromUtf8 (FormUrlencoded.percentDecode (toUtf8 segment))

/-- The game id of a path: trimmed and not empty. -/
def GameId.fromPath (raw : List Char) : Option GameId :=
  if h : jsTrim raw = [] then none
  else some {
    text := String.ofList (jsTrim raw)
    nonempty := by
      intro hempty
      exact h (by simpa using congrArg String.toList hempty) }

/-! ## Facts about paths -/

/-- A path without a slash at its end stays as it is. -/
lemma trimPath_eq_self {path : List Char} (h : path.getLast? ≠ some '/') : trimPath path = path :=
  if_neg fun hpath => h hpath.2

/-- A front that is stripped stands there. -/
lemma stripFront_eq_some_iff {front text rest : List Char} :
    stripFront front text = some rest ↔ text = front ++ rest := by
  unfold stripFront
  constructor
  · intro h
    split_ifs at h with hfront
    obtain ⟨tail, rfl⟩ := hfront
    rw [List.drop_left, Option.some.injEq] at h
    rw [h]
  · rintro rfl
    rw [if_pos (List.prefix_append front rest), List.drop_left]

/-- The path of a route without parameter. -/
lemma mem_staticRoutes {path : List Char} {route : Route}
    (h : staticRoutes.lookup path = some route) : (path, route) ∈ staticRoutes := by
  obtain ⟨front, back, hlist, -⟩ := List.lookup_eq_some_iff.mp h
  rw [hlist]
  simp

/-- The path of a game page.

**Proof sketch.** No static route is one of a game. Where the path is none of them, the match strips
the prefix, and takes a rest that is one segment. -/
lemma matchRoute_gameById_iff {path id : List Char} :
    matchRoute path = some (.gameById id) ↔
      path = gamePath ++ id ∧ id ≠ [] ∧ '/' ∉ id ∧ staticRoutes.lookup path = none := by
  unfold matchRoute
  cases hlookup : staticRoutes.lookup path with
  | some route =>
    have hall : ∀ entry ∈ staticRoutes, ∀ id, entry.2 ≠ .gameById id := by
      intro entry hentry id hgame
      have hstatic : ∀ entry ∈ staticRoutes,
          (match entry.2 with | .gameById _ => true | _ => false) = false := by decide
      have := hstatic entry hentry
      rw [hgame] at this
      cases this
    constructor
    · intro h
      exact absurd (Option.some.inj h) (hall _ (mem_staticRoutes hlookup) id)
    · intro h
      exact absurd h.2.2.2 nofun
  | none =>
    dsimp only
    cases hstrip : stripFront gamePath path with
    | none =>
      constructor
      · nofun
      · rintro ⟨rfl, -⟩
        rw [stripFront_eq_some_iff.mpr rfl] at hstrip
        cases hstrip
    | some rest =>
      rw [stripFront_eq_some_iff] at hstrip
      dsimp only
      constructor
      · intro h
        split_ifs at h with hrest
        cases h
        exact ⟨hstrip, hrest.1, hrest.2, rfl⟩
      · rintro ⟨hpath, hne, hslash, -⟩
        obtain rfl : rest = id := List.append_cancel_left (hstrip.symm.trans hpath)
        rw [if_pos ⟨hne, hslash⟩]

/-- A path behind the prefix of the API is a path of the API. -/
lemma isApiPath_append {rest : List Char} (h : rest.head? = some '/') :
    isApiPath ("/api".toList ++ rest) = true := by
  unfold isApiPath
  rw [stripFront_eq_some_iff.mpr rfl]
  simp [h]

/-- The routes of the API. -/
def Route.IsApi : Route → Prop
  | .healthz | .readyz | .version => False
  | _ => True

/-- **A route of the API** has a path of the API.

**Proof sketch.** The fixed paths are checked one by one, and the path of a game page begins like an
API path (`isApiPath_append`). -/
theorem isApiPath_of_matchRoute {path : List Char} {route : Route}
    (h : matchRoute path = some route) : isApiPath path = true ↔ route.IsApi := by
  unfold matchRoute at h
  cases hlookup : staticRoutes.lookup path with
  | some found =>
    rw [hlookup] at h
    obtain rfl := Option.some.inj h
    have hall : ∀ entry ∈ staticRoutes, isApiPath entry.1 =
        match entry.2 with | .healthz | .readyz | .version => false | _ => true := by decide
    have hpath := hall _ (mem_staticRoutes hlookup)
    dsimp only at hpath
    rw [hpath]
    cases found <;> simp [Route.IsApi]
  | none =>
    rw [hlookup] at h
    dsimp only at h
    cases hstrip : stripFront gamePath path with
    | none => rw [hstrip] at h; cases h
    | some rest =>
      rw [hstrip] at h
      dsimp only at h
      split_ifs at h
      cases h
      rw [stripFront_eq_some_iff] at hstrip
      refine iff_of_true ?_ trivial
      rw [hstrip]
      exact @isApiPath_append ("/games/".toList ++ rest) rfl

end PsStore
