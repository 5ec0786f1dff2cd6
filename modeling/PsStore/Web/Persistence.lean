import PsStore.Client.Requests
import PsStore.Lib.Transition

set_option relaxedAutoImplicit false
set_option autoImplicit false

/-!
# What reaches the storage of the browser

`main.tsx` stores the queries that `modules/persistence.ts` selects. The query client is a library:
what it makes of the outcomes of a query, of the user and of the clock is a parameter, which sees
one query at a time. The tabs of a browser share one storage; calls of every tab are sent, served
and answered in any order, and a sign-in or a sign-out is one of them.

`main.tsx` says nothing of the mutations, and the library then stores those that wait for the
network, with their variables. So a sign-in that the user submits without a network is stored with
its NPSSO, which `STACK.md` rules out.

## Main definitions

* `Web.queryKey`, `Web.shouldDehydrateQuery` — the query of a call, and the queries that are stored.
* `Web.QueryRules` — the library.
* `Web.Waiting`, `Web.Storage` — a mutation that waits for the network, and what is stored.
* `Web.Profile`, `Web.profileSystem` — the tabs and the storage of a browser, and their runs.
* `Web.redact` — an event as it is in a browser without cookies and without an NPSSO.

## Main results

* `Web.response_of_anonymous` — what the server answers to a call of a stored query does not depend
  on the cookies.
* `Web.persisted_anonymous` — the storage is the one of a browser that was never signed in, but for
  the NPSSO of a sign-in that waits for the network.
-/

namespace PsStore

namespace Web

open Client Json

/-! ## The queries -/

/-- The key of a query. -/
abbrev QueryKey := List JsString

/-- A text in a key. -/
def keyText (text : String) : JsString := toUtf16 text.toList

/-- The query that a call belongs to. A sign-in and a sign-out are mutations. -/
def queryKey : Client.Call → Option QueryKey
  | .fetchNewGames _ _ => some [keyText "games", keyText "new"]
  | .fetchUpcomingGames _ _ => some [keyText "games", keyText "upcoming"]
  | .fetchDiscountedGames _ _ => some [keyText "games", keyText "discounted"]
  | .fetchMonthlyGames _ _ => some [keyText "games", keyText "monthly"]
  | .fetchSearchGames term _ _ => some [keyText "search", term]
  | .fetchGenres => some [keyText "genres"]
  | .fetchBrowseGames genre order _ _ => some [keyText "browse", genre, keyText order.asStr]
  | .fetchGame gameId => some [keyText "game", gameId]
  | .fetchPurchasedGames => some [keyText "purchased"]
  | .fetchWishlistGames => some [keyText "wishlist"]
  | .signIn _ | .signOut => none

/-- Only anonymous Sony payload caches reach the storage. -/
def shouldDehydrateQuery (key : QueryKey) : Bool :=
  key.head? = some (keyText "games") || key.head? = some (keyText "game")

/-- `SIGNED_IN_QUERY_KEYS`. -/
def signedInQueryKeys : List QueryKey := [[keyText "purchased"], [keyText "wishlist"]]

/-- The names of the signed-in lists under the path of the game pages. -/
def signedInNames : List (List Char) := ["purchased".toList, "wishlist".toList]

/-- The keys of the game pages whose request goes to a signed-in list. -/
def collidingKeys : List QueryKey := signedInNames.map fun name => [keyText "game", toUtf16 name]

/-- The queries whose answers may depend on the cookies. -/
def privateKeys : List QueryKey := signedInQueryKeys ++ collidingKeys

/-- A call whose answer does not depend on the cookies. -/
def IsAnonymous (call : Client.Call) : Prop := ∃ key, queryKey call = some key ∧ key ∉ privateKeys

/-! ## The tabs of a browser -/

variable {Q S : Type}

/-- The query client: the states of one query, absent before its first fetch and after its removal.
It is given the outcomes of the calls of the query, and the signals of the page, of the user and of
the clock. -/
structure QueryRules (Q S : Type) where
  settle : Client.Call → Except Failure (Option Value) → Option Q → Option Q
  signal : S → Option Q → Option Q

/-- A call in flight. -/
structure Flight where
  call : Client.Call
  request : HttpRequest
  /-- The answer of the server. -/
  reply : Option (Response Payload)

/-- A mutation that waits for the network: its call, and whether it has its function. A mutation
from the storage has none. -/
structure Waiting where
  call : Client.Call
  runs : Bool

/-- A tab: its calls in flight, the mutations that wait for the network, and its queries. -/
structure Tab (Q : Type) where
  flights : ℕ → Option Flight
  waiting : ℕ → Option Waiting
  cache : QueryKey → Option Q

/-- What is stored: the states of queries, and the calls of mutations with their variables. -/
structure Storage (Q : Type) where
  queries : QueryKey → Option Q
  mutations : ℕ → Option Client.Call

/-- Nothing is stored. -/
def Storage.empty : Storage Q where
  queries := fun _ => none
  mutations := fun _ => none

/-- A tab after the restore of a storage. -/
def Storage.restore (storage : Storage Q) : Tab Q where
  flights := fun _ => none
  waiting := fun id => (storage.mutations id).map fun call => ⟨call, false⟩
  cache := storage.queries

/-- The tabs of a browser and its storage. -/
structure Profile (Q : Type) where
  tabs : ℕ → Tab Q
  storage : Storage Q

/-- Before the first visit. -/
def Profile.init : Profile Q where
  tabs := fun _ => Storage.empty.restore
  storage := .empty

/-- An event of a tab. -/
inductive TabEvent (S : Type) where
  /-- A call is sent with the cookies of the browser. -/
  | send (id : ℕ) (call : Client.Call) (cookies : List (List UInt8))
  /-- The server answers. Its handling of the request may panic. -/
  | serve (id : ℕ) (server : Server) (panics : Bool)
  /-- The answer arrives, unless the reading of its body fails. -/
  | receive (id : ℕ) (contentLength : Option String) (complete : Bool)
  /-- The call fails without an answer. -/
  | lose (id : ℕ)
  /-- The user submits a sign-in or a sign-out without a network: it waits. -/
  | pause (id : ℕ) (call : Client.Call)
  /-- The network is back for a mutation that waits. It is sent, or fails without its function. -/
  | resume (id : ℕ) (cookies : List (List UInt8))
  | signal (key : QueryKey) (signal : S)

/-- An event of the browser. -/
inductive ProfileEvent (S : Type) where
  | tab (tab : ℕ) (event : TabEvent S)
  /-- The queries and the mutations of a tab are stored. -/
  | persist (tab : ℕ)
  /-- A page is loaded. The storage may have expired. -/
  | reload (tab : ℕ) (expired : Bool)

/-- The tab after an outcome of a call. -/
def Tab.settle (rules : QueryRules Q S) (tab : Tab Q) (id : ℕ) (call : Client.Call)
    (fetched : Fetched) : Tab Q where
  flights := Function.update tab.flights id none
  waiting := tab.waiting
  cache :=
    match queryKey call with
    | none => tab.cache
    | some key =>
      Function.update tab.cache key
        (rules.settle call (outcome read fetched call.operation) (tab.cache key))

/-- The tab after one of its own events. -/
def Tab.step (rules : QueryRules Q S) (tab : Tab Q) : TabEvent S → Option (Tab Q)
  | .send id call cookies =>
    match tab.flights id, call.request cookies with
    | none, some request =>
      some { tab with flights := Function.update tab.flights id (some ⟨call, request, none⟩) }
    | _, _ => none
  | .serve id server panics =>
    match tab.flights id with
    | some ⟨call, request, none⟩ =>
      let reply := (app { server with panics := fun _ => panics } request).response
      some { tab with flights := Function.update tab.flights id (some ⟨call, request, some reply⟩) }
    | _ => none
  | .receive id contentLength complete =>
    match tab.flights id with
    | some ⟨call, _, some reply⟩ =>
      some (tab.settle rules id call (.answered reply.status contentLength
        (if complete then some reply.text else none)))
    | _ => none
  | .lose id =>
    match tab.flights id with
    | some flight => some (tab.settle rules id flight.call .failed)
    | none => none
  | .pause id call =>
    match queryKey call, tab.waiting id with
    | none, none => some { tab with waiting := Function.update tab.waiting id (some ⟨call, true⟩) }
    | _, _ => none
  | .resume id cookies =>
    match tab.waiting id with
    | some ⟨call, true⟩ =>
      match tab.flights id, call.request cookies with
      | none, some request =>
        some { tab with
          flights := Function.update tab.flights id (some ⟨call, request, none⟩)
          waiting := Function.update tab.waiting id none }
      | _, _ => none
    | some ⟨_, false⟩ => some { tab with waiting := Function.update tab.waiting id none }
    | none => none
  | .signal key signal =>
    some { tab with cache := Function.update tab.cache key (rules.signal signal (tab.cache key)) }

/-- What is stored of a tab: the queries that are selected, and by the default of the library every
mutation that waits, with its variables. -/
def dehydrate (tab : Tab Q) : Storage Q where
  queries := fun key => if shouldDehydrateQuery key then tab.cache key else none
  mutations := fun id => (tab.waiting id).map Waiting.call

/-- The browser after an event. -/
def Profile.step (rules : QueryRules Q S) (profile : Profile Q) :
    ProfileEvent S → Option (Profile Q)
  | .tab tab event =>
    (Tab.step rules (profile.tabs tab) event).map fun next =>
      { profile with tabs := Function.update profile.tabs tab next }
  | .persist tab => some { profile with storage := dehydrate (profile.tabs tab) }
  | .reload tab expired =>
    let storage := if expired then .empty else profile.storage
    some {
      tabs := Function.update profile.tabs tab storage.restore
      storage := storage }

/-- The browser as a transition system. -/
def profileSystem (rules : QueryRules Q S) : TransitionSystem (Profile Q) (ProfileEvent S) where
  init := Profile.init
  step := Profile.step rules

/-- A call without its NPSSO. -/
def redactCall : Client.Call → Client.Call
  | .signIn _ => .signIn ""
  | call => call

/-- An event of a tab in a browser without cookies and without an NPSSO. -/
def redactTab : TabEvent S → TabEvent S
  | .send id call _ => .send id (redactCall call) []
  | .pause id call => .pause id (redactCall call)
  | .resume id _ => .resume id []
  | event => event

/-- An event of such a browser. -/
def redact : ProfileEvent S → ProfileEvent S
  | .tab tab event => .tab tab (redactTab event)
  | event => event

/-- The states of a query that only failures and signals make. -/
inductive QueryRules.Valueless (rules : QueryRules Q S) : Option Q → Prop
  | absent : Valueless rules none
  | signal {q : Option Q} (signal : S) (h : Valueless rules q) :
      Valueless rules (rules.signal signal q)
  | failure {q : Option Q} (call : Client.Call) (failure : Failure) (h : Valueless rules q) :
      Valueless rules (rules.settle call (.error failure) q)

/-! ## The answers without cookies -/

/-- The handlers of the other routes do not read the cookies. -/
lemma handleOperation_cookies {operation : Operation} (hpurchased : operation ≠ .listPurchasedGames)
    (hwishlist : operation ≠ .listWishlistGames) (server : Server) (request : HttpRequest)
    (cookies : List (List UInt8)) (segment : List Char) :
    handleOperation server { request with cookies := cookies } segment operation =
      handleOperation server request segment operation := by
  cases operation with
  | listPurchasedGames => exact absurd rfl hpurchased
  | listWishlistGames => exact absurd rfl hwishlist
  | _ => rfl

/-- **The cookies do not matter** on an API path outside the signed-in lists.

**Proof sketch.** A panic answers the same for any request. Without one, a path of the API outside
the documented routes is not found, and a documented route other than the signed-in lists reads no
cookie (`handleOperation_cookies`). -/
lemma app_cookies {request : HttpRequest} (hpath : isApiPath (trimPath request.path) = true)
    (hpurchased : request.operation? ≠ some .listPurchasedGames)
    (hwishlist : request.operation? ≠ some .listWishlistGames) (server : Server) (panics : Bool)
    (cookies : List (List UInt8)) :
    (app { server with panics := fun _ => panics } { request with cookies := cookies }).response =
      (app { server with panics := fun _ => panics } request).response := by
  generalize hserver : { server with panics := fun _ => panics } = server'
  have hpanics : server'.panics = fun _ => panics := by rw [← hserver]
  show contained server' (trimTrailingSlash { request with cookies := cookies }) =
    contained server' (trimTrailingSlash request)
  unfold contained
  rw [hpanics]
  cases panics with
  | true => rfl
  | false =>
    simp only [Bool.false_eq_true, if_false]
    cases hoperation : request.operation? with
    | none =>
      rw [@handle_of_undocumented server' (trimTrailingSlash request) hpath hoperation]
      exact @handle_of_undocumented server' (trimTrailingSlash { request with cookies := cookies })
        hpath hoperation
    | some operation =>
      have hoperation' := hoperation
      obtain ⟨route, hroute, hmethod⟩ := Option.bind_eq_some_iff.mp hoperation'
      rw [hoperation] at hpurchased hwishlist
      have hhandle : ∀ cookies : List (List UInt8),
          handle server' (trimTrailingSlash { request with cookies := cookies }) =
            handleOperation server' (trimTrailingSlash { request with cookies := cookies })
              route.segment operation := by
        intro cookies
        unfold handle
        rw [show (trimTrailingSlash { request with cookies := cookies }).path =
          trimPath request.path from rfl, hroute]
        exact handleRoute_of_operation server' hmethod
      rw [hhandle cookies]
      refine Eq.trans ?_ (hhandle request.cookies).symm
      exact handleOperation_cookies (fun h => hpurchased (congrArg some h))
        (fun h => hwishlist (congrArg some h)) server' (trimTrailingSlash request) cookies
        route.segment

/-- The request of a call is made of its path and its query. -/
lemma exists_requestAt {call : Client.Call} {cookies : List (List UInt8)} {request : HttpRequest}
    (h : call.request cookies = some request) :
    ∃ path query, call.path = some path ∧ call.query = some query ∧
      request = call.requestAt cookies path query := by
  obtain ⟨path, hpath, h⟩ := Option.bind_eq_some_iff.mp h
  obtain ⟨query, hquery, h⟩ := Option.bind_eq_some_iff.mp h
  exact ⟨path, query, hpath, hquery, (Option.some.inj h).symm⟩

/-- The path of a call is one of the API. -/
lemma isApiPath_request {call : Client.Call} {cookies : List (List UInt8)} {request : HttpRequest}
    (h : call.request cookies = some request) : isApiPath (trimPath request.path) = true := by
  obtain ⟨path, query, hpath, -, rfl⟩ := exists_requestAt h
  show isApiPath (trimPath (urlPath path)) = true
  cases call with
  | fetchGame gameId =>
    cases htext : fromUtf16 gameId with
    | none => simp [Client.Call.path, encodeURIComponent, htext] at hpath
    | some text =>
      have hsegment : path = gamePath ++ segmentOf text := by
        simp only [Client.Call.path, encodeURIComponent, htext] at hpath
        exact (Option.some.inj hpath).symm
      rw [hsegment, urlPath_segmentOf]
      split_ifs
      · decide +kernel
      · decide +kernel
      · by_cases hne : text = []
        · rw [hne]
          decide +kernel
        · rw [trimPath_segmentOf hne]
          exact @isApiPath_append ("/games/".toList ++ segmentOf text) rfl
  | _ =>
    cases hpath
    decide +kernel

/-- The request of a call with other cookies. -/
lemma request_cookies {call : Client.Call} {cookies : List (List UInt8)} {request : HttpRequest}
    (h : call.request cookies = some request) (cookies' : List (List UInt8)) :
    call.request cookies' = some { request with cookies := cookies' } := by
  obtain ⟨path, query, hpath, hquery, rfl⟩ := exists_requestAt h
  unfold Client.Call.request
  rw [hpath, hquery]
  rfl

/-- The signed-in lists. -/
def IsSignedInRoute (operation : Option Operation) : Bool :=
  operation = some .listPurchasedGames || operation = some .listWishlistGames

/-- **The game pages whose request goes to a signed-in list.** -/
lemma isSignedInRoute_fetchGame {text : List Char} {cookies : List (List UInt8)}
    {request : HttpRequest}
    (h : (Client.Call.fetchGame (toUtf16 text)).request cookies = some request) :
    IsSignedInRoute request.operation? = true ↔ text ∈ signedInNames := by
  rw [request_fetchGame] at h
  cases h
  show IsSignedInRoute ((matchRoute (trimPath (urlPath (gamePath ++ segmentOf text)))).bind
    (Route.operation? .get)) = true ↔ _
  rw [urlPath_segmentOf]
  by_cases hdots : text = ['.', '.']
  · rw [if_pos hdots, hdots]
    decide +kernel
  by_cases hdot : text = ['.']
  · rw [if_neg hdots, if_pos hdot, hdot]
    decide +kernel
  rw [if_neg hdots, if_neg hdot]
  by_cases hne : text = []
  · rw [hne]
    decide +kernel
  rw [trimPath_segmentOf hne]
  by_cases hname : text ∈ reservedNames
  · have hall : ∀ name ∈ reservedNames, IsSignedInRoute
      ((matchRoute (gamePath ++ segmentOf name)).bind
        (Route.operation? .get)) = true ↔ name ∈ signedInNames := by
      decide +kernel
    exact hall text hname
  · rw [matchRoute_segmentOf hne hname]
    refine iff_of_false Bool.false_ne_true ?_
    intro hsigned
    have hsubset : ∀ name ∈ signedInNames, name ∈ reservedNames := by decide
    exact hname (hsubset text hsigned)

/-- The request of an anonymous call does not go to a signed-in list. -/
lemma isSignedInRoute_of_isAnonymous {call : Client.Call} (hcall : IsAnonymous call)
    {cookies : List (List UInt8)} {request : HttpRequest}
    (h : call.request cookies = some request) : IsSignedInRoute request.operation? = false := by
  obtain ⟨key, hkey, hprivate⟩ := hcall
  cases call with
  | fetchGame gameId =>
    cases htext : fromUtf16 gameId with
    | none => simp [Client.Call.request, Client.Call.path, encodeURIComponent, htext] at h
    | some text =>
      obtain rfl := (toUtf16_of_fromUtf16 htext).symm
      rw [Bool.eq_false_iff, ne_eq, isSignedInRoute_fetchGame h]
      intro hname
      obtain rfl := Option.some.inj hkey
      exact hprivate (List.mem_append_right _ (List.mem_map_of_mem hname))
  | fetchPurchasedGames =>
    obtain rfl := Option.some.inj hkey
    exact absurd (by decide) hprivate
  | fetchWishlistGames =>
    obtain rfl := Option.some.inj hkey
    exact absurd (by decide) hprivate
  | signIn npsso => cases hkey
  | signOut => cases hkey
  | _ =>
    obtain ⟨path, query, hpath, -, rfl⟩ := exists_requestAt h
    obtain rfl := Option.some.inj hpath
    show IsSignedInRoute ((matchRoute (trimPath (urlPath _))).bind (Route.operation? .get)) = false
    decide +kernel

/-- **The answer to an anonymous call** does not depend on the cookies. -/
theorem response_of_anonymous {call : Client.Call} (hcall : IsAnonymous call)
    {cookies : List (List UInt8)} {request : HttpRequest}
    (h : call.request cookies = some request) (server : Server) (panics : Bool)
    (cookies' : List (List UInt8)) :
    (app { server with panics := fun _ => panics } { request with cookies := cookies' }).response =
      (app { server with panics := fun _ => panics } request).response := by
  have hroute := isSignedInRoute_of_isAnonymous hcall h
  simp only [IsSignedInRoute, Bool.or_eq_false_iff, decide_eq_false_iff_not] at hroute
  exact app_cookies (isApiPath_request h) hroute.1 hroute.2 server panics cookies'

/-- A page is no game. -/
lemma zGameDetail_page (page : PageResult) : zGameDetail page.toJson = none := rfl

/-- **A signed-in list is no game page**: the call of a game page fails on every answer of the
list.

**Proof sketch.** By the annotation the route answers a page or a problem. A page is no game page
for the schema (`zGameDetail_page`), and a problem has no success status, so the call has no value.
-/
lemma outcome_getGame_of_signedIn {request : HttpRequest}
    (h : IsSignedInRoute request.operation? = true) (server : Server)
    (contentLength : Option String) (text : Option (List Char))
    (htext : ∀ t ∈ text, t = (app server request).response.text) :
    ∃ failure, outcome read
      (.answered (app server request).response.status contentLength text) .getGame =
        .error failure := by
  have hdocuments : (∃ page, (app server request).response = .json (.page page)) ∨
      ∃ codes, (app server request).response.IsProblem codes := by
    simp only [IsSignedInRoute, Bool.or_eq_true, decide_eq_true_eq] at h
    rcases h with h | h
    · exact (documents_app server h).imp id fun h => ⟨_, h⟩
    · exact (documents_app server h).imp id fun h => ⟨_, h⟩
  cases hunwrap : unwrap read zGameDetail
      (.answered (app server request).response.status contentLength text) with
  | error failure => exact ⟨failure, congrArg (Except.map some) hunwrap⟩
  | ok value =>
    exfalso
    obtain ⟨status, length, _, hfetched, hok, -, ⟨t, hread, hparsed⟩, detail, hdata⟩ :=
      unwrap_eq_ok_iff.mp hunwrap
    injection hfetched with hstatus hlength hbody
    have ht := htext t (hbody.trans hread)
    rcases hdocuments with ⟨page, hpage⟩ | ⟨codes, problem, -, hproblem, hpublic, -⟩
    · rw [hpage] at ht
      have hwrite : t = write page.toJson := ht
      have hne : write page.toJson ≠ [] := write_ne_nil ⟨_, rfl⟩
      unfold parsedBody at hparsed
      rw [hwrite, if_neg hne, read_write page.plain_toJson] at hparsed
      rw [← Option.some.inj hparsed, zGameDetail_page] at hdata
      cases hdata
    · have hcode : problem.status = problem.code.status := by
        rw [hpublic.eq_new]
        rfl
      rw [← hstatus, hproblem, hcode, isOk_status] at hok
      cases hok

/-! ## One step -/

/-- **The steps of a tab**: a call is sent, served, answered or lost; a mutation waits, is sent or
fails; or a query gets a signal. -/
lemma Tab.step_cases {rules : QueryRules Q S} {tab next : Tab Q} {event : TabEvent S}
    (h : Tab.step rules tab event = some next) :
    (∃ id call cookies request, event = .send id call cookies ∧ tab.flights id = none ∧
      call.request cookies = some request ∧
      next = { tab with flights := Function.update tab.flights id (some ⟨call, request, none⟩) }) ∨
    (∃ id server panics call request, event = .serve id server panics ∧
      tab.flights id = some ⟨call, request, none⟩ ∧
      next = { tab with flights := Function.update tab.flights id (some ⟨call, request,
        some (app { server with panics := fun _ => panics } request).response⟩) }) ∨
    (∃ id contentLength complete call request reply, event = .receive id contentLength complete ∧
      tab.flights id = some ⟨call, request, some reply⟩ ∧
      next = tab.settle rules id call (.answered reply.status contentLength
        (if complete then some reply.text else none))) ∨
    (∃ id flight, event = .lose id ∧ tab.flights id = some flight ∧
      next = tab.settle rules id flight.call .failed) ∨
    (∃ id call, event = .pause id call ∧ queryKey call = none ∧ tab.waiting id = none ∧
      next = { tab with waiting := Function.update tab.waiting id (some ⟨call, true⟩) }) ∨
    (∃ id call cookies request, event = .resume id cookies ∧
      tab.waiting id = some ⟨call, true⟩ ∧ tab.flights id = none ∧
      call.request cookies = some request ∧
      next = { tab with
        flights := Function.update tab.flights id (some ⟨call, request, none⟩)
        waiting := Function.update tab.waiting id none }) ∨
    (∃ id call cookies, event = .resume id cookies ∧ tab.waiting id = some ⟨call, false⟩ ∧
      next = { tab with waiting := Function.update tab.waiting id none }) ∨
    ∃ key signal, event = .signal key signal ∧ next = { tab with
      cache := Function.update tab.cache key (rules.signal signal (tab.cache key)) } := by
  cases event with
  | send id call cookies =>
    simp only [Tab.step] at h
    split at h
    · next request hflight hrequest =>
      exact Or.inl ⟨id, call, cookies, request, rfl, hflight, hrequest, (Option.some.inj h).symm⟩
    · cases h
  | serve id server panics =>
    simp only [Tab.step] at h
    split at h
    · next call request hflight =>
      exact Or.inr (Or.inl ⟨id, server, panics, call, request, rfl, hflight,
        (Option.some.inj h).symm⟩)
    · cases h
  | receive id contentLength complete =>
    simp only [Tab.step] at h
    split at h
    · next call request reply hflight =>
      exact Or.inr (Or.inr (Or.inl ⟨id, contentLength, complete, call, request, reply, rfl, hflight,
        (Option.some.inj h).symm⟩))
    · cases h
  | lose id =>
    simp only [Tab.step] at h
    split at h
    · next flight hflight =>
      exact Or.inr (Or.inr (Or.inr (Or.inl ⟨id, flight, rfl, hflight, (Option.some.inj h).symm⟩)))
    · cases h
  | pause id call =>
    simp only [Tab.step] at h
    split at h
    · next hkey hwaiting =>
      exact Or.inr (Or.inr (Or.inr (Or.inr (Or.inl ⟨id, call, rfl, hkey, hwaiting,
        (Option.some.inj h).symm⟩))))
    · cases h
  | resume id cookies =>
    simp only [Tab.step] at h
    split at h
    · next call hwaiting =>
      split at h
      · next request hflight hrequest =>
        exact Or.inr (Or.inr (Or.inr (Or.inr (Or.inr (Or.inl ⟨id, call, cookies, request, rfl,
          hwaiting, hflight, hrequest, (Option.some.inj h).symm⟩)))))
      · cases h
    · next call hwaiting =>
      exact Or.inr (Or.inr (Or.inr (Or.inr (Or.inr (Or.inr (Or.inl ⟨id, call, cookies, rfl,
        hwaiting, (Option.some.inj h).symm⟩))))))
    · cases h
  | signal key signal =>
    exact Or.inr (Or.inr (Or.inr (Or.inr (Or.inr (Or.inr (Or.inr ⟨key, signal, rfl,
      (Option.some.inj h).symm⟩))))))

/-- A call in flight without an answer is served. -/
lemma Tab.step_serve {rules : QueryRules Q S} {tab : Tab Q} {id : ℕ} {call : Client.Call}
    {request : HttpRequest} (h : tab.flights id = some ⟨call, request, none⟩) (server : Server)
    (panics : Bool) :
    Tab.step rules tab (.serve id server panics) =
      some ⟨Function.update tab.flights id (some ⟨call, request,
        some (app { server with panics := fun _ => panics } request).response⟩), tab.waiting,
        tab.cache⟩ := by
  simp only [Tab.step, h]

/-- An answered call is received. -/
lemma Tab.step_receive {rules : QueryRules Q S} {tab : Tab Q} {id : ℕ} {call : Client.Call}
    {request : HttpRequest} {reply : Response Payload}
    (h : tab.flights id = some ⟨call, request, some reply⟩) (contentLength : Option String)
    (complete : Bool) :
    Tab.step rules tab (.receive id contentLength complete) =
      some (tab.settle rules id call (.answered reply.status contentLength
        (if complete then some reply.text else none))) := by
  simp only [Tab.step, h]

/-- A call in flight is lost. -/
lemma Tab.step_lose {rules : QueryRules Q S} {tab : Tab Q} {id : ℕ} {flight : Flight}
    (h : tab.flights id = some flight) :
    Tab.step rules tab (.lose id) = some (tab.settle rules id flight.call .failed) := by
  simp only [Tab.step, h]

/-! ## What holds in every reachable state -/

/-- A call in flight has its request, and the answer of a server to it. -/
def Flight.Valid (flight : Flight) : Prop :=
  (∃ cookies, flight.call.request cookies = some flight.request) ∧
    ∀ reply, flight.reply = some reply →
      ∃ server : Server, reply = (app server flight.request).response

/-- The calls in flight are valid, only mutations wait, and no value is in the queries of the game
pages whose request goes to a signed-in list. -/
structure Tab.Valid (rules : QueryRules Q S) (tab : Tab Q) : Prop where
  flights : ∀ id flight, tab.flights id = some flight → flight.Valid
  waiting : ∀ id waiting, tab.waiting id = some waiting → queryKey waiting.call = none
  cache : ∀ key ∈ collidingKeys, rules.Valueless (tab.cache key)

/-- The tabs are valid, and only some queries and mutations are stored. -/
structure Profile.Valid (rules : QueryRules Q S) (profile : Profile Q) : Prop where
  tabs : ∀ tab, Tab.Valid rules (profile.tabs tab)
  stored : ∀ key, profile.storage.queries key ≠ none → shouldDehydrateQuery key = true
  storage : ∀ key ∈ collidingKeys, rules.Valueless (profile.storage.queries key)
  mutations : ∀ id call, profile.storage.mutations id = some call → queryKey call = none

/-- The restore of a storage is valid. -/
lemma Tab.valid_restore {rules : QueryRules Q S} {storage : Storage Q}
    (hqueries : ∀ key ∈ collidingKeys, rules.Valueless (storage.queries key))
    (hmutations : ∀ id call, storage.mutations id = some call → queryKey call = none) :
    storage.restore.Valid rules := by
  refine ⟨fun id flight h => (by cases h), ?_, hqueries⟩
  intro id waiting h
  obtain ⟨call, hcall, rfl⟩ := Option.map_eq_some_iff.mp h
  exact hmutations id call hcall

/-- The calls of the game pages whose request goes to a signed-in list. -/
lemma eq_fetchGame_of_colliding {call : Client.Call} {key : QueryKey}
    (hkey : queryKey call = some key) (h : key ∈ collidingKeys) :
    ∃ name ∈ signedInNames, call = .fetchGame (toUtf16 name) := by
  obtain ⟨name, hname, rfl⟩ := List.mem_map.mp h
  refine ⟨name, hname, ?_⟩
  have hgames : keyText "games" ≠ keyText "game" := by decide
  have hbrowse : keyText "browse" ≠ keyText "game" := by decide
  have hsearch : keyText "search" ≠ keyText "game" := by decide
  cases call <;> simp_all [queryKey]

/-- The outcome of such a call is a failure. -/
lemma outcome_of_colliding {call : Client.Call} {key : QueryKey} (hkey : queryKey call = some key)
    (h : key ∈ collidingKeys) {request : HttpRequest} {cookies : List (List UInt8)}
    (hrequest : call.request cookies = some request) (server : Server)
    (contentLength : Option String) (complete : Bool) :
    ∃ failure, outcome read (.answered (app server request).response.status contentLength
      (if complete then some (app server request).response.text else none)) call.operation =
        .error failure := by
  obtain ⟨name, hname, rfl⟩ := eq_fetchGame_of_colliding hkey h
  apply outcome_getGame_of_signedIn ((isSignedInRoute_fetchGame hrequest).mpr hname)
  intro t ht
  split_ifs at ht
  · exact (Option.some.inj ht).symm
  · cases ht

/-- A lost call fails. -/
lemma outcome_failed {call : Client.Call} {key : QueryKey} (hkey : queryKey call = some key)
    (h : key ∈ collidingKeys) :
    ∃ failure, outcome read .failed call.operation = .error failure := by
  obtain ⟨name, hname, rfl⟩ := eq_fetchGame_of_colliding hkey h
  exact ⟨_, rfl⟩

/-- What holds of the entries of a table holds after one more entry of which it holds. -/
lemma forall_update {α : Type} {P : α → Prop} {table : ℕ → Option α}
    (h : ∀ id entry, table id = some entry → P entry) {id : ℕ} {stored : Option α}
    (hnew : ∀ entry, stored = some entry → P entry) (id' : ℕ) (entry : α)
    (hentry : Function.update table id stored id' = some entry) : P entry := by
  by_cases hid : id' = id
  · rw [hid, Function.update_self] at hentry
    exact hnew entry hentry
  · rw [Function.update_of_ne hid] at hentry
    exact h id' entry hentry

/-- What holds of the entries of a table holds after the removal of one. -/
lemma forall_remove {α : Type} {P : α → Prop} {table : ℕ → Option α}
    (h : ∀ id entry, table id = some entry → P entry) {id : ℕ} (id' : ℕ) (entry : α)
    (hentry : Function.update table id none id' = some entry) : P entry := by
  refine forall_update h ?_ id' entry hentry
  intro entry hnone
  cases hnone

/-- Another state of a query leaves the queries without value. -/
lemma valueless_update {rules : QueryRules Q S} {cache : QueryKey → Option Q}
    (h : ∀ key ∈ collidingKeys, rules.Valueless (cache key)) {key : QueryKey} {state : Option Q}
    (hnew : key ∈ collidingKeys → rules.Valueless state) :
    ∀ key' ∈ collidingKeys, rules.Valueless (Function.update cache key state key') := by
  intro key' hmem
  by_cases hkey : key' = key
  · subst hkey
    rw [Function.update_self]
    exact hnew hmem
  · rw [Function.update_of_ne hkey]
    exact h key' hmem

/-- An outcome of a call keeps a tab valid, where a failure is the outcome of a call whose request
goes to a signed-in list. -/
lemma Tab.Valid.settle {rules : QueryRules Q S} {tab : Tab Q} (h : tab.Valid rules) (id : ℕ)
    {call : Client.Call} {fetched : Fetched}
    (hfailure : ∀ key, queryKey call = some key → key ∈ collidingKeys →
      ∃ failure, outcome read fetched call.operation = .error failure) :
    (tab.settle rules id call fetched).Valid rules := by
  refine ⟨forall_remove h.flights, h.waiting, ?_⟩
  unfold Tab.settle
  dsimp only
  cases hkey : queryKey call with
  | none => exact h.cache
  | some key =>
    refine valueless_update h.cache ?_
    intro hmem
    obtain ⟨failure, hfailed⟩ := hfailure key hkey hmem
    rw [hfailed]
    exact .failure call failure (h.cache key hmem)

/-- **A step keeps a tab valid.**

**Proof sketch.** By `Tab.step_cases`. A sent call keeps the request of its query, and an answer is
the one of a server to this request. A settled call of one of the two game pages fails on every
answer (`outcome_of_colliding`), so no value enters the cache there. The other steps move a mutation
or signal a query. -/
lemma Tab.Valid.step {rules : QueryRules Q S} {tab next : Tab Q} {event : TabEvent S}
    (h : tab.Valid rules) (hstep : Tab.step rules tab event = some next) : next.Valid rules := by
  rcases Tab.step_cases hstep with
    ⟨id, call, cookies, request, -, -, hrequest, rfl⟩ |
    ⟨id, server, panics, call, request, -, hflight, rfl⟩ |
    ⟨id, contentLength, complete, call, request, reply, -, hflight, rfl⟩ |
    ⟨id, flight, -, hflight, rfl⟩ | ⟨id, call, -, hkey, -, rfl⟩ |
    ⟨id, call, cookies, request, -, -, -, hrequest, rfl⟩ | ⟨id, call, cookies, -, -, rfl⟩ |
    ⟨key, signal, -, rfl⟩
  · refine ⟨forall_update h.flights ?_, h.waiting, h.cache⟩
    intro flight hnew
    obtain rfl := Option.some.inj hnew
    exact ⟨⟨cookies, hrequest⟩, nofun⟩
  · refine ⟨forall_update h.flights ?_, h.waiting, h.cache⟩
    intro flight hnew
    obtain rfl := Option.some.inj hnew
    refine ⟨(h.flights id _ hflight).1, ?_⟩
    intro reply hreply
    exact ⟨_, (Option.some.inj hreply).symm⟩
  · apply h.settle
    intro key hkey hmem
    obtain ⟨⟨cookies, hrequest⟩, hreply⟩ := h.flights id _ hflight
    obtain ⟨server, hserver⟩ := hreply reply rfl
    rw [hserver]
    exact outcome_of_colliding hkey hmem hrequest server contentLength complete
  · exact h.settle id fun key hkey hmem => outcome_failed hkey hmem
  · refine ⟨h.flights, forall_update h.waiting ?_, h.cache⟩
    intro waiting hnew
    obtain rfl := Option.some.inj hnew
    exact hkey
  · refine ⟨forall_update h.flights ?_, forall_remove h.waiting, h.cache⟩
    intro flight hnew
    obtain rfl := Option.some.inj hnew
    exact ⟨⟨cookies, hrequest⟩, nofun⟩
  · exact ⟨h.flights, forall_remove h.waiting, h.cache⟩
  · exact ⟨h.flights, h.waiting,
      valueless_update h.cache fun hmem => .signal signal (h.cache key hmem)⟩

/-- **Every reachable browser is valid.**

**Proof sketch.** A step of a tab keeps the tab valid (`Tab.Valid.step`). The storage of a valid tab
is valid, since it holds the queries of the allow-list and the mutations that wait, and a tab that
is restored from it is valid (`Tab.valid_restore`). -/
lemma Profile.Valid.of_reachable {rules : QueryRules Q S} {profile : Profile Q}
    (h : (profileSystem rules).Reachable profile) : profile.Valid rules := by
  have hempty : (Storage.empty.restore : Tab Q).Valid rules :=
    Tab.valid_restore (fun _ _ => .absent) nofun
  refine h.invariant ?_ ?_
  · exact ⟨fun _ => hempty, fun key h => absurd rfl h, fun key _ => .absent, nofun⟩
  · intro profile event next _ hvalid hstep
    have hupdate : ∀ (tab : ℕ) (new : Tab Q), new.Valid rules →
        ∀ tab', Tab.Valid rules (Function.update profile.tabs tab new tab') := by
      intro tab new hnew tab'
      by_cases htab : tab' = tab
      · rwa [htab, Function.update_self]
      · rw [Function.update_of_ne htab]
        exact hvalid.tabs tab'
    cases event with
    | tab tab event =>
      obtain ⟨new, hnew, rfl⟩ := Option.map_eq_some_iff.mp hstep
      exact ⟨hupdate tab new ((hvalid.tabs tab).step hnew), hvalid.stored, hvalid.storage,
        hvalid.mutations⟩
    | persist tab =>
      obtain rfl := Option.some.inj hstep
      refine ⟨hvalid.tabs, ?_, ?_, ?_⟩
      · intro key hkey
        by_contra hnot
        exact hkey (if_neg hnot)
      · intro key hmem
        show rules.Valueless ((dehydrate (profile.tabs tab)).queries key)
        unfold dehydrate
        dsimp only
        split_ifs
        · exact (hvalid.tabs tab).cache key hmem
        · exact .absent
      · intro id call hcall
        obtain ⟨waiting, hwaiting, rfl⟩ := Option.map_eq_some_iff.mp hcall
        exact (hvalid.tabs tab).waiting id waiting hwaiting
    | reload tab expired =>
      obtain rfl := Option.some.inj hstep
      cases expired with
      | true =>
        exact ⟨hupdate tab _ hempty, fun key h => absurd rfl h, fun key _ => .absent, nofun⟩
      | false =>
        exact ⟨hupdate tab _ (Tab.valid_restore hvalid.storage hvalid.mutations), hvalid.stored,
          hvalid.storage, hvalid.mutations⟩

/-! ## Where a stored mutation comes from -/

/-- A mutation was submitted without a network. -/
def Paused (events : List (ProfileEvent S)) (id : ℕ) (call : Client.Call) : Prop :=
  ∃ tab, .tab tab (.pause id call) ∈ events

/-- Every mutation that waits or is stored was submitted without a network. -/
structure Profile.Traced (profile : Profile Q) (events : List (ProfileEvent S)) : Prop where
  waiting : ∀ tab id waiting, (profile.tabs tab).waiting id = some waiting →
    Paused events id waiting.call
  stored : ∀ id call, profile.storage.mutations id = some call → Paused events id call

/-- What waits in a tab after a step waited before, or is submitted without a network now. -/
lemma Tab.waiting_of_step {rules : QueryRules Q S} {tab next : Tab Q} {event : TabEvent S}
    (h : Tab.step rules tab event = some next) {id : ℕ} {waiting : Waiting}
    (hwaiting : next.waiting id = some waiting) :
    tab.waiting id = some waiting ∨ event = .pause id waiting.call := by
  have hremoved : ∀ {removed : ℕ}, Function.update tab.waiting removed none id = some waiting →
      tab.waiting id = some waiting := by
    intro removed hnext
    by_cases hid : id = removed
    · rw [hid, Function.update_self] at hnext
      cases hnext
    · rwa [Function.update_of_ne hid] at hnext
  rcases Tab.step_cases h with
    ⟨_, _, _, _, -, -, -, rfl⟩ | ⟨_, _, _, _, _, -, -, rfl⟩ | ⟨_, _, _, _, _, _, -, -, rfl⟩ |
    ⟨_, _, -, -, rfl⟩ | ⟨added, call, rfl, -, -, rfl⟩ | ⟨_, _, _, _, -, -, -, -, rfl⟩ |
    ⟨_, _, _, -, -, rfl⟩ | ⟨_, _, -, rfl⟩
  · exact Or.inl hwaiting
  · exact Or.inl hwaiting
  · exact Or.inl hwaiting
  · exact Or.inl hwaiting
  · dsimp only at hwaiting
    by_cases hid : id = added
    · rw [hid, Function.update_self] at hwaiting
      obtain rfl := Option.some.inj hwaiting
      exact Or.inr (by rw [hid])
    · rw [Function.update_of_ne hid] at hwaiting
      exact Or.inl hwaiting
  · exact Or.inl (hremoved hwaiting)
  · exact Or.inl (hremoved hwaiting)
  · exact Or.inl hwaiting

/-- **A step keeps the mutations traced.**

**Proof sketch.** A step of a tab has a mutation waiting that waited before, or the one that is
submitted (`Tab.waiting_of_step`). The storage gets the mutations of a tab, and a reload has those
of the storage. -/
lemma Profile.Traced.step {rules : QueryRules Q S} {profile next : Profile Q}
    {events : List (ProfileEvent S)} {event : ProfileEvent S} (h : profile.Traced events)
    (hstep : Profile.step rules profile event = some next) : next.Traced (events ++ [event]) := by
  have hmore : ∀ {id call}, Paused events id call → Paused (events ++ [event]) id call := by
    rintro id call ⟨tab, hmem⟩
    exact ⟨tab, List.mem_append_left _ hmem⟩
  cases event with
  | tab tab event =>
    obtain ⟨new, hnew, rfl⟩ := Option.map_eq_some_iff.mp hstep
    refine ⟨?_, fun id call hcall => hmore (h.stored id call hcall)⟩
    intro tab' id waiting hwaiting
    dsimp only at hwaiting
    by_cases htab : tab' = tab
    · rw [htab, Function.update_self] at hwaiting
      rcases Tab.waiting_of_step hnew hwaiting with hbefore | rfl
      · exact hmore (h.waiting tab id waiting hbefore)
      · exact ⟨tab, List.mem_append_right _ (List.mem_singleton_self _)⟩
    · rw [Function.update_of_ne htab] at hwaiting
      exact hmore (h.waiting tab' id waiting hwaiting)
  | persist tab =>
    obtain rfl := Option.some.inj hstep
    refine ⟨fun tab' id waiting hwaiting => hmore (h.waiting tab' id waiting hwaiting), ?_⟩
    intro id call hcall
    obtain ⟨waiting, hwaiting, rfl⟩ := Option.map_eq_some_iff.mp hcall
    exact hmore (h.waiting tab id waiting hwaiting)
  | reload tab expired =>
    obtain rfl := Option.some.inj hstep
    have hstored : ∀ id call, (if expired then Storage.empty else profile.storage).mutations id =
        some call → Paused (events ++ [.reload tab expired]) id call := by
      intro id call hcall
      cases expired with
      | true => cases hcall
      | false => exact hmore (h.stored id call hcall)
    refine ⟨?_, hstored⟩
    intro tab' id waiting hwaiting
    dsimp only at hwaiting
    by_cases htab : tab' = tab
    · rw [htab, Function.update_self] at hwaiting
      obtain ⟨call, hcall, rfl⟩ := Option.map_eq_some_iff.mp hwaiting
      exact hstored id call hcall
    · rw [Function.update_of_ne htab] at hwaiting
      exact hmore (h.waiting tab' id waiting hwaiting)

/-- **Every stored mutation** was submitted without a network. -/
lemma Profile.Traced.of_run {rules : QueryRules Q S} {events : List (ProfileEvent S)}
    {profile : Profile Q} (h : (profileSystem rules).run Profile.init events = some profile) :
    profile.Traced events := by
  apply TransitionSystem.history_invariant _ _ h
  · refine ⟨?_, ?_⟩
    · intro tab id waiting hwaiting
      cases hwaiting
    · intro id call hcall
      cases hcall
  · intro s es e s' hs hstep
    exact Profile.Traced.step hs hstep

/-! ## The browser without cookies -/

/-- A call without its NPSSO is a call of the same query. -/
lemma redactCall_spec (call : Client.Call) :
    queryKey (redactCall call) = queryKey call ∧ (redactCall call).operation = call.operation := by
  cases call <;> exact ⟨rfl, rfl⟩

/-- An anonymous call has no NPSSO. -/
lemma redactCall_of_isAnonymous {call : Client.Call} (h : IsAnonymous call) :
    redactCall call = call := by
  obtain ⟨key, hkey, -⟩ := h
  cases call with
  | signIn npsso => cases hkey
  | _ => rfl

/-- A call without its NPSSO is sent where the call is. -/
lemma exists_request_redactCall {call : Client.Call} {cookies : List (List UInt8)}
    {request : HttpRequest} (h : call.request cookies = some request) :
    ∃ request', (redactCall call).request [] = some request' := by
  cases call with
  | signIn npsso => exact ⟨_, rfl⟩
  | _ => exact ⟨_, request_cookies h []⟩

/-- A flight in the browser and in the one without cookies. -/
inductive FlightAgrees : Option Flight → Option Flight → Prop
  | absent : FlightAgrees none none
  | anonymous {call : Client.Call} {request : HttpRequest} {reply : Option (Response Payload)}
      (hcall : IsAnonymous call) :
      FlightAgrees (some ⟨call, request, reply⟩)
        (some ⟨call, { request with cookies := [] }, reply⟩)
  | hidden {call : Client.Call} {request request' : HttpRequest}
      {reply reply' : Option (Response Payload)} (hcall : ¬IsAnonymous call)
      (hreply : reply.isSome = reply'.isSome) :
      FlightAgrees (some ⟨call, request, reply⟩) (some ⟨redactCall call, request', reply'⟩)

/-- A mutation that waits, without its NPSSO. -/
def Waiting.redact (waiting : Waiting) : Waiting := { waiting with call := redactCall waiting.call }

/-- A tab in the browser and in the one without cookies. -/
structure Tab.Agrees (tab other : Tab Q) : Prop where
  flights : ∀ id, FlightAgrees (tab.flights id) (other.flights id)
  waiting : ∀ id, other.waiting id = (tab.waiting id).map Waiting.redact
  cache : ∀ key ∉ privateKeys, tab.cache key = other.cache key

/-- The browser and the one without cookies. -/
structure Profile.Agrees (profile other : Profile Q) : Prop where
  tabs : ∀ tab, Tab.Agrees (profile.tabs tab) (other.tabs tab)
  storage : ∀ key ∉ privateKeys, profile.storage.queries key = other.storage.queries key
  mutations : ∀ id, other.storage.mutations id = (profile.storage.mutations id).map redactCall

/-- Storages that agree are restored to tabs that agree. -/
lemma Tab.agrees_restore {storage other : Storage Q}
    (hqueries : ∀ key ∉ privateKeys, storage.queries key = other.queries key)
    (hmutations : ∀ id, other.mutations id = (storage.mutations id).map redactCall) :
    Tab.Agrees storage.restore other.restore := by
  refine ⟨fun _ => .absent, ?_, hqueries⟩
  intro id
  unfold Storage.restore
  dsimp only
  rw [hmutations, Option.map_map, Option.map_map]
  rfl

/-- The flight of the browser without cookies. -/
lemma FlightAgrees.of_some {call : Client.Call} {request : HttpRequest}
    {reply : Option (Response Payload)} {other : Option Flight}
    (h : FlightAgrees (some ⟨call, request, reply⟩) other) :
    (IsAnonymous call ∧ other = some ⟨call, { request with cookies := [] }, reply⟩) ∨
      ¬IsAnonymous call ∧ ∃ request' reply', other = some ⟨redactCall call, request', reply'⟩ ∧
        reply.isSome = reply'.isSome := by
  cases h with
  | anonymous hcall => exact Or.inl ⟨hcall, rfl⟩
  | hidden hcall hreply => exact Or.inr ⟨hcall, _, _, rfl, hreply⟩

/-- Without a flight there is none. -/
lemma FlightAgrees.of_none {other : Option Flight} (h : FlightAgrees none other) :
    other = none := by
  cases h
  rfl

/-- Flights that agree leave the tabs in agreement. -/
lemma Tab.Agrees.update {tab other : Tab Q} (h : tab.Agrees other) (id : ℕ)
    {flight? flight?' : Option Flight} (hnew : FlightAgrees flight? flight?') (id' : ℕ) :
    FlightAgrees (Function.update tab.flights id flight? id')
      (Function.update other.flights id flight?' id') := by
  by_cases hid : id' = id
  · rw [hid, Function.update_self, Function.update_self]
    exact hnew
  · rw [Function.update_of_ne hid, Function.update_of_ne hid]
    exact h.flights id'

/-- Mutations that agree leave the tabs in agreement. -/
lemma Tab.Agrees.update_waiting {tab other : Tab Q} (h : tab.Agrees other) (id : ℕ)
    (waiting? : Option Waiting) (id' : ℕ) :
    Function.update other.waiting id (waiting?.map Waiting.redact) id' =
      (Function.update tab.waiting id waiting? id').map Waiting.redact := by
  by_cases hid : id' = id
  · rw [hid, Function.update_self, Function.update_self]
  · rw [Function.update_of_ne hid, Function.update_of_ne hid]
    exact h.waiting id'

/-- States of a query that agree, where the query is anonymous, leave the caches in agreement. -/
lemma cache_update {cache other : QueryKey → Option Q}
    (h : ∀ key ∉ privateKeys, cache key = other key) {key : QueryKey} {state state' : Option Q}
    (hnew : key ∉ privateKeys → state = state') :
    ∀ key' ∉ privateKeys,
      Function.update cache key state key' = Function.update other key state' key' := by
  intro key' hprivate
  by_cases hkey : key' = key
  · subst hkey
    rw [Function.update_self, Function.update_self]
    exact hnew hprivate
  · rw [Function.update_of_ne hkey, Function.update_of_ne hkey]
    exact h key' hprivate

/-- An outcome leaves the tabs in agreement: the outcome of an anonymous call is the same, and any
other call changes no anonymous query. -/
lemma Tab.Agrees.settle {rules : QueryRules Q S} {tab other : Tab Q} (h : tab.Agrees other)
    (id : ℕ) {call : Client.Call} {fetched fetched' : Fetched}
    (hfetched : IsAnonymous call → fetched' = fetched) :
    (tab.settle rules id call fetched).Agrees
      (other.settle rules id (redactCall call) fetched') := by
  refine ⟨h.update id .absent, h.waiting, ?_⟩
  obtain ⟨hkey, -⟩ := redactCall_spec call
  unfold Tab.settle
  dsimp only
  rw [hkey]
  cases hquery : queryKey call with
  | none => exact h.cache
  | some key =>
    refine cache_update h.cache ?_
    intro hprivate
    have hcall : IsAnonymous call := ⟨key, hquery, hprivate⟩
    rw [redactCall_of_isAnonymous hcall, hfetched hcall, h.cache key hprivate]

/-- **A step leaves the tabs in agreement.**

**Proof sketch.** By the kind of the step (`Tab.step_cases`). A call that is sent is sent in the
other run too, without cookies and without its NPSSO. The answer to an anonymous call does not
depend on the cookies (`response_of_anonymous`); another call is answered in both runs, and its
outcome is settled in queries that the two runs need not share (`Tab.Agrees.settle`). The mutations
that wait are the same up to their NPSSO. -/
lemma Tab.Agrees.step {rules : QueryRules Q S} {tab other next : Tab Q} {event : TabEvent S}
    (hvalid : tab.Valid rules) (h : tab.Agrees other)
    (hstep : Tab.step rules tab event = some next) :
    ∃ next', Tab.step rules other (redactTab event) = some next' ∧ next.Agrees next' := by
  rcases Tab.step_cases hstep with
    ⟨id, call, cookies, request, rfl, hflight, hrequest, rfl⟩ |
    ⟨id, server, panics, call, request, rfl, hflight, rfl⟩ |
    ⟨id, contentLength, complete, call, request, reply, rfl, hflight, rfl⟩ |
    ⟨id, ⟨call, request, reply⟩, rfl, hflight, rfl⟩ | ⟨id, call, rfl, hkey, hwaiting, rfl⟩ |
    ⟨id, call, cookies, request, rfl, hwaiting, hflight, hrequest, rfl⟩ |
    ⟨id, call, cookies, rfl, hwaiting, rfl⟩ | ⟨key, signal, rfl, rfl⟩
  · have hagrees := h.flights id
    rw [hflight] at hagrees
    obtain ⟨request', hrequest'⟩ := exists_request_redactCall hrequest
    have hstep' : Tab.step rules other (.send id (redactCall call) []) =
        some ⟨Function.update other.flights id (some ⟨redactCall call, request', none⟩),
          other.waiting, other.cache⟩ := by
      simp only [Tab.step, hagrees.of_none, hrequest']
    refine ⟨_, hstep', h.update id ?_, h.waiting, h.cache⟩
    by_cases hcall : IsAnonymous call
    · rw [redactCall_of_isAnonymous hcall, request_cookies hrequest [], Option.some.injEq]
        at hrequest'
      rw [redactCall_of_isAnonymous hcall, ← hrequest']
      exact .anonymous hcall
    · exact .hidden hcall rfl
  · have hagrees := h.flights id
    rw [hflight] at hagrees
    obtain ⟨⟨cookies, hrequest⟩, -⟩ := hvalid.flights id _ hflight
    rcases hagrees.of_some with ⟨hcall, hother⟩ | ⟨hcall, request', reply', hother, hreply⟩
    · refine ⟨_, Tab.step_serve hother server panics, h.update id ?_, h.waiting, h.cache⟩
      rw [response_of_anonymous hcall hrequest server panics []]
      exact .anonymous hcall
    · obtain rfl : reply' = none := by simpa using hreply
      exact ⟨_, Tab.step_serve hother server panics, h.update id (.hidden hcall rfl), h.waiting,
        h.cache⟩
  · have hagrees := h.flights id
    rw [hflight] at hagrees
    rcases hagrees.of_some with ⟨hcall, hother⟩ | ⟨hcall, request', reply', hother, hreply⟩
    · refine ⟨_, Tab.step_receive hother contentLength complete, ?_⟩
      have hsettle := @Tab.Agrees.settle _ _ rules _ _ h id call (.answered reply.status
        contentLength (if complete then some reply.text else none)) _ fun _ => rfl
      rwa [redactCall_of_isAnonymous hcall] at hsettle
    · obtain ⟨answer, rfl⟩ := Option.isSome_iff_exists.mp hreply.symm
      exact ⟨_, Tab.step_receive hother contentLength complete,
        h.settle id fun h => absurd h hcall⟩
  · have hagrees := h.flights id
    rw [hflight] at hagrees
    have hsettle := @Tab.Agrees.settle _ _ rules _ _ h id call .failed _ fun _ => rfl
    rcases hagrees.of_some with ⟨hcall, hother⟩ | ⟨hcall, request', reply', hother, hreply⟩
    · rw [redactCall_of_isAnonymous hcall] at hsettle
      exact ⟨_, Tab.step_lose hother, hsettle⟩
    · exact ⟨_, Tab.step_lose hother, hsettle⟩
  · have hother := h.waiting id
    rw [hwaiting] at hother
    have hstep' : Tab.step rules other (.pause id (redactCall call)) =
        some ⟨other.flights, Function.update other.waiting id (some ⟨redactCall call, true⟩),
          other.cache⟩ := by
      simp only [Tab.step, (redactCall_spec call).1, hkey, hother, Option.map_none]
    exact ⟨_, hstep', h.flights, h.update_waiting id (some ⟨call, true⟩), h.cache⟩
  · have hagrees := h.flights id
    have hother := h.waiting id
    rw [hflight] at hagrees
    rw [hwaiting] at hother
    obtain ⟨request', hrequest'⟩ := exists_request_redactCall hrequest
    have hstep' : Tab.step rules other (.resume id []) =
        some ⟨Function.update other.flights id (some ⟨redactCall call, request', none⟩),
          Function.update other.waiting id none, other.cache⟩ := by
      simp only [Tab.step, hother, Option.map_some, Waiting.redact, hagrees.of_none, hrequest']
    have hcall : ¬IsAnonymous call := by
      rintro ⟨key, hkey, -⟩
      rw [hvalid.waiting id _ hwaiting] at hkey
      cases hkey
    exact ⟨_, hstep', h.update id (.hidden hcall rfl), h.update_waiting id none, h.cache⟩
  · have hother := h.waiting id
    rw [hwaiting] at hother
    have hstep' : Tab.step rules other (.resume id []) =
        some ⟨other.flights, Function.update other.waiting id none, other.cache⟩ := by
      simp only [Tab.step, hother, Option.map_some, Waiting.redact]
    exact ⟨_, hstep', h.flights, h.update_waiting id none, h.cache⟩
  · refine ⟨_, rfl, h.flights, h.waiting, cache_update h.cache ?_⟩
    intro hprivate
    rw [h.cache key hprivate]

/-- **A step leaves the browsers in agreement.**

**Proof sketch.** By the kind of the event. A step of a tab is one of the other browser's tab by
`Tab.Agrees.step`, and the other tabs stay as they were. The tabs agree on the queries that are
persisted, and wait with the same mutations but for the NPSSO, so they persist the same. A reloaded
tab is restored from storages that agree, or from empty ones. -/
lemma Profile.Agrees.step {rules : QueryRules Q S} {profile other next : Profile Q}
    {event : ProfileEvent S} (hvalid : profile.Valid rules) (h : profile.Agrees other)
    (hstep : Profile.step rules profile event = some next) :
    ∃ next', Profile.step rules other (redact event) = some next' ∧ next.Agrees next' := by
  have hupdate : ∀ (tab : ℕ) {new new' : Tab Q}, new.Agrees new' → ∀ tab',
      Tab.Agrees (Function.update profile.tabs tab new tab')
        (Function.update other.tabs tab new' tab') := by
    intro tab new new' hnew tab'
    by_cases htab : tab' = tab
    · rw [htab, Function.update_self, Function.update_self]
      exact hnew
    · rw [Function.update_of_ne htab, Function.update_of_ne htab]
      exact h.tabs tab'
  cases event with
  | tab tab event =>
    obtain ⟨new, hnew, rfl⟩ := Option.map_eq_some_iff.mp hstep
    obtain ⟨new', hnew', hagrees⟩ := Tab.Agrees.step (hvalid.tabs tab) (h.tabs tab) hnew
    exact ⟨_, Option.map_eq_some_iff.mpr ⟨new', hnew', rfl⟩, hupdate tab hagrees, h.storage,
      h.mutations⟩
  | persist tab =>
    obtain rfl := Option.some.inj hstep
    refine ⟨_, rfl, h.tabs, ?_, ?_⟩
    · intro key hprivate
      show (dehydrate (profile.tabs tab)).queries key = (dehydrate (other.tabs tab)).queries key
      unfold dehydrate
      dsimp only
      rw [(h.tabs tab).cache key hprivate]
    · intro id
      show (dehydrate (other.tabs tab)).mutations id =
        ((dehydrate (profile.tabs tab)).mutations id).map redactCall
      unfold dehydrate
      dsimp only
      rw [(h.tabs tab).waiting id, Option.map_map, Option.map_map]
      rfl
  | reload tab expired =>
    obtain rfl := Option.some.inj hstep
    cases expired with
    | true =>
      exact ⟨_, rfl, hupdate tab (Tab.agrees_restore (fun _ _ => rfl) fun _ => rfl),
        fun _ _ => rfl, fun _ => rfl⟩
    | false =>
      exact ⟨_, rfl, hupdate tab (Tab.agrees_restore h.storage h.mutations), h.storage,
        h.mutations⟩

/-- **The storage is the one of a browser that was never signed in**, but for the NPSSO of a sign-in
that waits for the network. Whatever the library makes of outcomes and signals, and for every run of
any number of tabs: the same events without cookies and without NPSSO can happen too, and

* they leave the same state of every query in the storage, but for the pages of two games whose id
  is the name of a signed-in list;
* these two hold no value, only what failures make;
* the stored queries are game lists and game pages;
* they leave the same mutations in the storage, without the NPSSO of a sign-in;
* a stored mutation is a sign-in or a sign-out that the user submitted without a network.

**Proof sketch.** The run without cookies keeps the browsers in agreement (`Profile.Agrees.step`):
the answer to a call of a query outside the signed-in lists does not depend on the cookies
(`response_of_anonymous`), and the other calls change only the queries of these lists and of the two
game pages, whose calls fail on every answer (`outcome_getGame_of_signedIn`). The mutations are
followed from their submission on (`Profile.Traced`). -/
theorem persisted_anonymous (rules : QueryRules Q S) {events : List (ProfileEvent S)}
    {profile : Profile Q} (h : (profileSystem rules).run Profile.init events = some profile) :
    ∃ anonymous, (profileSystem rules).run Profile.init (events.map redact) = some anonymous ∧
      (∀ key ∉ collidingKeys, profile.storage.queries key = anonymous.storage.queries key) ∧
      (∀ key ∈ collidingKeys, rules.Valueless (profile.storage.queries key)) ∧
      (∀ key, profile.storage.queries key ≠ none → shouldDehydrateQuery key = true) ∧
      (∀ id, anonymous.storage.mutations id = (profile.storage.mutations id).map redactCall) ∧
      ∀ id call, profile.storage.mutations id = some call →
        queryKey call = none ∧ ∃ tab, .tab tab (.pause id call) ∈ events := by
  have hinit : Profile.Agrees (Profile.init : Profile Q) Profile.init :=
    ⟨fun _ => Tab.agrees_restore (fun _ _ => rfl) fun _ => rfl, fun _ _ => rfl, fun _ => rfl⟩
  obtain ⟨anonymous, hrun, hagrees⟩ := @TransitionSystem.run_related _ _ (profileSystem rules) _ _
    (profileSystem rules) Profile.Agrees redact
    (fun s t e s' hs hst hstep => Profile.Agrees.step (.of_reachable hs) hst hstep) hinit _ _ h
  have hvalid : profile.Valid rules := .of_reachable ⟨events, h⟩
  have hvalid' : anonymous.Valid rules := .of_reachable ⟨_, hrun⟩
  refine ⟨anonymous, hrun, ?_, hvalid.storage, hvalid.stored, hagrees.mutations, ?_⟩
  · intro key hcolliding
    by_cases hprivate : key ∈ privateKeys
    · have hsigned : key ∈ signedInQueryKeys :=
        (List.mem_append.mp hprivate).resolve_right hcolliding
      have hnot : ∀ key ∈ signedInQueryKeys, shouldDehydrateQuery key = false := by decide
      have habsent : ∀ {p : Profile Q}, p.Valid rules → p.storage.queries key = none := by
        intro p hp
        by_contra hsome
        have hstored := hp.stored key hsome
        rw [hnot key hsigned] at hstored
        cases hstored
      rw [habsent hvalid, habsent hvalid']
    · exact hagrees.storage key hprivate
  · intro id call hcall
    exact ⟨hvalid.mutations id call hcall, (Profile.Traced.of_run h).stored id call hcall⟩

/-- A query that keeps its last value. -/
def sampleRules : QueryRules Value Unit where
  settle := fun _ outcome state => outcome.toOption.join <|> state
  signal := fun _ state => state

/-- A signed-in user opens the page of a game whose id is the name of a signed-in list, and submits
another sign-in without a network. -/
def sampleVisit : List (ProfileEvent Unit) :=
  [.tab 0 (.send 0 (.fetchGame (toUtf16 "purchased".toList)) [asciiBytes "npsso=synthetic"]),
    .tab 0 (.send 1 .fetchPurchasedGames [asciiBytes "npsso=synthetic"]),
    .tab 0 (.serve 1 (sampleServer none) false), .tab 0 (.receive 1 none true),
    .tab 0 (.serve 0 (sampleServer none) false), .tab 0 (.receive 0 none true),
    .tab 0 (.pause 2 (.signIn "abcdefgh01234567")), .persist 0]

/-- The NPSSO of the sign-in is in the storage, and not in the one of the other browser. -/
theorem persisted_anonymous_sample : ∃ profile anonymous,
    (profileSystem sampleRules).run Profile.init sampleVisit = some profile ∧
      profile.storage.mutations 2 = some (.signIn "abcdefgh01234567") ∧
      (profileSystem sampleRules).run Profile.init (sampleVisit.map redact) = some anonymous ∧
      anonymous.storage.mutations 2 = some (.signIn "") ∧
      ∀ key ∉ collidingKeys, profile.storage.queries key = anonymous.storage.queries key := by
  have hrun : ((profileSystem sampleRules).run Profile.init sampleVisit).any (fun profile =>
      (profile.storage.mutations 2).any fun call =>
        match call with
        | .signIn npsso => npsso == "abcdefgh01234567"
        | _ => false) = true := by
    decide +kernel
  obtain ⟨profile, hprofile, hstored⟩ := (Option.any_eq_true _ _).mp hrun
  obtain ⟨call, hcall, hsignIn⟩ := (Option.any_eq_true _ _).mp hstored
  obtain ⟨anonymous, hanonymous, hqueries, -, -, hmutations, -⟩ :=
    persisted_anonymous sampleRules hprofile
  cases call with
  | signIn npsso =>
    obtain rfl := beq_iff_eq.mp hsignIn
    refine ⟨profile, anonymous, hprofile, hcall, hanonymous, ?_, hqueries⟩
    rw [hmutations, hcall]
    rfl
  | _ => cases hsignIn

end Web

end PsStore
