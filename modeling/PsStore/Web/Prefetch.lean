import Mathlib.Control.Monad.Basic
import Mathlib.Data.Nat.Notation
import PsStore.Lib.Transition

set_option relaxedAutoImplicit false
set_option autoImplicit false

/-!
# The prefetch of the other tabs

`modules/prefetchRunner.ts` and `modules/prefetchTabs.ts` as a transition system: any number of
`runPrefetch` loops share one session. The events are the stretches of code between two awaits, and
what the browser and the query client do in between, in any order.

The query client is outside: each event that reads it carries what it finds there. Only one thing is
taken from its documentation: while a fetch that it runs has sent its request, the query is in the
client and fetches, and while the fetch waits for the network, the query is there and is paused. A
reset or a cancelled fetch leaves the HTTP request of a call on its way: only the abort controller
of the call stops it.

## Main definitions

* `Prefetch.nextTab`, `Prefetch.isReady`, `Prefetch.isJoined` — what a loop decides from the client.
* `Prefetch.Sys`, `Prefetch.Event`, `Prefetch.system` — the states, the events and their steps.
-/

namespace PsStore.Prefetch

/-! ## Tabs -/

/-- The tabs that the prefetch warms. -/
inductive PrefetchTab where
  | upcoming
  | discounted
  | monthly
  | wishlist
  | purchased
deriving DecidableEq

/-- `denied` after Sony rejected the sign-in cookie, or after a sign-out. -/
inductive SignedInAccess where
  | unknown
  | denied
deriving DecidableEq

/-- The order of the prefetch. -/
def prefetchOrder : List PrefetchTab := [.upcoming, .discounted, .monthly, .wishlist, .purchased]

/-- The tab needs a sign-in. -/
def isSignedInTab : PrefetchTab → Bool
  | .wishlist | .purchased => true
  | .upcoming | .discounted | .monthly => false

/-- The first tab without data, without the signed-in ones where access is denied. -/
def nextTab (order : List PrefetchTab) (hasData : PrefetchTab → Bool) (access : SignedInAccess) :
    Option PrefetchTab :=
  order.find? fun tab => !hasData tab && !(access == .denied && isSignedInTab tab)

/-! ## The query client -/

/-- The games lists that a route shows. -/
inductive GamesFeature where
  | new
  | upcoming
  | discounted
  | monthly
deriving DecidableEq

/-- The key of a query. -/
inductive QueryKey where
  | games (feature : GamesFeature)
  | wishlist
  | purchased
  | other (text : String)
deriving DecidableEq

/-- Whether a query has data. -/
inductive QueryStatus where
  | pending
  | error
  | success
deriving DecidableEq

/-- Whether a query fetches. A query that is `paused` waits for the network. -/
inductive FetchStatus where
  | fetching
  | paused
  | idle
deriving DecidableEq

/-- A query of the client. -/
structure Query where
  queryKey : QueryKey
  status : QueryStatus
  fetchStatus : FetchStatus
  /-- A view observes the query. -/
  isActive : Bool
deriving DecidableEq

/-- What the functions read of the query client. -/
structure Client where
  queries : List Query
  /-- The browser has a network, so that a fetch sends its request at once. -/
  online : Bool
deriving DecidableEq

/-- The number of queries that fetch. -/
def Client.isFetching (client : Client) : ℕ :=
  client.queries.countP (·.fetchStatus = .fetching)

/-- The query of a key. -/
def findQuery (client : Client) (queryKey : QueryKey) : Option Query :=
  client.queries.find? (·.queryKey = queryKey)

/-- The key of the query of a tab. -/
def PrefetchTab.queryKey : PrefetchTab → QueryKey
  | .upcoming => .games .upcoming
  | .discounted => .games .discounted
  | .monthly => .games .monthly
  | .wishlist => .wishlist
  | .purchased => .purchased

/-- The games list of a route. -/
def gamesFeatureForPath : String → Option GamesFeature
  | "/new" => some .new
  | "/upcoming" => some .upcoming
  | "/discounted" => some .discounted
  | "/monthly" => some .monthly
  | _ => none

/-- The key of the query that the view of a route fetches. -/
def openViewKey (pathname : String) : Option QueryKey :=
  match gamesFeatureForPath pathname with
  | some feature => some (.games feature)
  | none =>
    if pathname = "/wishlist" then some .wishlist
    else if pathname = "/purchased" then some .purchased
    else none

/-- A tab is covered when it has data or a view that fetches it is open. -/
def isCovered (client : Client) (tab : PrefetchTab) : Bool :=
  (findQuery client tab.queryKey).any fun query => query.status == .success || query.isActive

/-- Prefetch starts only when nothing else fetches and the open tab, if any, has settled. -/
def isReady (client : Client) (pathname : String) : Bool :=
  if client.isFetching > 0 then false
  else
    match openViewKey pathname with
    | none => true
    | some key => (findQuery client key).any fun query => query.status != .pending

/-! ## The state -/

/-- The session of a page load. `stopSignedIn` is the number of the `prefetchTab` call whose abort
function it holds. -/
structure PrefetchSession where
  halted : Bool
  access : SignedInAccess
  /-- Path of the open route; `none` once the shell is gone. -/
  pathname : Option String
  stopSignedIn : Option ℕ
deriving DecidableEq

/-- The session of a new page load. -/
def createPrefetchSession : PrefetchSession where
  halted := false
  access := .unknown
  pathname := none
  stopSignedIn := none

/-- What a fetch rejects with: a `CancelledError`, an `ApiError` with its status, or another
error. -/
inductive FetchError where
  | cancelled
  | api (status : ℕ)
  | other
deriving DecidableEq

/-- The `fetching` promise of a `prefetchTab` call. -/
inductive Fetching where
  /-- The query runs the fetch of the call, which has sent its request. -/
  | sent
  /-- The query runs the fetch of the call, which waits for the network. -/
  | paused
  /-- The query does not run a fetch of the call: it was reset, or was fetching before. The promise
  follows the query. -/
  | following
  | settled (result : Except FetchError Unit)
deriving DecidableEq

/-- The HTTP request of a `prefetchTab` call. It has the abort controller of the call, and the query
client does not stop it: it goes on when the query is reset or its fetch is cancelled. -/
inductive Request where
  /-- The call has not sent a request. -/
  | unsent
  | sent
  | ended
deriving DecidableEq

/-- A `prefetchTab` call. -/
structure Call where
  loop : ℕ
  tab : PrefetchTab
  fetching : Fetching
  request : Request
  /-- `http.signal.aborted`. -/
  aborted : Bool
  /-- The abort of the loop has queued the microtask of the call. -/
  abortQueued : Bool
  /-- The `finally` block has run. -/
  finished : Bool
deriving DecidableEq

/-- The outcome of a `prefetchTab` call. -/
inductive Outcome where
  | done
  | interrupted
  | failed (error : FetchError)
deriving DecidableEq

/-- Where a `runPrefetch` loop awaits. -/
inductive Phase where
  /-- At `Promise.resolve()`. -/
  | entered
  /-- At `untilReady`, whose promise is pending. -/
  | waiting
  /-- At `untilReady`, whose promise has resolved. -/
  | resolved (ready : Bool)
  /-- At `prefetchTab`, before the `finally` block of the call. -/
  | prefetching (call : ℕ)
  /-- At `prefetchTab`, whose call has returned. -/
  | returned (tab : PrefetchTab) (outcome : Outcome)
  | ended
deriving DecidableEq

/-- A `runPrefetch` loop. -/
structure Loop where
  pathname : String
  /-- `signal.aborted`. -/
  aborted : Bool
  phase : Phase
deriving DecidableEq

/-- The session with its loops and their `prefetchTab` calls, by number. -/
structure Sys where
  session : PrefetchSession
  loops : List Loop
  calls : List Call
deriving DecidableEq

/-- What happens. An event that reads the client carries it. -/
inductive Event where
  /-- The hook calls `runPrefetch` for a route. -/
  | runPrefetch (pathname : String)
  /-- The shell unmounts. -/
  | unmount
  /-- The hook aborts a loop. -/
  | abort (loop : ℕ)
  /-- The microtask that the abort of its loop queued for a call. -/
  | abortTask (call : ℕ) (client : Client)
  /-- A query starts to fetch, and the cache tells the calls. -/
  | fetchEvent (queryKey : QueryKey) (client : Client)
  /-- The cache changes, and the route of a loop that waits is ready. -/
  | ready (loop : ℕ) (client : Client)
  /-- The network is back, and the fetch of a call sends its request. -/
  | goOn (call : ℕ) (client : Client)
  /-- Other code resets a query, as a sign-in does. -/
  | reset (queryKey : QueryKey)
  /-- The promise of a call settles. -/
  | settle (call : ℕ) (result : Except FetchError Unit)
  /-- A request that no fetch waits for any more ends. -/
  | answered (call : ℕ)
  /-- The end of a `prefetchTab` call after its fetch: the `catch` and `finally` blocks. -/
  | finish (call : ℕ) (client : Client)
  /-- The continuation of a loop after its await. -/
  | resume (loop : ℕ) (client : Client)
  /-- A sign-out: `stopSignedInPrefetch`. -/
  | signOut
deriving DecidableEq

/-! ## The steps -/

/-- The query of a call is reset. Its fetch is cancelled, and an unsettled promise follows the
query; a request that is on its way goes on. -/
def Call.reset (call : Call) : Call :=
  match call.fetching with
  | .sent | .paused => { call with fetching := .following }
  | .following | .settled _ => call

/-- The promise of a call settles. A request has ended where its own fetch settles with anything but
a cancellation. -/
def Call.settle (result : Except FetchError Unit) (call : Call) : Call :=
  { call with
    fetching := .settled result
    request :=
      if call.fetching = .sent ∧ result ≠ .error .cancelled then .ended else call.request }

/-- The client holds the queries of the calls whose fetches are not settled. -/
def Agrees (client : Client) (calls : List Call) : Prop :=
  ∀ call ∈ calls,
    (call.fetching = .sent →
      (findQuery client call.tab.queryKey).any (·.fetchStatus = .fetching) = true) ∧
    (call.fetching = .paused →
      (findQuery client call.tab.queryKey).any (·.fetchStatus = .paused) = true)

instance (client : Client) (calls : List Call) : Decidable (Agrees client calls) := by
  unfold Agrees
  infer_instance

namespace Sys

/-- Before the first loop. -/
def start : Sys where
  session := createPrefetchSession
  loops := []
  calls := []

/-- The state with another phase of a loop. -/
def setPhase (s : Sys) (l : ℕ) (phase : Phase) : Sys :=
  { s with loops := s.loops.modify l fun loop => { loop with phase } }

/-- The state with a call updated. -/
def updateCall (s : Sys) (i : ℕ) (f : Call → Call) : Sys :=
  { s with calls := s.calls.modify i f }

/-- A view has joined the query, or the open route is about to join it. -/
def isJoined (s : Sys) (client : Client) (queryKey : QueryKey) : Bool :=
  (findQuery client queryKey).any (·.isActive) ||
    s.session.pathname.any fun pathname => openViewKey pathname == some queryKey

/-- A query is reset. -/
def resetQuery (s : Sys) (queryKey : QueryKey) : Sys :=
  { s with
    calls := s.calls.map fun call => if call.tab.queryKey = queryKey then call.reset else call }

/-- `discardIfUnwatched`: resets a query that no view observes. -/
def discardIfUnwatched (s : Sys) (client : Client) (queryKey : QueryKey) : Sys :=
  match findQuery client queryKey with
  | none => s
  | some query => if query.isActive then s else s.resetQuery queryKey

/-- The abort function of a call without `force`: a query that a view has joined is never
aborted. -/
def abortUnlessJoined (s : Sys) (client : Client) (i : ℕ) : Sys :=
  match s.calls[i]? with
  | none => s
  | some call =>
    if s.isJoined client call.tab.queryKey then s
    else (s.updateCall i fun call => { call with aborted := true }).discardIfUnwatched client
      call.tab.queryKey

/-- The abort function of a call with `force`. -/
def abortForced (s : Sys) (i : ℕ) : Sys :=
  s.updateCall i fun call => { call with aborted := true }

/-- `stopSignedInPrefetch`. -/
def stopSignedInPrefetch (s : Sys) : Sys :=
  let s := { s with session := { s.session with access := .denied } }
  match s.session.stopSignedIn with
  | none => s
  | some i => s.abortForced i

/-- The subscription of a call: another query fetches. -/
def onFetch (queryKey : QueryKey) (client : Client) (s : Sys) (i : ℕ) : Sys :=
  match s.calls[i]? with
  | none => s
  | some call =>
    if call.finished || call.tab.queryKey == queryKey then s else s.abortUnlessJoined client i

/-- The cache tells every call that a query fetches. -/
def fetchEvent (s : Sys) (queryKey : QueryKey) (client : Client) : Sys :=
  (List.range s.calls.length).foldl (onFetch queryKey client) s

/-- The hook aborts a loop. The listeners of `untilReady` and of a `prefetchTab` call hear of the
first abort. -/
def abort (s : Sys) (l : ℕ) (loop : Loop) : Sys :=
  if loop.aborted then s
  else
    let s := { s with loops := s.loops.set l { loop with aborted := true } }
    match loop.phase with
    | .waiting => s.setPhase l (.resolved false)
    | .prefetching i => s.updateCall i fun call => { call with abortQueued := true }
    | .entered | .resolved _ | .returned _ _ | .ended => s

/-- The head of the `while` loop, up to the await of `untilReady`. -/
def head (s : Sys) (client : Client) (l : ℕ) (loop : Loop) : Sys :=
  if loop.aborted || s.session.halted then s.setPhase l .ended
  else if isReady client loop.pathname then s.setPhase l (.resolved true)
  else s.setPhase l .waiting

/-- The promise of a fetch that a call starts. -/
def startFetch (client : Client) (queryKey : QueryKey) : Fetching :=
  match (findQuery client queryKey).map Query.fetchStatus with
  | some .fetching | some .paused => .following
  | some .idle | none => if client.online then .sent else .paused

/-- The start of a fetch tells the other calls of it. -/
def tellStart (s : Sys) (client : Client) (tab : PrefetchTab) : Sys :=
  if startFetch client tab.queryKey = .following then s else s.fetchEvent tab.queryKey client

/-- `prefetchTab` up to its await. -/
def startTab (s : Sys) (client : Client) (l : ℕ) (tab : PrefetchTab) : Sys :=
  let s := s.tellStart client tab
  let i := s.calls.length
  let fetching := startFetch client tab.queryKey
  let call : Call :=
    { loop := l, tab, fetching, request := if fetching = .sent then .sent else .unsent,
      aborted := false, abortQueued := false, finished := false }
  { s.setPhase l (.prefetching i) with
    calls := s.calls ++ [call]
    session := { s.session with
      stopSignedIn := if isSignedInTab tab then some i else s.session.stopSignedIn } }

/-- The tab that a loop starts when it resumes, if any. -/
def startsTab (s : Sys) (client : Client) (loop : Loop) : Option PrefetchTab :=
  if loop.phase = .resolved true ∧ isReady client loop.pathname = true then
    nextTab prefetchOrder (isCovered client) s.session.access
  else none

/-- What a loop makes of the outcome of a tab. -/
def judge (s : Sys) (tab : PrefetchTab) : Outcome → Sys
  | .done | .interrupted => s
  | .failed error =>
    if isSignedInTab tab && error == .api 401 then
      { s with session := { s.session with access := .denied } }
    else { s with session := { s.session with halted := true } }

/-- The continuation of a loop, or `none` where it awaits something that is pending. -/
def resume (s : Sys) (client : Client) (l : ℕ) (loop : Loop) : Option Sys :=
  match loop.phase with
  | .entered => some (s.head client l loop)
  | .resolved false => some (s.setPhase l .ended)
  | .resolved true =>
    if isReady client loop.pathname then
      match nextTab prefetchOrder (isCovered client) s.session.access with
      | none => some (s.setPhase l .ended)
      | some tab => some (s.startTab client l tab)
    else some (s.head client l loop)
  | .returned tab outcome => some ((s.judge tab outcome).head client l loop)
  | .waiting | .prefetching _ | .ended => none

/-- The `catch` block of a `prefetchTab` call: a failed entry is discarded. -/
def catchFailure (s : Sys) (client : Client) (tab : PrefetchTab) :
    Except FetchError Unit → Sys
  | .ok () => s
  | .error _ => s.discardIfUnwatched client tab.queryKey

/-- The outcome of a call. -/
def outcome (call : Call) : Except FetchError Unit → Outcome
  | .ok () => .done
  | .error error => if call.aborted || error == .cancelled then .interrupted else .failed error

/-- The `finally` block of a `prefetchTab` call, and its return. -/
def finallyBlock (s : Sys) (i : ℕ) (call : Call) (result : Except FetchError Unit) : Sys :=
  let s := s.updateCall i fun call => { call with finished := true }
  let s := { s with session := { s.session with stopSignedIn := none } }
  s.setPhase call.loop (.returned call.tab (outcome call result))

end Sys

/-- The step of an event on a client that it reads. -/
def stepOn (s : Sys) : Event → Option Sys
  | .runPrefetch pathname =>
    some { s with
      session := { s.session with pathname := some pathname }
      loops := s.loops ++ [{ pathname, aborted := false, phase := .entered }] }
  | .unmount => some { s with session := { s.session with pathname := none } }
  | .abort l => s.loops[l]?.map (s.abort l)
  | .abortTask i client =>
    match s.calls[i]? with
    | none => none
    | some call =>
      if call.abortQueued then
        some ((s.updateCall i fun call =>
          { call with abortQueued := false }).abortUnlessJoined client i)
      else none
  | .fetchEvent queryKey client => some (s.fetchEvent queryKey client)
  | .ready l client =>
    match s.loops[l]? with
    | none => none
    | some loop =>
      if loop.phase = .waiting ∧ isReady client loop.pathname = true then
        some (s.setPhase l (.resolved true))
      else none
  | .goOn i client =>
    match s.calls[i]? with
    | none => none
    | some call =>
      if call.fetching = .paused then
        some ((s.updateCall i fun call =>
          { call with fetching := .sent, request := .sent }).fetchEvent call.tab.queryKey client)
      else none
  | .reset queryKey => some (s.resetQuery queryKey)
  | .settle i result =>
    match s.calls[i]? with
    | none => none
    | some call =>
      match call.fetching with
      | .settled _ => none
      | .sent | .paused | .following => some (s.updateCall i (Call.settle result))
  | .answered i =>
    match s.calls[i]? with
    | none => none
    | some call =>
      if call.request = .sent ∧ call.fetching ≠ .sent then
        some (s.updateCall i fun call => { call with request := .ended })
      else none
  | .finish i client =>
    match s.calls[i]? with
    | none => none
    | some call =>
      match call.fetching with
      | .settled result =>
        if call.finished then none
        else some ((s.catchFailure client call.tab result).finallyBlock i call result)
      | .sent | .paused | .following => none
  | .resume l client => s.loops[l]?.bind (s.resume client l)
  | .signOut => some s.stopSignedInPrefetch

/-- The client that an event reads. -/
def Event.client? : Event → Option Client
  | .abortTask _ client | .fetchEvent _ client | .ready _ client | .goOn _ client
  | .finish _ client | .resume _ client => some client
  | .runPrefetch _ | .unmount | .abort _ | .reset _ | .settle _ _ | .answered _ | .signOut => none

/-- The step of an event, or `none` where the event cannot happen. The client that an event reads
agrees with the fetches under way. -/
def step (s : Sys) (e : Event) : Option Sys :=
  if ∀ client ∈ e.client?, Agrees client s.calls then stepOn s e else none

/-- The transition system. -/
def system : TransitionSystem Sys Event where
  init := Sys.start
  step := step

end PsStore.Prefetch
