import PsStore.Client.Requests
import PsStore.Web.ListView

set_option relaxedAutoImplicit false
set_option autoImplicit false

/-!
# Reading a list through the API

The list query of `modules/gamesQuery.ts` with the calls that it makes: each page is a call of the
client, a request of the browser, an answer of the server, and the reading of its text. Any call may
fail on the way, on the server or in the store. The query keeps its pages through a failed next page
and a failed refresh.

## Main definitions

* `Web.Attempt`, `Web.pageOutcome` — what happens to the call for one page, and its outcome.
* `Web.ListEvent`, `Web.listSystem` — the list query and its runs.
* `Web.loadAllPages` — the loop of `modules/gamesQuery.ts`.

## Main results

* `Web.pageOutcome_eq_ok` — a page that arrives is the page of the server's list.
* `Web.list_read` — in every run the query holds a front part of the list, and the loop reads the
  whole list where its calls are answered.
-/

namespace PsStore

namespace Web

open Client Json

/-! ## The call for one page -/

/-- The call of a feature. -/
def fetchGames : GamesFeature → ℕ → ℕ → Client.Call
  | .new => .fetchNewGames
  | .upcoming => .fetchUpcomingGames
  | .discounted => .fetchDiscountedGames
  | .monthly => .fetchMonthlyGames

/-- The service behind the route of a feature. -/
def featureService (services : Services) : GamesFeature → Page → Except UpstreamError PageResult
  | .new => services.newGames
  | .upcoming => services.upcomingGames
  | .discounted => services.discountedGames
  | .monthly => services.monthlyGames

/-- How an answer arrives. -/
inductive Arrival where
  | whole (contentLength : Option String)
  /-- The reading of the body fails. -/
  | cut (contentLength : Option String)
  | lost

/-- What happens to a call, after the retries: the server as it is then, the cookies of the browser,
and the arrival of the answer. -/
structure Attempt where
  server : Server
  cookies : List (List UInt8)
  arrival : Arrival

/-- What arrives of an answer. -/
def Arrival.fetched (response : Response Payload) : Arrival → Fetched
  | .whole contentLength => .answered response.status contentLength (some response.text)
  | .cut contentLength => .answered response.status contentLength none
  | .lost => .failed

/-- The page that the query reads of the data of a call, which the schema has accepted. -/
def pageOf (data : Value) : PageResult := (zPageResult data).getD ⟨[], 0, none⟩

/-- The outcome of the call for the page at an offset. -/
def pageOutcome (feature : GamesFeature) (offset : ℕ) (attempt : Attempt) :
    Except Failure PageResult :=
  match (fetchGames feature offset pageSize).request attempt.cookies with
  | none => .error .original
  | some request =>
    (unwrap read zPageResult
      (attempt.arrival.fetched (app attempt.server request).response)).map pageOf

/-! ## The list query -/

/-- The offset of the next page of a query, and 0 where it has no page. -/
def ListQuery.nextPageParam (query : ListQuery) : Option ℕ :=
  match query.pages with
  | none => some 0
  | some pages => pages.getLast?.bind getNextPageParam

/-- The query after the outcome of the call for its next page. -/
def ListQuery.settle (query : ListQuery) : Except Failure PageResult → ListQuery
  | .ok page => .loaded ((query.pages.getD []) ++ [page])
  | .error _ =>
    match query.pages with
    | none => .failed
    | some pages => .nextPageFailed pages

/-- The pages of a refresh, which reads as many pages as there were, from the first one on. -/
def refetch (feature : GamesFeature) : ℕ → ℕ → List Attempt → Except Failure (List PageResult)
  | 0, _, _ => .ok []
  | _ + 1, _, [] => .error .original
  | remaining + 1, offset, attempt :: attempts => do
    let page ← pageOutcome feature offset attempt
    match getNextPageParam page with
    | none => .ok [page]
    | some next => return page :: (← refetch feature remaining next attempts)

/-- An event of the query: the view asks for the next page, or reads its pages again. The prefetch
of the other tabs is no event: it fetches the first page of a list that has no data or has failed,
and may reset a list that no view shows, and so it may lose pages. -/
inductive ListEvent where
  | fetchNextPage (attempt : Attempt)
  | refetch (attempts : List Attempt)

/-- The query after an event. Without a next page nothing is fetched, and the first page is fetched
as the next one. -/
def ListQuery.step (feature : GamesFeature) (query : ListQuery) : ListEvent → Option ListQuery
  | .fetchNextPage attempt =>
    query.nextPageParam.map fun offset => query.settle (pageOutcome feature offset attempt)
  | .refetch attempts =>
    query.pages.map fun pages =>
      match Web.refetch feature pages.length 0 attempts with
      | .ok fresh => .loaded fresh
      | .error _ => .refreshFailed pages

/-- The list query as a transition system. -/
def listSystem (feature : GamesFeature) : TransitionSystem ListQuery ListEvent where
  init := .pending
  step := ListQuery.step feature

/-- `loadAllPages`: fetches every remaining page, one at a time, until one fails. -/
def loadAllPages (feature : GamesFeature) : ListQuery → List Attempt → ListQuery
  | query, [] => query
  | query, attempt :: attempts =>
    match query.nextPageParam with
    | none => query
    | some offset =>
      match pageOutcome feature offset attempt with
      | .ok page => loadAllPages feature (query.settle (.ok page)) attempts
      | .error failure => query.settle (.error failure)

/-! ## The pages of the server -/

/-- The list of the feature is that of the lookups for the server of an attempt, unless its service
fails. -/
def Attempt.Serves (feature : GamesFeature) (u : Lookups) (attempt : Attempt) : Prop :=
  ∀ page, featureService attempt.server.services feature page = u.featureGames feature page ∨
    ∃ error, featureService attempt.server.services feature page = .error error

/-- The service answers, no handler panics, and the answer arrives. -/
def Attempt.Answered (feature : GamesFeature) (u : Lookups) (attempt : Attempt) : Prop :=
  (∀ page, featureService attempt.server.services feature page = u.featureGames feature page) ∧
    (∀ request, attempt.server.panics request = false) ∧
    ∃ contentLength, attempt.arrival = .whole contentLength ∧ contentLength ≠ some "0"

/-- Every attempt of an event serves the list. -/
def ListEvent.Serves (feature : GamesFeature) (u : Lookups) : ListEvent → Prop
  | .fetchNextPage attempt => attempt.Serves feature u
  | .refetch attempts => ∀ attempt ∈ attempts, attempt.Serves feature u

/-- **The request for a page** is answered by the service of its feature, unless its handling
panics. -/
lemma exists_request (feature : GamesFeature) {offset : ℕ}
    (hoffset : offset ≤ Client.maxSafeInteger) (attempt : Attempt) :
    ∃ request, (fetchGames feature offset pageSize).request attempt.cookies = some request ∧
      (app attempt.server request).response =
        if attempt.server.panics (trimTrailingSlash request) then
          (Problem.new .internalError).intoResponse
        else respond .ofUpstreamError .page
          (featureService attempt.server.services feature ⟨offset, pageSize⟩) := by
  have hpage : ServesPage maxPageSize ⟨offset, pageSize⟩ :=
    ⟨hoffset, (by decide : 1 ≤ pageSize), (by decide : pageSize ≤ maxPageSize)⟩
  have hanswers : Answers attempt.server attempt.cookies (fetchGames feature offset pageSize)
      (respond .ofUpstreamError .page
        (featureService attempt.server.services feature ⟨offset, pageSize⟩)) := by
    cases feature <;> exact answers_of_page _ rfl rfl rfl rfl hpage fun request => rfl
  obtain ⟨request, hrequest, hanswer⟩ := hanswers
  refine ⟨request, hrequest, ?_⟩
  split_ifs with hpanic
  · show contained attempt.server (trimTrailingSlash request) = _
    unfold contained
    rw [if_pos hpanic]
  · exact (hanswer (Bool.eq_false_iff.mpr hpanic)).2

/-- A page that arrives is read where its integers are exact. -/
lemma unwrap_page {page : PageResult} {fetched : Fetched}
    (h : Delivers (.json (.page page)) fetched) :
    (unwrap read zPageResult fetched).map pageOf =
      if page.totalCount ≤ Client.maxSafeInteger ∧ ∀ n ∈ page.nextOffset, n ≤ Client.maxSafeInteger
      then .ok page
      else .error (.api ⟨200, .invalidResponse, none⟩) := by
  rw [unwrap_delivered page.plain_toJson ⟨_, rfl⟩ rfl h, zPageResult_toJson]
  split_ifs with hexact
  · show Except.ok (pageOf page.toJson) = _
    unfold pageOf
    rw [zPageResult_toJson, if_pos hexact]
    rfl
  · rfl

/-- The next offset of a page lies in the list. -/
lemma nextOffset_lt {games : List Game} (hlength : games.length ≤ usizeMax) {offset size n : ℕ}
    (h : getNextPageParam (paginate games offset size) = some n) :
    n = offset + size ∧ n < games.length := by
  rw [getNextPageParam, paginate_nextOffset hlength] at h
  split_ifs at h with hmore
  obtain rfl := Option.some.inj h
  exact ⟨rfl, hmore⟩

/-- A page of a list has exact integers where the length of the list is exact. -/
lemma exact_paginate {games : List Game} (hlength : games.length ≤ usizeMax) (offset size : ℕ) :
    ((paginate games offset size).totalCount ≤ Client.maxSafeInteger ∧
        ∀ n ∈ (paginate games offset size).nextOffset, n ≤ Client.maxSafeInteger) ↔
      games.length ≤ Client.maxSafeInteger := by
  constructor
  · intro h
    exact h.1
  · intro hle
    refine ⟨hle, ?_⟩
    intro n hn
    have hlt := (nextOffset_lt hlength hn).2
    omega

/-- Only a success that arrives whole gives a page. -/
lemma arrival_of_unwrap {arrival : Arrival} {response : Response Payload} {page : PageResult}
    (h : (unwrap read zPageResult (arrival.fetched response)).map pageOf = .ok page) :
    isOk response.status = true ∧
      ∃ contentLength, arrival = .whole contentLength ∧ contentLength ≠ some "0" := by
  cases hunwrap : unwrap read zPageResult (arrival.fetched response) with
  | error failure =>
    rw [hunwrap] at h
    cases h
  | ok data =>
    obtain ⟨status, contentLength, _, hfetched, hok, hread, ⟨text, rfl, -⟩, -⟩ :=
      unwrap_eq_ok_iff.mp hunwrap
    cases arrival with
    | lost => cases hfetched
    | cut contentLength' => cases hfetched
    | whole contentLength' =>
      cases hfetched
      refine ⟨hok, contentLength, rfl, ?_⟩
      rintro rfl
      rw [skippedBody_eq_true_iff.mpr (Or.inr rfl)] at hread
      cases hread

variable {feature : GamesFeature} {u : Lookups} {games : List Game} {offset : ℕ}

/-- A page of the list that arrives is read where the length of the list is exact. -/
lemma unwrap_paginate (hlength : games.length ≤ usizeMax) {contentLength : Option String}
    (hzero : contentLength ≠ some "0") :
    (unwrap read zPageResult ((Arrival.whole contentLength).fetched
        (.json (.page (paginate games offset pageSize))))).map pageOf =
      if games.length ≤ Client.maxSafeInteger then .ok (paginate games offset pageSize)
      else .error (.api ⟨200, .invalidResponse, none⟩) := by
  have hdelivers : Delivers (.json (.page (paginate games offset pageSize)))
      ((Arrival.whole contentLength).fetched
        (.json (.page (paginate games offset pageSize)))) :=
    ⟨contentLength, rfl, fun h => absurd h hzero⟩
  rw [unwrap_page hdelivers]
  simp only [exact_paginate hlength]

/-- **A page that arrives is the page of the list**, and the length of the list is exact in
JavaScript.

**Proof sketch.** A call that returns a page got a success as a whole, so neither a panic nor a
failure of the service answered it. The service gives the page of the list, and the client returns
what it reads (`unwrap_paginate`), which it can only where the length is exact. -/
theorem pageOutcome_eq_ok (hlist : u.featureList feature = .ok games)
    (hlength : games.length ≤ usizeMax) (hoffset : offset ≤ Client.maxSafeInteger)
    {attempt : Attempt} (hserves : attempt.Serves feature u) {page : PageResult}
    (h : pageOutcome feature offset attempt = .ok page) :
    page = paginate games offset pageSize ∧ games.length ≤ Client.maxSafeInteger := by
  obtain ⟨request, hrequest, hresponse⟩ := exists_request feature hoffset attempt
  unfold pageOutcome at h
  rw [hrequest] at h
  dsimp only at h
  obtain ⟨hok, contentLength, hwhole, hzero⟩ := arrival_of_unwrap h
  have hproblem : ∀ problem : Problem,
      (app attempt.server request).response ≠ problem.intoResponse := by
    intro problem heq
    rw [heq] at hok
    exact absurd (hok.symm.trans (isOk_status problem.code)) (by decide)
  split_ifs at hresponse with hpanic
  · exact absurd hresponse (hproblem _)
  · rcases hserves ⟨offset, pageSize⟩ with hservice | ⟨error, hservice⟩
    · rw [hservice, u.featureGames_eq, hlist] at hresponse
      rw [hresponse, hwhole] at h
      have hread := (unwrap_paginate hlength hzero).symm.trans h
      split_ifs at hread with hexact
      exact ⟨(Except.ok.inj hread).symm, hexact⟩
    · rw [hservice] at hresponse
      exact absurd hresponse (hproblem _)

/-- **An answered call gives the page of the list.** -/
theorem pageOutcome_of_answered (hlist : u.featureList feature = .ok games)
    (hlength : games.length ≤ usizeMax) (hexact : games.length ≤ Client.maxSafeInteger)
    (hoffset : offset ≤ Client.maxSafeInteger) {attempt : Attempt}
    (hanswered : attempt.Answered feature u) :
    pageOutcome feature offset attempt = .ok (paginate games offset pageSize) := by
  obtain ⟨hservice, hpanic, contentLength, hwhole, hzero⟩ := hanswered
  obtain ⟨request, hrequest, hresponse⟩ := exists_request feature hoffset attempt
  rw [hpanic, if_neg Bool.false_ne_true, hservice, u.featureGames_eq, hlist] at hresponse
  unfold pageOutcome
  rw [hrequest]
  dsimp only
  rw [hresponse, hwhole]
  exact (unwrap_paginate hlength hzero).trans (if_pos hexact)

/-! ## The pages that a query holds -/

/-- The request for a page of the list itself. -/
def requestPage (games : List Game) (offset : ℕ) : Except Failure PageResult :=
  .ok (paginate games offset pageSize)

/-- **Following the list.** The pages hold the next part of it, and an offset is left behind them
where the list goes on.

**Proof sketch.** By induction on the fuel: the first page has the games from the offset on, up to
the size of a page, and names the offset behind them exactly where the list goes on
(`paginate_nextOffset`); the other pages go on from there. -/
lemma follow_requestPage (hlength : games.length ≤ usizeMax) {fuel : ℕ} {pages : List PageResult}
    {left : Option ℕ}
    (h : follow (requestPage games) getNextPageParam fuel offset = .ok (pages, left)) :
    pages.flatMap PageResult.games = (games.drop offset).take (pageSize * pages.length) ∧
      left = if offset + pageSize * pages.length < games.length ∨ pages = [] then
        some (offset + pageSize * pages.length) else none := by
  induction fuel generalizing offset pages with
  | zero =>
    cases h
    exact ⟨rfl, (if_pos (Or.inr rfl)).symm⟩
  | succ fuel ih =>
    obtain ⟨page, hpage, hcases⟩ := follow_succ_eq_ok_iff.mp h
    cases hpage
    have hgames : (paginate games offset pageSize).games = (games.drop offset).take pageSize := rfl
    rcases hcases with ⟨hend, rfl, rfl⟩ | ⟨offset', rest, hmore, rfl, hrest⟩
    · constructor
      · rw [List.flatMap_cons, List.flatMap_nil, List.append_nil, hgames]
        rfl
      · rw [getNextPageParam, paginate_nextOffset hlength] at hend
        split_ifs at hend with hlt
        rw [if_neg]
        rintro (hgoes | hnil)
        · exact hlt hgoes
        · cases hnil
    · obtain ⟨rfl, hlt⟩ := nextOffset_lt hlength hmore
      obtain ⟨hshown, hleft⟩ := ih hrest
      have hsum : offset + pageSize + pageSize * rest.length =
          offset + pageSize * (paginate games offset pageSize :: rest).length := by
        rw [List.length_cons]
        ring
      rw [hsum] at hleft
      constructor
      · rw [List.flatMap_cons, hgames, hshown, ← List.drop_drop, ← List.take_add]
        rw [List.length_cons]
        congr 1
        ring
      · rw [hleft]
        congr 1
        rw [eq_iff_iff]
        constructor
        · rintro (hgoes | rfl)
          · exact Or.inl hgoes
          · exact Or.inl hlt
        · rintro (hgoes | hnil)
          · exact Or.inl hgoes
          · cases hnil

/-- Pages that were read one after the other from the start of the list. -/
structure Held (games : List Game) (pages : List PageResult) : Prop where
  ne_nil : pages ≠ []
  exact_length : games.length ≤ Client.maxSafeInteger
  exists_follow : ∃ left,
    follow (requestPage games) getNextPageParam pages.length 0 = .ok (pages, left)

namespace Held

variable {pages : List PageResult}

/-- The offset that is left is the one that the last page names. -/
lemma follow_eq (h : Held games pages) :
    follow (requestPage games) getNextPageParam pages.length 0 =
      .ok (pages, pages.getLast?.bind getNextPageParam) := by
  obtain ⟨left, hleft⟩ := h.exists_follow
  rw [next_getLast_of_follow h.ne_nil hleft, hleft]

/-- The pages are a front part of the list. -/
lemma flatMap_eq (h : Held games pages) (hlength : games.length ≤ usizeMax) :
    pages.flatMap PageResult.games = games.take (pageSize * pages.length) :=
  (follow_requestPage hlength h.follow_eq).1

/-- The next page starts behind the pages. -/
lemma next_eq (h : Held games pages) (hlength : games.length ≤ usizeMax) :
    pages.getLast?.bind getNextPageParam =
      if pageSize * pages.length < games.length then some (pageSize * pages.length) else none := by
  rw [(follow_requestPage hlength h.follow_eq).2]
  simp only [h.ne_nil, or_false, Nat.zero_add]

/-- The first page alone. -/
lemma first (hexact : games.length ≤ Client.maxSafeInteger) :
    Held games [paginate games 0 pageSize] := by
  have hstart : follow (requestPage games) getNextPageParam 0 0 = .ok ([], some 0) := rfl
  exact ⟨List.cons_ne_nil _ _, hexact, _, follow_append hstart rfl⟩

/-- One more page. -/
lemma append (h : Held games pages)
    (hnext : pages.getLast?.bind getNextPageParam = some offset) :
    Held games (pages ++ [paginate games offset pageSize]) := by
  have hfollow := h.follow_eq
  rw [hnext] at hfollow
  have hmore := follow_append hfollow rfl
  refine ⟨by simp, h.exact_length, getNextPageParam (paginate games offset pageSize), ?_⟩
  rw [List.length_append]
  exact hmore

end Held

/-- The pages of a query are pages of the list. -/
def ListQuery.Sound (games : List Game) (query : ListQuery) : Prop :=
  ∀ pages, query.pages = some pages → Held games pages

/-- The next page of a sound query starts behind its pages, at an exact offset. -/
lemma ListQuery.Sound.nextPageParam {query : ListQuery} (h : query.Sound games)
    (hlength : games.length ≤ usizeMax) :
    query.nextPageParam =
      (match query.pages with
      | none => some 0
      | some pages => if pageSize * pages.length < games.length then some (pageSize * pages.length)
        else none) := by
  unfold ListQuery.nextPageParam
  cases hpages : query.pages with
  | none => rfl
  | some pages => exact (h pages hpages).next_eq hlength

/-- The offset of a call is exact. -/
lemma ListQuery.Sound.offset_le {query : ListQuery} (h : query.Sound games)
    (hlength : games.length ≤ usizeMax) (hnext : query.nextPageParam = some offset) :
    offset ≤ Client.maxSafeInteger := by
  rw [h.nextPageParam hlength] at hnext
  cases hpages : query.pages with
  | none =>
    rw [hpages] at hnext
    obtain rfl := Option.some.inj hnext
    exact Nat.zero_le _
  | some pages =>
    rw [hpages] at hnext
    dsimp only at hnext
    split_ifs at hnext with hlt
    obtain rfl := Option.some.inj hnext
    exact hlt.le.trans (h pages hpages).exact_length

/-! ## Runs of the query -/

/-- **What a step does.** -/
lemma ListQuery.step_cases {query query' : ListQuery} {event : ListEvent}
    (h : query.step feature event = some query') :
    (∃ attempt offset, event = .fetchNextPage attempt ∧ query.nextPageParam = some offset ∧
      query' = query.settle (pageOutcome feature offset attempt)) ∨
    ∃ attempts pages, event = .refetch attempts ∧ query.pages = some pages ∧
      (query'.pages = some pages ∨
        ∃ fresh, Web.refetch feature pages.length 0 attempts = .ok fresh ∧
          query' = .loaded fresh) := by
  cases event with
  | fetchNextPage attempt =>
    obtain ⟨offset, hoffset, rfl⟩ := Option.map_eq_some_iff.mp h
    exact Or.inl ⟨attempt, offset, rfl, hoffset, rfl⟩
  | refetch attempts =>
    obtain ⟨pages, hpages, rfl⟩ := Option.map_eq_some_iff.mp h
    refine Or.inr ⟨attempts, pages, rfl, hpages, ?_⟩
    cases hfresh : Web.refetch feature pages.length 0 attempts with
    | error failure => exact Or.inl rfl
    | ok fresh => exact Or.inr ⟨fresh, rfl, rfl⟩

/-- A failed call keeps the pages. -/
lemma ListQuery.pages_settle_error (query : ListQuery) (failure : Failure) :
    (query.settle (.error failure)).pages = query.pages := by
  cases query <;> rfl

/-- A page that arrives is a page of the list behind the pages of the query. -/
lemma ListQuery.Sound.settle {query : ListQuery} (h : query.Sound games)
    (hlist : u.featureList feature = .ok games) (hlength : games.length ≤ usizeMax)
    (hnext : query.nextPageParam = some offset) {attempt : Attempt}
    (hserves : attempt.Serves feature u) :
    (query.settle (pageOutcome feature offset attempt)).Sound games := by
  cases houtcome : pageOutcome feature offset attempt with
  | error failure =>
    intro pages hpages
    rw [ListQuery.pages_settle_error] at hpages
    exact h pages hpages
  | ok page =>
    obtain ⟨rfl, hexact⟩ :=
      pageOutcome_eq_ok hlist hlength (h.offset_le hlength hnext) hserves houtcome
    intro pages hpages
    obtain rfl := Option.some.inj hpages
    unfold ListQuery.nextPageParam at hnext
    cases hheld : query.pages with
    | none =>
      rw [hheld] at hnext
      obtain rfl := Option.some.inj hnext
      exact Held.first hexact
    | some held =>
      rw [hheld] at hnext
      exact (h held hheld).append hnext

/-- A refresh that succeeds follows the list for as many pages as there were. -/
lemma follow_of_refetch (hlist : u.featureList feature = .ok games)
    (hlength : games.length ≤ usizeMax) {remaining : ℕ} {attempts : List Attempt}
    (hserves : ∀ attempt ∈ attempts, attempt.Serves feature u) {fresh : List PageResult}
    (hoffset : offset ≤ Client.maxSafeInteger)
    (h : refetch feature remaining offset attempts = .ok fresh) :
    ∃ left, follow (requestPage games) getNextPageParam remaining offset = .ok (fresh, left) := by
  induction remaining generalizing offset attempts fresh with
  | zero =>
    cases h
    exact ⟨_, rfl⟩
  | succ remaining ih =>
    cases attempts with
    | nil => cases h
    | cons attempt attempts =>
      obtain ⟨page, hpage, h⟩ := bind_eq_ok h
      obtain ⟨rfl, hexact⟩ := pageOutcome_eq_ok hlist hlength hoffset
        (hserves attempt List.mem_cons_self) hpage
      cases hnext : getNextPageParam (paginate games offset pageSize) with
      | none =>
        rw [hnext] at h
        cases h
        exact ⟨none, follow_succ_eq_ok_iff.mpr ⟨_, rfl, Or.inl ⟨hnext, rfl, rfl⟩⟩⟩
      | some next =>
        rw [hnext] at h
        obtain ⟨rest, hrest, h⟩ := bind_eq_ok h
        cases h
        have hlt := (nextOffset_lt hlength hnext).2
        obtain ⟨left, hfollow⟩ := ih (fun attempt hattempt =>
          hserves attempt (List.mem_cons_of_mem _ hattempt)) (hlt.le.trans hexact) hrest
        exact ⟨left, follow_succ_eq_ok_iff.mpr
          ⟨_, rfl, Or.inr ⟨next, rest, hnext, rfl, hfollow⟩⟩⟩

/-- A query keeps the pages of another one, and perhaps holds more. -/
def ListQuery.Keeps (query query' : ListQuery) : Prop :=
  ∀ pages, query.pages = some pages → ∃ more, query'.pages = some (pages ++ more)

/-- **One step.** The query stays sound and keeps its pages.

**Proof sketch.** By `ListQuery.step_cases`. A next page is added behind the pages, or the call
fails and leaves them. A refetch follows the list again from its start: it fails and leaves the
pages, or reads the same ones, because the list is the same. -/
lemma ListQuery.Sound.step {query query' : ListQuery} (h : query.Sound games)
    (hlist : u.featureList feature = .ok games) (hlength : games.length ≤ usizeMax)
    {event : ListEvent} (hserves : event.Serves feature u)
    (hstep : query.step feature event = some query') : query'.Sound games ∧ query.Keeps query' := by
  rcases ListQuery.step_cases hstep with ⟨attempt, offset, rfl, hnext, rfl⟩ |
    ⟨attempts, held, rfl, hheld, hpages | ⟨fresh, hfresh, rfl⟩⟩
  · refine ⟨h.settle hlist hlength hnext hserves, ?_⟩
    intro pages hpages
    cases houtcome : pageOutcome feature offset attempt with
    | error failure =>
      exact ⟨[], by rw [ListQuery.pages_settle_error, hpages, List.append_nil]⟩
    | ok page =>
      refine ⟨[page], ?_⟩
      show some (query.pages.getD [] ++ [page]) = _
      rw [hpages]
      rfl
  · constructor
    · intro pages heq
      exact h pages (hheld.trans (hpages.symm.trans heq))
    · intro pages heq
      obtain rfl := Option.some.inj (hheld.symm.trans heq)
      exact ⟨[], by rw [hpages, List.append_nil]⟩
  · -- following the list again gives the same pages
    obtain ⟨left, hfollow⟩ := follow_of_refetch hlist hlength hserves (Nat.zero_le _) hfresh
    have hsame : held = fresh :=
      congrArg Prod.fst (Except.ok.inj ((h held hheld).follow_eq.symm.trans hfollow))
    subst hsame
    constructor
    · intro pages heq
      obtain rfl := Option.some.inj heq
      exact h held hheld
    · intro pages heq
      obtain rfl := Option.some.inj (hheld.symm.trans heq)
      exact ⟨[], congrArg some (List.append_nil held).symm⟩

/-- **Every run** keeps the query sound, and keeps its pages. -/
lemma ListQuery.Sound.run {query query' : ListQuery} (h : query.Sound games)
    (hlist : u.featureList feature = .ok games) (hlength : games.length ≤ usizeMax)
    {events : List ListEvent} (hserves : ∀ event ∈ events, event.Serves feature u)
    (hrun : (listSystem feature).run query events = some query') :
    query'.Sound games ∧ query.Keeps query' := by
  have hfrom : query.Keeps query := fun pages hpages => ⟨[], by rw [hpages, List.append_nil]⟩
  have hstep : ∀ (m : ListQuery) (event : ListEvent) (m' : ListQuery), event.Serves feature u →
      m.Sound games ∧ query.Keeps m → (listSystem feature).step m event = some m' →
        m'.Sound games ∧ query.Keeps m' := by
    intro m event m' hevent hm hstep
    obtain ⟨hsound, hkeeps⟩ := hm.1.step hlist hlength hevent hstep
    refine ⟨hsound, ?_⟩
    intro pages hpages
    obtain ⟨more, hmore⟩ := hm.2 pages hpages
    obtain ⟨more', hmore'⟩ := hkeeps _ hmore
    exact ⟨more ++ more', by rw [hmore', List.append_assoc]⟩
  exact TransitionSystem.Meets.invariant hstep
    (TransitionSystem.Meets.of_forall _ hserves query) ⟨h, hfrom⟩ hrun

/-! ## The loop -/

/-- Without a next page the loop is over. -/
lemma loadAllPages_none {query : ListQuery} (h : query.nextPageParam = none) (attempt : Attempt)
    (attempts : List Attempt) : loadAllPages feature query (attempt :: attempts) = query := by
  simp only [loadAllPages, h]

/-- A failed page ends the loop. -/
lemma loadAllPages_error {query : ListQuery} (h : query.nextPageParam = some offset)
    {attempt : Attempt} {failure : Failure} (houtcome : pageOutcome feature offset attempt =
      .error failure) (attempts : List Attempt) :
    loadAllPages feature query (attempt :: attempts) = query.settle (.error failure) := by
  simp only [loadAllPages, h, houtcome]

/-- After a page the loop goes on. -/
lemma loadAllPages_ok {query : ListQuery} (h : query.nextPageParam = some offset)
    {attempt : Attempt} {page : PageResult} (houtcome : pageOutcome feature offset attempt =
      .ok page) (attempts : List Attempt) :
    loadAllPages feature query (attempt :: attempts) =
      loadAllPages feature (query.settle (.ok page)) attempts := by
  simp only [loadAllPages, h, houtcome]

/-- **The loop is a run** that fetches next pages.

**Proof sketch.** By induction on the attempts. The loop ends without a next page, and each of its
rounds is the event that fetches the next page with this attempt; a failed one ends the loop. -/
lemma run_loadAllPages (query : ListQuery) {attempts : List Attempt}
    (hserves : ∀ attempt ∈ attempts, attempt.Serves feature u) :
    ∃ events, (∀ event ∈ events, event.Serves feature u) ∧
      (listSystem feature).run query events = some (loadAllPages feature query attempts) := by
  induction attempts generalizing query with
  | nil => exact ⟨[], nofun, rfl⟩
  | cons attempt attempts ih =>
    cases hnext : query.nextPageParam with
    | none => exact ⟨[], nofun, by rw [loadAllPages_none hnext]; rfl⟩
    | some offset =>
      have hattempt := hserves attempt List.mem_cons_self
      have hstep : (listSystem feature).step query (.fetchNextPage attempt) =
          some (query.settle (pageOutcome feature offset attempt)) := by
        show query.nextPageParam.map _ = _
        rw [hnext]
        rfl
      cases houtcome : pageOutcome feature offset attempt with
      | error failure =>
        refine ⟨[.fetchNextPage attempt], ?_, ?_⟩
        · intro event hevent
          obtain rfl := List.mem_singleton.mp hevent
          exact hattempt
        · rw [TransitionSystem.run_cons]
          exact ⟨_, hstep, by rw [loadAllPages_error hnext houtcome, houtcome]; rfl⟩
      | ok page =>
        obtain ⟨events, hevents, hrun⟩ := ih (query.settle (.ok page)) fun attempt hin =>
          hserves attempt (List.mem_cons_of_mem _ hin)
        refine ⟨.fetchNextPage attempt :: events, ?_, ?_⟩
        · intro event hevent
          obtain rfl | hin := List.mem_cons.mp hevent
          · exact hattempt
          · exact hevents event hin
        · rw [TransitionSystem.run_cons]
          exact ⟨_, hstep, by rw [loadAllPages_ok hnext houtcome, houtcome]; exact hrun⟩

/-- **The loop ends with every page** where its calls are answered and there are enough of them.

**Proof sketch.** By induction on the attempts. While a page is missing, an answered attempt adds it
(`pageOutcome_of_answered`), so the bound holds of the rest of the attempts with one page more. With
no attempt left, the pages that are there cover the list. -/
lemma nextPageParam_loadAllPages (hlist : u.featureList feature = .ok games)
    (hlength : games.length ≤ usizeMax) (hexact : games.length ≤ Client.maxSafeInteger)
    {query : ListQuery} (h : query.Sound games) {attempts : List Attempt}
    (hanswered : ∀ attempt ∈ attempts, attempt.Answered feature u)
    (henough : games.length < pageSize * ((query.pages.getD []).length + attempts.length)) :
    (loadAllPages feature query attempts).nextPageParam = none := by
  induction attempts generalizing query with
  | nil =>
    show query.nextPageParam = none
    rw [h.nextPageParam hlength]
    cases hpages : query.pages with
    | none =>
      rw [hpages] at henough
      exact absurd henough (Nat.not_lt_zero _)
    | some pages =>
      rw [hpages] at henough
      exact if_neg (Nat.not_lt_of_lt henough)
  | cons attempt attempts ih =>
    cases hnext : query.nextPageParam with
    | none => rw [loadAllPages_none hnext, hnext]
    | some offset =>
      have hattempt := hanswered attempt List.mem_cons_self
      have houtcome := pageOutcome_of_answered hlist hlength hexact (h.offset_le hlength hnext)
        hattempt
      rw [loadAllPages_ok hnext houtcome]
      apply ih
      · rw [← houtcome]
        exact h.settle hlist hlength hnext fun page => Or.inl (hattempt.1 page)
      · intro attempt hin
        exact hanswered attempt (List.mem_cons_of_mem _ hin)
      · have hpages : ((query.settle (.ok (paginate games offset pageSize))).pages.getD []).length =
            (query.pages.getD []).length + 1 := List.length_append
        rw [hpages]
        rw [List.length_cons] at henough
        unfold pageSize at henough ⊢
        omega

/-- **A list is read as it is.** Let every server that a query of the client meets list the same
games or fail, and let any answer be lost or cut. After every run the query holds the first pages of
the list, and asks for no further page exactly where they are the whole list; no later event loses
a page. The loop that loads every page is such a run, and where its calls are answered and there
are enough of them, it ends with the whole list.

**Proof sketch.** The invariant `ListQuery.Sound` says that the pages are consecutive pages of the
list from its start; a settled call keeps it by `pageOutcome_eq_ok`, and a refresh as it follows the
list again. The loop is a run by `run_loadAllPages`, an induction on the attempts, and with answered
calls each attempt adds a page, so they cannot run out before the pages. -/
theorem list_read (hlist : u.featureList feature = .ok games) (hlength : games.length ≤ usizeMax)
    {events : List ListEvent} (hserves : ∀ event ∈ events, event.Serves feature u)
    {query : ListQuery} (hrun : (listSystem feature).run .pending events = some query) :
    (∀ pages, query.pages = some pages →
      pages.flatMap PageResult.games = games.take (pageSize * pages.length) ∧
        (query.nextPageParam = none ↔ pages.flatMap PageResult.games = games)) ∧
    (∀ (later : List ListEvent) (query' : ListQuery), (∀ event ∈ later, event.Serves feature u) →
      (listSystem feature).run query later = some query' → query.Keeps query') ∧
    ∀ attempts : List Attempt, (∀ attempt ∈ attempts, attempt.Serves feature u) →
      (∃ later, (∀ event ∈ later, event.Serves feature u) ∧
        (listSystem feature).run query later = some (loadAllPages feature query attempts)) ∧
      (games.length ≤ Client.maxSafeInteger → games.length < pageSize * attempts.length →
        (∀ attempt ∈ attempts, attempt.Answered feature u) →
          ∃ pages, (loadAllPages feature query attempts).pages = some pages ∧
            pages.flatMap PageResult.games = games) := by
  have hpending : ListQuery.Sound games .pending := nofun
  have hsound := (hpending.run hlist hlength hserves hrun).1
  have hwhole : ∀ {query : ListQuery}, query.Sound games → ∀ pages, query.pages = some pages →
      (query.nextPageParam = none ↔ pages.flatMap PageResult.games = games) := by
    intro query hquery pages hpages
    have hheld := hquery pages hpages
    rw [hquery.nextPageParam hlength, hpages, hheld.flatMap_eq hlength, List.take_eq_self_iff]
    dsimp only
    split_ifs with hlt
    · exact iff_of_false nofun (Nat.not_le_of_lt hlt)
    · exact iff_of_true rfl (Nat.le_of_not_lt hlt)
  refine ⟨?_, ?_, ?_⟩
  · intro pages hpages
    exact ⟨(hsound pages hpages).flatMap_eq hlength, hwhole hsound pages hpages⟩
  · intro later query' hlater hrun'
    exact (hsound.run hlist hlength hlater hrun').2
  · intro attempts hattempts
    obtain ⟨later, hlater, hloop⟩ := run_loadAllPages query hattempts
    refine ⟨⟨later, hlater, hloop⟩, ?_⟩
    intro hexact henough hanswered
    have hloaded := (hsound.run hlist hlength hlater hloop).1
    have hnext := nextPageParam_loadAllPages hlist hlength hexact hsound hanswered
      (henough.trans_le (Nat.mul_le_mul_left _ (Nat.le_add_left _ _)))
    cases hpages : (loadAllPages feature query attempts).pages with
    | none =>
      rw [hloaded.nextPageParam hlength, hpages] at hnext
      cases hnext
    | some pages => exact ⟨pages, rfl, (hwhole hloaded pages hpages).mp hnext⟩

/-- A feed of 61 games, one more than a page holds. -/
def longMonthly : List PlusMonthlyEntry :=
  (List.range 61).filterMap fun i =>
    let text := "EP0001-PPSA" ++ toString (10000 + i) ++ "_00-SAMPLEGAME000001"
    (ProductId.parse text).map fun id => ⟨id, "Sample", "", "", []⟩

/-- The lookups over this feed. -/
def sampleLookups : Lookups :=
  Catalog.lookups { Catalog.empty with plusMonthly := .ok longMonthly }

/-- A call that a server in front of these lookups answers. -/
def sampleAttempt : Attempt where
  server := { sampleServer none with
    services := { sampleServices none with monthlyGames := sampleLookups.monthlyGames } }
  cookies := []
  arrival := .whole none

/-- A first page and a failed refresh, and then the loop, which reads the other page. -/
theorem list_read_sample :
    ∃ query,
      (listSystem .monthly).run .pending [.fetchNextPage sampleAttempt, .refetch []] = some query ∧
        query.pages = some [paginate (mapMonthlyToGames longMonthly) 0 pageSize] ∧
        query.nextPageParam ≠ none ∧
        (∀ (later : List ListEvent) (query' : ListQuery),
          (∀ event ∈ later, event.Serves .monthly sampleLookups) →
          (listSystem .monthly).run query later = some query' → query.Keeps query') ∧
        ∃ pages, (loadAllPages .monthly query [sampleAttempt, sampleAttempt]).pages = some pages ∧
          pages.flatMap PageResult.games = mapMonthlyToGames longMonthly := by
  have hlist : sampleLookups.featureList .monthly = .ok (mapMonthlyToGames longMonthly) := rfl
  have hmany : (mapMonthlyToGames longMonthly).length = 61 := by
    have hfeed : longMonthly.length = 61 := by decide +kernel
    unfold mapMonthlyToGames
    rw [(sortByDate_perm _ _).length_eq, List.length_map, hfeed]
  have hlength : (mapMonthlyToGames longMonthly).length ≤ usizeMax := by
    rw [hmany]
    decide
  have hexact : (mapMonthlyToGames longMonthly).length ≤ Client.maxSafeInteger := by
    rw [hmany]
    decide
  have hanswered : sampleAttempt.Answered .monthly sampleLookups :=
    ⟨fun page => rfl, fun request => rfl, none, rfl, nofun⟩
  have hserves : ∀ event ∈ [ListEvent.fetchNextPage sampleAttempt, .refetch []],
      event.Serves .monthly sampleLookups := by
    intro event hevent
    simp only [List.mem_cons, List.not_mem_nil, or_false] at hevent
    rcases hevent with rfl | rfl
    · exact fun page => Or.inl rfl
    · exact nofun
  have hpage := pageOutcome_of_answered hlist hlength hexact (Nat.zero_le _) hanswered
  have hrun : (listSystem .monthly).run .pending [.fetchNextPage sampleAttempt, .refetch []] =
      some (.refreshFailed [paginate (mapMonthlyToGames longMonthly) 0 pageSize]) := by
    have hstep : (listSystem .monthly).step .pending (.fetchNextPage sampleAttempt) =
        some (.loaded [paginate (mapMonthlyToGames longMonthly) 0 pageSize]) := by
      show some (ListQuery.pending.settle (pageOutcome .monthly 0 sampleAttempt)) = _
      rw [hpage]
      rfl
    rw [TransitionSystem.run_cons]
    exact ⟨_, hstep, rfl⟩
  obtain ⟨hheld, hkeeps, hloop⟩ := list_read hlist hlength hserves hrun
  refine ⟨_, hrun, rfl, ?_, hkeeps, ?_⟩
  · intro hnone
    have hall := (hheld _ rfl).2.mp hnone
    rw [(hheld _ rfl).1, List.take_eq_self_iff, hmany] at hall
    exact absurd hall (by decide)
  · have hboth : ∀ attempt ∈ [sampleAttempt, sampleAttempt], attempt = sampleAttempt := by
      intro attempt hattempt
      simpa using hattempt
    refine (hloop [sampleAttempt, sampleAttempt] ?_).2 hexact ?_ ?_
    · intro attempt hattempt
      rw [hboth attempt hattempt]
      exact fun page => Or.inl rfl
    · rw [hmany]
      decide
    · intro attempt hattempt
      rw [hboth attempt hattempt]
      exact hanswered

end Web

end PsStore
