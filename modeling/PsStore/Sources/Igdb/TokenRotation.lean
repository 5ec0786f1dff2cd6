import PsStore.Application.CacheRetention

set_option relaxedAutoImplicit false
set_option autoImplicit false

/-!
# The rotation of the IGDB token

`IgdbClient` with its finds, its token cache and the clock, as a transition system. The key of the
token cache is a generation number; a find whose first attempt ends in a rejection moves the
generation on, unless another find did so first, and repeats the attempt once. Each event is the
code between two awaits, so a find reads the generation and asks the cache in one step.

A system also remembers what the code does not: for every find, the token requests whose tokens it
has sent.

## Main definitions

* `Igdb.Sys`, `Igdb.Event`, `Igdb.system` — the states, the events and their steps.
* `Igdb.EndsRejected` — the event ends the attempt of a find with a rejection.

## Main results

* `Igdb.Rotating.of_reachable` — the invariant of the generation, the cache and the finds.
* `Igdb.token_rotation` — two games requests a find, one move of a generation, no old token after
  the move, and one token request for all finds of a generation.
-/

namespace PsStore.Igdb

open Cache (Started Retained)

/-- `CriticSourceError`. -/
inductive CriticSourceError where
  /-- The provider refused the credentials or the token. -/
  | rejected
  /-- Any other failure. -/
  | unavailable
deriving DecidableEq, Repr

/-- `TOKEN_FAILURE_TTL` in nanoseconds. -/
def tokenFailureTtl : ℕ := 30 * 10 ^ 9

/-- `token_ttl`; `life` is the time to live of a token, which the source computes in floating
point from `expires_in_seconds`. -/
def tokenTtl {Token : Type} (life : Token → ℕ) : Except CriticSourceError Token → ℕ
  | .ok token => life token
  | .error _ => tokenFailureTtl

/-- The token cache of `IgdbClient::with_endpoints`: a capacity of one, and `LookupPanicked` becomes
`Unavailable`. -/
def tokens {Token : Type} (life : Token → ℕ) (lastInstant : ℕ) :
    Cache.Config Token CriticSourceError where
  capacity := 1
  ttl := tokenTtl life
  lastInstant := lastInstant
  lookupPanicked := .unavailable

/-- Where a find stands. -/
inductive Phase (Token Candidate : Type) where
  /-- `token` waits for the shared token request. -/
  | awaitingToken (call : Cache.Call ℕ)
  /-- `request_games` waits for the answer. -/
  | awaitingGames (token : Token)
  /-- `find` has returned. -/
  | finished (result : Except CriticSourceError (List Candidate))
  /-- The future of `find` was dropped. -/
  | dropped

/-- A call of `find`. -/
structure Find (Token Candidate : Type) where
  /-- The generation of the current attempt. -/
  generation : ℕ
  /-- The current attempt is the repeated one. -/
  second : Bool
  /-- The token requests whose tokens `request_games` has sent, in order. -/
  sent : List ℕ
  /-- Where the find stands. -/
  phase : Phase Token Candidate

/-- The client with its finds. -/
structure Sys (Token Candidate : Type) where
  /-- The token cache. -/
  cache : Cache.Sys ℕ Token CriticSourceError
  /-- The generation counter. -/
  generation : ℕ
  /-- The finds, in the order of their starts. -/
  finds : List (Find Token Candidate)

/-- The events of a client and its environment. -/
inductive Event (Token Candidate : Type) where
  /-- A find starts; `query` is what `games_query` makes of its title and year. -/
  | start (query : Option String)
  /-- A find receives the outcome of the token request that it waits for. -/
  | token (find : ℕ)
  /-- A find receives the outcome of `request_games`. -/
  | games (find : ℕ) (outcome : Except CriticSourceError (List Candidate))
  /-- The future of a find is dropped. -/
  | leave (find : ℕ)
  /-- A token request ends with an outcome. -/
  | tokenRequestEnds (id : ℕ) (outcome : Except CriticSourceError Token)
  /-- A token request panics. -/
  | tokenRequestPanics (id : ℕ)
  /-- The clock moves on. -/
  | advance (duration : ℕ)

variable {Token Candidate : Type}

namespace Sys

/-- The client before any find. -/
def start : Sys Token Candidate := ⟨Cache.Sys.start, 0, []⟩

/-- The start of an attempt: `token` asks the cache at the generation. -/
def attempt (c : Cache.Config Token CriticSourceError) (s : Sys Token Candidate) :
    Cache.Sys ℕ Token CriticSourceError × Phase Token Candidate :=
  (s.cache.getWith c s.generation, .awaitingToken (s.cache.callOf c s.generation))

/-- The generation after the `compare_exchange` of a find that was rejected at `generation`. -/
def rotated (s : Sys Token Candidate) (generation : ℕ) : ℕ :=
  if s.generation = generation then generation + 1 else s.generation

/-- `find` after an attempt of find `f` has ended: a rejected first attempt moves the generation
on and is repeated, any other outcome is the result. -/
def ended (c : Cache.Config Token CriticSourceError) (s : Sys Token Candidate) (f : ℕ)
    (find : Find Token Candidate) (outcome : Except CriticSourceError (List Candidate)) :
    Sys Token Candidate :=
  match find.second, outcome with
  | false, .error .rejected =>
    let s := { s with generation := s.rotated find.generation }
    let (cache, phase) := s.attempt c
    { s with
      cache
      finds := s.finds.set f { find with generation := s.generation, second := true, phase } }
  | _, outcome => { s with finds := s.finds.set f { find with phase := .finished outcome } }

end Sys

/-- The step of an event, or `none` where the event cannot happen. -/
def step (c : Cache.Config Token CriticSourceError) (s : Sys Token Candidate) :
    Event Token Candidate → Option (Sys Token Candidate)
  | .start none =>
    some { s with finds := s.finds ++ [⟨s.generation, false, [], .finished (.ok [])⟩] }
  | .start (some _) =>
    let (cache, phase) := s.attempt c
    some { s with cache, finds := s.finds ++ [⟨s.generation, false, [], phase⟩] }
  | .token f =>
    match s.finds[f]? with
    | some find =>
      match find.phase with
      | .awaitingToken call =>
        match (s.cache.tasks call.lookup.task).bind
          fun task => task.status.outcome c.lookupPanicked with
        | none => none
        | some outcome =>
          (Cache.step c s.cache (.deliver (s.cache.waiting.idxOf call))).map fun cache =>
            let s := { s with cache }
            match outcome with
            | .ok token =>
              { s with
                finds := s.finds.set f
                  { find with
                    sent := find.sent ++ [call.lookup.task]
                    phase := .awaitingGames token } }
            | .error error => s.ended c f find (.error error)
      | _ => none
    | none => none
  | .games f outcome =>
    match s.finds[f]? with
    | some find =>
      match find.phase with
      | .awaitingGames _ => some (s.ended c f find outcome)
      | _ => none
    | none => none
  | .leave f =>
    match s.finds[f]? with
    | some find =>
      match find.phase with
      | .awaitingToken call =>
        (Cache.step c s.cache (.leave (s.cache.waiting.idxOf call))).map fun cache =>
          { s with cache, finds := s.finds.set f { find with phase := .dropped } }
      | .awaitingGames _ => some { s with finds := s.finds.set f { find with phase := .dropped } }
      | _ => none
    | none => none
  | .tokenRequestEnds id outcome =>
    (Cache.step c s.cache (.finish id outcome)).map fun cache => { s with cache }
  | .tokenRequestPanics id =>
    (Cache.step c s.cache (.panic id)).map fun cache => { s with cache }
  | .advance duration =>
    (Cache.step c s.cache (.advance duration)).map fun cache => { s with cache }

/-- The transition system of a client. -/
def system (Token Candidate : Type) (life : Token → ℕ) (lastInstant : ℕ) :
    TransitionSystem (Sys Token Candidate) (Event Token Candidate) where
  init := Sys.start
  step := step (tokens life lastInstant)

/-- The event ends the current attempt of find `f` with a rejection: by the token request that it
waits for, or by the answer of `request_games`. -/
def EndsRejected (c : Cache.Config Token CriticSourceError) (s : Sys Token Candidate)
    (e : Event Token Candidate) (f : ℕ) (find : Find Token Candidate) : Prop :=
  s.finds[f]? = some find ∧
    ((e = .token f ∧ ∃ call task, find.phase = .awaitingToken call ∧
        s.cache.tasks call.lookup.task = some task ∧
        task.status.outcome c.lookupPanicked = some (.error .rejected)) ∨
      (e = .games f (.error .rejected) ∧ ∃ token, find.phase = .awaitingGames token))

/-! ## What a step does -/

/-- The outcomes of an attempt: the find ends with the outcome, or its first attempt was rejected
and it begins the second one. -/
lemma Sys.ended_cases (c : Cache.Config Token CriticSourceError) (s : Sys Token Candidate) (f : ℕ)
    (find : Find Token Candidate) (outcome : Except CriticSourceError (List Candidate)) :
    s.ended c f find outcome =
        { s with finds := s.finds.set f { find with phase := .finished outcome } } ∨
      (find.second = false ∧ outcome = .error .rejected ∧ s.ended c f find outcome =
        { cache := s.cache.getWith c (s.rotated find.generation)
          generation := s.rotated find.generation
          finds := s.finds.set f
            { find with
              generation := s.rotated find.generation
              second := true
              phase := .awaitingToken (s.cache.callOf c (s.rotated find.generation)) } }) := by
  obtain ⟨generation, second, sent, phase⟩ := find
  unfold ended
  cases second with
  | true => exact Or.inl rfl
  | false =>
    rcases outcome with (_ | _) | candidates
    · exact Or.inr ⟨rfl, rfl, rfl⟩
    · exact Or.inl rfl
    · exact Or.inl rfl

/-- The find waits for a token or for games. -/
def Find.Waits (find : Find Token Candidate) : Prop :=
  (∃ call, find.phase = .awaitingToken call) ∨ ∃ token, find.phase = .awaitingGames token

/-- The steps of a client: a find that has no query, a find that starts, a token that a find
sends, the end of an attempt, a find that is dropped, and a step of the cache alone. -/
lemma step_cases {c : Cache.Config Token CriticSourceError} {s s' : Sys Token Candidate}
    {e : Event Token Candidate} (h : step c s e = some s') :
    (s' = { s with finds := s.finds ++ [⟨s.generation, false, [], .finished (.ok [])⟩] }) ∨
    (s' = { s with
      cache := s.cache.getWith c s.generation
      finds := s.finds ++
        [⟨s.generation, false, [], .awaitingToken (s.cache.callOf c s.generation)⟩] }) ∨
    (∃ f find call token cache, s.finds[f]? = some find ∧ find.phase = .awaitingToken call ∧
      Cache.QuietStep c s.cache cache ∧
      s' = { s with
        cache
        finds := s.finds.set f
          { find with sent := find.sent ++ [call.lookup.task], phase := .awaitingGames token } }) ∨
    (∃ f find outcome cache, s.finds[f]? = some find ∧ find.Waits ∧
      Cache.QuietStep c s.cache cache ∧ (outcome = .error .rejected → EndsRejected c s e f find) ∧
      s' = Sys.ended c { s with cache } f find outcome) ∨
    (∃ f find cache, s.finds[f]? = some find ∧ find.Waits ∧ Cache.QuietStep c s.cache cache ∧
      s' = { s with cache, finds := s.finds.set f { find with phase := .dropped } }) ∨
    (∃ cache, Cache.QuietStep c s.cache cache ∧ s' = { s with cache }) := by
  cases e with
  | start query =>
    cases query with
    | none => exact Or.inl (Option.some.inj h).symm
    | some query => exact Or.inr (Or.inl (Option.some.inj h).symm)
  | token f =>
    simp only [step] at h
    split at h
    · rename_i find hfind
      split at h
      · rename_i call hphase
        split at h
        · cases h
        · rename_i outcome houtcome
          obtain ⟨cache, hcache, hs'⟩ := Option.map_eq_some_iff.mp h
          have hquiet : Cache.QuietStep c s.cache cache := .of_step hcache trivial
          cases outcome with
          | ok token =>
            refine Or.inr (Or.inr (Or.inl ?_))
            exact ⟨f, find, call, token, cache, hfind, hphase, hquiet, hs'.symm⟩
          | error error =>
            obtain ⟨task, htask, hout⟩ := Option.bind_eq_some_iff.mp houtcome
            refine Or.inr (Or.inr (Or.inr (Or.inl ?_)))
            refine ⟨f, find, .error error, cache, hfind, Or.inl ⟨call, hphase⟩, hquiet, ?_,
              hs'.symm⟩
            intro herror
            obtain rfl : error = .rejected := Except.error.inj herror
            exact ⟨hfind, Or.inl ⟨rfl, call, task, hphase, htask, hout⟩⟩
      · cases h
    · cases h
  | games f outcome =>
    simp only [step] at h
    split at h
    · rename_i find hfind
      split at h
      · rename_i token hphase
        refine Or.inr (Or.inr (Or.inr (Or.inl ?_)))
        refine ⟨f, find, outcome, s.cache, hfind, Or.inr ⟨token, hphase⟩, Or.inl rfl, ?_,
          (Option.some.inj h).symm⟩
        rintro rfl
        exact ⟨hfind, Or.inr ⟨rfl, token, hphase⟩⟩
      · cases h
    · cases h
  | leave f =>
    simp only [step] at h
    refine Or.inr (Or.inr (Or.inr (Or.inr (Or.inl ?_))))
    split at h
    · rename_i find hfind
      split at h
      · rename_i call hphase
        obtain ⟨cache, hcache, hs'⟩ := Option.map_eq_some_iff.mp h
        exact ⟨f, find, cache, hfind, Or.inl ⟨call, hphase⟩, .of_step hcache trivial,
          hs'.symm⟩
      · rename_i token hphase
        exact ⟨f, find, s.cache, hfind, Or.inr ⟨token, hphase⟩, Or.inl rfl,
          (Option.some.inj h).symm⟩
      · cases h
    · cases h
  | tokenRequestEnds id outcome =>
    simp only [step, Option.map_eq_some_iff] at h
    obtain ⟨cache, hcache, hs'⟩ := h
    exact Or.inr (Or.inr (Or.inr (Or.inr (Or.inr
      ⟨cache, .of_step hcache trivial, hs'.symm⟩))))
  | tokenRequestPanics id =>
    simp only [step, Option.map_eq_some_iff] at h
    obtain ⟨cache, hcache, hs'⟩ := h
    exact Or.inr (Or.inr (Or.inr (Or.inr (Or.inr
      ⟨cache, .of_step hcache trivial, hs'.symm⟩))))
  | advance duration =>
    simp only [step, Option.map_eq_some_iff] at h
    obtain ⟨cache, hcache, hs'⟩ := h
    exact Or.inr (Or.inr (Or.inr (Or.inr (Or.inr
      ⟨cache, .of_step hcache trivial, hs'.symm⟩))))

/-- A step leaves the generation, and at most a call for it reaches the cache, or a find that was
rejected moves it on by one and calls for the new one.

**Proof sketch.** By `step_cases`. Only the end of an attempt can move the generation: a rejected
first attempt of the current generation moves it on and asks again, and one of an older generation
asks for the current token (`Sys.ended_cases`). Every other step is quiet, or calls the cache once.
-/
lemma step_cache {c : Cache.Config Token CriticSourceError} {s s' : Sys Token Candidate}
    {e : Event Token Candidate} (h : step c s e = some s') :
    ∃ cache, Cache.QuietStep c s.cache cache ∧
      (s'.generation = s.generation ∧
          (s'.cache = cache ∨ s'.cache = cache.getWith c s'.generation) ∨
        s'.generation = s.generation + 1 ∧ s'.cache = cache.getWith c s'.generation ∧
          ∃ f find, EndsRejected c s e f find ∧ find.generation = s.generation ∧
            s'.finds[f]? = some
              { find with
                generation := s'.generation
                second := true
                phase := .awaitingToken (cache.callOf c s'.generation) }) := by
  rcases step_cases h with rfl | rfl | ⟨f, find, call, token, cache, -, -, hquiet, rfl⟩ |
    ⟨f, find, outcome, cache, hfind, -, hquiet, hrejected, rfl⟩ |
    ⟨f, find, cache, -, -, hquiet, rfl⟩ | ⟨cache, hquiet, rfl⟩
  · exact ⟨s.cache, Or.inl rfl, Or.inl ⟨rfl, Or.inl rfl⟩⟩
  · exact ⟨s.cache, Or.inl rfl, Or.inl ⟨rfl, Or.inr rfl⟩⟩
  · exact ⟨cache, hquiet, Or.inl ⟨rfl, Or.inl rfl⟩⟩
  · refine ⟨cache, hquiet, ?_⟩
    rcases Sys.ended_cases c { s with cache } f find outcome with hended | ⟨-, hout, hended⟩
    · rw [hended]
      exact Or.inl ⟨rfl, Or.inl rfl⟩
    · rw [hended]
      dsimp only [Sys.rotated]
      split_ifs with hgeneration
      · right
        refine ⟨by rw [hgeneration], rfl, f, find, hrejected hout, hgeneration.symm, ?_⟩
        rw [List.getElem?_set_self (List.getElem?_eq_some_iff.mp hfind).1]
      · exact Or.inl ⟨rfl, Or.inr rfl⟩
  · exact ⟨cache, hquiet, Or.inl ⟨rfl, Or.inl rfl⟩⟩
  · exact ⟨cache, hquiet, Or.inl ⟨rfl, Or.inl rfl⟩⟩

/-- The call of an attempt that the step from `s` to `s'` starts. -/
def Asks (c : Cache.Config Token CriticSourceError) (s s' : Sys Token Candidate)
    (call : Cache.Call ℕ) : Prop :=
  ∃ cache, Cache.QuietStep c s.cache cache ∧ s'.cache = cache.getWith c s'.generation ∧
    call = cache.callOf c s'.generation

/-- What one step can make of the find at an index. -/
inductive FindStep (c : Cache.Config Token CriticSourceError) (s s' : Sys Token Candidate) :
    Option (Find Token Candidate) → Find Token Candidate → Prop where
  /-- The find stays as it is. -/
  | same (find) : FindStep c s s' (some find) find
  /-- A find starts, and there is no query for it. -/
  | empty : FindStep c s s' none ⟨s'.generation, false, [], .finished (.ok [])⟩
  /-- A find starts. -/
  | start (call) (hasks : Asks c s s' call) :
    FindStep c s s' none ⟨s'.generation, false, [], .awaitingToken call⟩
  /-- The find sends the token of the request that it waited for. -/
  | send (find : Find Token Candidate) (call token) (hphase : find.phase = .awaitingToken call) :
    FindStep c s s' (some find)
      { find with sent := find.sent ++ [call.lookup.task], phase := .awaitingGames token }
  /-- The find begins its second attempt. -/
  | repeated (find : Find Token Candidate) (call) (hwaits : find.Waits)
    (hfirst : find.second = false) (hasks : Asks c s s' call) :
    FindStep c s s' (some find)
      { find with generation := s'.generation, second := true, phase := .awaitingToken call }
  /-- The find returns. -/
  | finish (find : Find Token Candidate) (result) (hwaits : find.Waits) :
    FindStep c s s' (some find) { find with phase := .finished result }
  /-- The find is dropped. -/
  | drop (find : Find Token Candidate) (hwaits : find.Waits) :
    FindStep c s s' (some find) { find with phase := .dropped }

/-- Where only the find at one index changes, every find makes a step when that one does. -/
lemma findStep_set {c : Cache.Config Token CriticSourceError} {s s' : Sys Token Candidate} {f : ℕ}
    {find changed : Find Token Candidate} (hfind : s.finds[f]? = some find)
    (hfinds : s'.finds = s.finds.set f changed)
    (h : FindStep c s s' (some find) changed) {g : ℕ} {find' : Find Token Candidate}
    (hfind' : s'.finds[g]? = some find') : FindStep c s s' s.finds[g]? find' := by
  rw [hfinds, List.getElem?_set] at hfind'
  split_ifs at hfind' with hg
  · subst hg
    rw [← Option.some.inj hfind', hfind]
    exact h
  · rw [hfind']
    exact .same find'

/-- Where a find is added, every find makes a step when the new one does. -/
lemma findStep_append {c : Cache.Config Token CriticSourceError} {s s' : Sys Token Candidate}
    {added : Find Token Candidate} (hfinds : s'.finds = s.finds ++ [added])
    (h : FindStep c s s' none added) {g : ℕ} {find' : Find Token Candidate}
    (hfind' : s'.finds[g]? = some find') : FindStep c s s' s.finds[g]? find' := by
  rw [hfinds, List.getElem?_append] at hfind'
  split_ifs at hfind' with hg
  · rw [hfind']
    exact .same find'
  · rw [List.getElem?_eq_none (by omega)]
    rw [List.getElem?_singleton] at hfind'
    split_ifs at hfind'
    rw [← Option.some.inj hfind']
    exact h

/-- Every find of the state after a step makes one of the steps of a find. -/
lemma step_find {c : Cache.Config Token CriticSourceError} {s s' : Sys Token Candidate}
    {e : Event Token Candidate} (h : step c s e = some s') {g : ℕ} {find' : Find Token Candidate}
    (hfind' : s'.finds[g]? = some find') : FindStep c s s' s.finds[g]? find' := by
  rcases step_cases h with rfl | rfl | ⟨f, find, call, token, cache, hfind, hphase, -, rfl⟩ |
    ⟨f, find, outcome, cache, hfind, hwaits, hquiet, -, rfl⟩ |
    ⟨f, find, cache, hfind, hwaits, -, rfl⟩ | ⟨cache, -, rfl⟩
  · exact findStep_append rfl .empty hfind'
  · exact findStep_append rfl (.start _ ⟨s.cache, Or.inl rfl, rfl, rfl⟩) hfind'
  · exact findStep_set hfind rfl (.send find call token hphase) hfind'
  · rcases Sys.ended_cases c { s with cache } f find outcome with hended | ⟨hfirst, -, hended⟩
    · rw [hended] at hfind' ⊢
      exact findStep_set hfind rfl (.finish find outcome hwaits) hfind'
    · rw [hended] at hfind' ⊢
      exact findStep_set hfind rfl
        (.repeated find _ hwaits hfirst ⟨cache, hquiet, rfl, rfl⟩) hfind'
  · exact findStep_set hfind rfl (.drop find hwaits) hfind'
  · rw [hfind']
    exact .same find'

/-! ## The invariant -/

/-- The most tokens that a find has sent in its phase. -/
def Find.sentLimit (find : Find Token Candidate) : ℕ :=
  match find.phase, find.second with
  | .awaitingToken _, false => 0
  | .awaitingToken _, true => 1
  | .awaitingGames _, false => 1
  | _, _ => 2

/-- A find sends at most two tokens. -/
lemma Find.sentLimit_le (find : Find Token Candidate) : find.sentLimit ≤ 2 := by
  unfold sentLimit
  split <;> omega

/-- What holds of a find. -/
structure FindValid (s : Sys Token Candidate) (find : Find Token Candidate) : Prop where
  /-- The counter has not gone back behind the generation of the attempt. -/
  generation_le : find.generation ≤ s.generation
  /-- Each attempt sends one token. -/
  sent_length : find.sent.length ≤ find.sentLimit
  /-- The find waits for a token request of the generation of its attempt. -/
  awaiting : ∀ call, find.phase = .awaitingToken call →
    Started s.cache call.lookup.task find.generation

/-- The invariant of a client. -/
structure Rotating (c : Cache.Config Token CriticSourceError) (s : Sys Token Candidate) :
    Prop where
  /-- The token cache is in one of its states. -/
  reachable : (Cache.system ℕ c).Reachable s.cache
  /-- Every token request was made for a generation up to the current one. -/
  started_le : ∀ {id key}, Started s.cache id key → key ≤ s.generation
  /-- No usable token request of the current generation loses its entry. -/
  retained : Retained c s.generation s.cache
  /-- The finds. -/
  finds : ∀ find ∈ s.finds, FindValid s find

namespace Rotating

variable {c : Cache.Config Token CriticSourceError} {s s' : Sys Token Candidate}
  {e : Event Token Candidate}

/-- The generation does not go back. -/
lemma generation_le (hstep : step c s e = some s') : s.generation ≤ s'.generation := by
  obtain ⟨cache, -, ⟨hsame, -⟩ | ⟨hmoved, -⟩⟩ := step_cache hstep
  · omega
  · omega

/-- The cache of a client makes steps of its own. -/
lemma reachable_step (h : Rotating c s) (hstep : step c s e = some s') :
    (Cache.system ℕ c).Reachable s'.cache := by
  obtain ⟨cache, hquiet, hcases⟩ := step_cache hstep
  have hcall : (Cache.system ℕ c).Reachable (cache.getWith c s'.generation) := by
    have hget : (Cache.system ℕ c).step cache (.getWith s'.generation) =
        some (cache.getWith c s'.generation) := rfl
    exact (hquiet.reachable h.reachable).step hget
  rcases hcases with ⟨-, hcache | hcache⟩ | ⟨-, hcache, -⟩
  · rw [hcache]
    exact hquiet.reachable h.reachable
  · rw [hcache]
    exact hcall
  · rw [hcache]
    exact hcall

/-- A step keeps the keys of the token requests, and a new one is for the new generation. -/
lemma started_step (h : Rotating c s) (hstep : step c s e = some s') (id key : ℕ) :
    (Started s.cache id key → Started s'.cache id key) ∧
      (Started s'.cache id key → Started s.cache id key ∨ key = s'.generation) := by
  obtain ⟨cache, hquiet, hcases⟩ := step_cache hstep
  have hvalid := Cache.Valid.of_reachable (hquiet.reachable h.reachable)
  have hcall := Cache.started_getWith hvalid s'.generation id key
  rw [hquiet.started_iff id key] at hcall
  rcases hcases with ⟨-, hcache | hcache⟩ | ⟨-, hcache, -⟩
  · rw [hcache, hquiet.started_iff id key]
    exact ⟨fun h => h, Or.inl⟩
  · rw [hcache]
    exact hcall
  · rw [hcache]
    exact hcall

/-- The call of an attempt waits for a token request of the new generation. -/
lemma started_asks (h : Rotating c s) {call : Cache.Call ℕ} (hasks : Asks c s s' call) :
    Started s'.cache call.lookup.task s'.generation := by
  obtain ⟨cache, hquiet, hcache, rfl⟩ := hasks
  rw [hcache]
  exact Cache.started_callOf (Cache.Valid.of_reachable (hquiet.reachable h.reachable)) _

/-- The current generation stays retained: where it has moved on, no token request was made for it
before. -/
lemma retained_step (h : Rotating c s) (hcapacity : 1 ≤ c.capacity)
    (hstep : step c s e = some s') : Retained c s'.generation s'.cache := by
  obtain ⟨cache, hquiet, hcases⟩ := step_cache hstep
  have hreachable := hquiet.reachable h.reachable
  have hvalid := Cache.Valid.of_reachable hreachable
  have hrep := Cache.Represented.of_reachable hreachable
  rcases hcases with ⟨hsame, hcache⟩ | ⟨hmoved, hcache, -⟩
  · have hretained : Retained c s'.generation cache := by
      rw [hsame]
      exact hquiet.retained h.retained
    rcases hcache with hcache | hcache
    · rw [hcache]
      exact hretained
    · rw [hcache]
      exact hretained.getWith hvalid hrep hcapacity
  · rw [hcache]
    refine (Retained.of_unstarted ?_).getWith hvalid hrep hcapacity
    intro id hid
    have hle := h.started_le ((hquiet.started_iff id _).mp hid)
    omega

/-- A step keeps what holds of the finds.

**Proof sketch.** By what the step does to the find. A step of another find changes nothing of it,
and the generation only grows; a find that asks for a token waits for one of the current generation,
and a find that sends has one more request, which its phase allows. -/
lemma finds_step (h : Rotating c s) (hstep : step c s e = some s') {find' : Find Token Candidate}
    (hmem : find' ∈ s'.finds) : FindValid s' find' := by
  obtain ⟨g, hg⟩ := List.mem_iff_getElem?.mp hmem
  have hmono := generation_le hstep
  have hnext := step_find hstep hg
  generalize hbefore : s.finds[g]? = before at hnext
  cases hnext with
  | same =>
    have hvalid := h.finds _ (List.mem_of_getElem? hbefore)
    refine ⟨hvalid.generation_le.trans hmono, hvalid.sent_length, ?_⟩
    intro call hphase
    exact (h.started_step hstep _ _).1 (hvalid.awaiting call hphase)
  | empty =>
    refine ⟨le_rfl, Nat.zero_le _, ?_⟩
    rintro call ⟨⟩
  | start call hasks =>
    refine ⟨le_rfl, le_rfl, ?_⟩
    rintro _ ⟨⟩
    exact h.started_asks hasks
  | send find call token hphase =>
    have hvalid := h.finds _ (List.mem_of_getElem? hbefore)
    refine ⟨hvalid.generation_le.trans hmono, ?_, ?_⟩
    · have hlimit := hvalid.sent_length
      unfold Find.sentLimit at hlimit ⊢
      rw [hphase] at hlimit
      dsimp only at hlimit ⊢
      rw [List.length_append, List.length_singleton]
      cases hsecond : find.second with
      | false =>
        rw [hsecond] at hlimit
        dsimp only at hlimit ⊢
        omega
      | true =>
        rw [hsecond] at hlimit
        dsimp only at hlimit ⊢
        omega
    · rintro _ ⟨⟩
  | repeated find call hwaits hfirst hasks =>
    have hvalid := h.finds _ (List.mem_of_getElem? hbefore)
    refine ⟨le_rfl, ?_, ?_⟩
    · have hlimit := hvalid.sent_length
      unfold Find.sentLimit at hlimit ⊢
      rw [hfirst] at hlimit
      rcases hwaits with ⟨other, hphase⟩ | ⟨token, hphase⟩
      · rw [hphase] at hlimit
        dsimp only at hlimit ⊢
        omega
      · rw [hphase] at hlimit
        exact hlimit
    · rintro _ ⟨⟩
      exact h.started_asks hasks
  | finish find result hwaits =>
    have hvalid := h.finds _ (List.mem_of_getElem? hbefore)
    refine ⟨hvalid.generation_le.trans hmono, hvalid.sent_length.trans find.sentLimit_le, ?_⟩
    rintro call ⟨⟩
  | drop find hwaits =>
    have hvalid := h.finds _ (List.mem_of_getElem? hbefore)
    refine ⟨hvalid.generation_le.trans hmono, hvalid.sent_length.trans find.sentLimit_le, ?_⟩
    rintro call ⟨⟩

/-- **The invariant survives every step.** -/
lemma step (h : Rotating c s) (hcapacity : 1 ≤ c.capacity) (hstep : Igdb.step c s e = some s') :
    Rotating c s' where
  reachable := h.reachable_step hstep
  started_le := by
    intro id key hid
    rcases (h.started_step hstep id key).2 hid with hold | hnew
    · exact (h.started_le hold).trans (generation_le hstep)
    · exact hnew.le
  retained := h.retained_step hcapacity hstep
  finds _ := h.finds_step hstep

/-- **The invariant holds in every reachable state.** -/
theorem of_reachable {life : Token → ℕ} {lastInstant : ℕ} {s : Sys Token Candidate}
    (hs : (system Token Candidate life lastInstant).Reachable s) :
    Rotating (tokens life lastInstant) s := by
  refine hs.invariant ?_ ?_
  · refine ⟨TransitionSystem.Reachable.init, ?_, ?_, ?_⟩
    · rintro id key ⟨status, ⟨⟩⟩
    · refine Retained.of_unstarted ?_
      rintro id ⟨status, ⟨⟩⟩
    · rintro find ⟨⟩
  · intro s e s' _ h hstep
    exact h.step le_rfl hstep

/-- A step that moves the generation starts the one token request of the new generation, for the
find that was rejected. -/
lemma moved_step (h : Rotating c s) (hstep : Igdb.step c s e = some s')
    (hmoved : s'.generation ≠ s.generation) :
    s'.generation = s.generation + 1 ∧ ∃ f find call, EndsRejected c s e f find ∧
      find.generation = s.generation ∧ s'.finds[f]? = some
        { find with
          generation := s'.generation
          second := true
          phase := .awaitingToken call } ∧
      s'.cache.tasks call.lookup.task = some ⟨s'.generation, .running⟩ ∧
      ∀ id, Started s'.cache id s'.generation → id = call.lookup.task := by
  obtain ⟨cache, hquiet, ⟨hsame, -⟩ | ⟨hnext, hcache, f, find, hrejected, hgeneration, hfind⟩⟩ :=
    step_cache hstep
  · exact absurd hsame hmoved
  · have hvalid := Cache.Valid.of_reachable (hquiet.reachable h.reachable)
    have hunstarted : ∀ id, ¬ Started cache id s'.generation := by
      intro id hid
      have hle := h.started_le ((hquiet.started_iff id _).mp hid)
      omega
    obtain ⟨hrunning, hunique⟩ := Cache.getWith_of_unstarted hvalid hunstarted
    rw [← hcache] at hrunning hunique
    exact ⟨hnext, f, find, _, hrejected, hgeneration, hfind, hrunning, hunique⟩

/-- **A usable token request of the current generation is joined.** It was usable before the step,
the step starts no other one for the generation, and an attempt that the step starts waits for
it.

**Proof sketch.** By `step_cache` the step is quiet for the cache, and may then call it once for the
generation. A quiet step makes nothing usable and starts nothing, and a call for a key with a usable
lookup joins it (`getWith_usable`). -/
lemma joins_step (h : Rotating c s) (hstep : Igdb.step c s e = some s')
    (hsame : s'.generation = s.generation) {id : ℕ} (hstarted : Started s.cache id s.generation)
    {status' : Cache.Status Token CriticSourceError}
    (htask' : s'.cache.tasks id = some ⟨s.generation, status'⟩)
    (husable : status'.Usable c s'.cache.now) :
    (∃ status, s.cache.tasks id = some ⟨s.generation, status⟩ ∧ status.Usable c s.cache.now) ∧
      (∀ id', Started s'.cache id' s.generation → Started s.cache id' s.generation) ∧
      ∀ call, Asks c s s' call → call.lookup.task = id := by
  have hjoins : ∀ cache, Cache.QuietStep c s.cache cache →
      s'.cache = cache.getWith c s'.generation →
      (∃ status, cache.tasks id = some ⟨s.generation, status⟩ ∧ status.Usable c cache.now) ∧
        s'.cache.tasks = cache.tasks ∧ (cache.callOf c s'.generation).lookup.task = id := by
    intro cache hquiet hcache
    have hvalid := Cache.Valid.of_reachable (hquiet.reachable h.reachable)
    rw [hsame] at hcache ⊢
    rw [hcache] at htask' husable ⊢
    obtain ⟨htask, hu, htasks, hcall⟩ := (hquiet.retained h.retained).getWith_usable hvalid
      ((hquiet.started_iff _ _).mpr hstarted) htask' husable
    exact ⟨⟨status', htask, hu⟩, htasks, hcall⟩
  refine ⟨?_, ?_, ?_⟩
  · obtain ⟨cache, hquiet, ⟨-, hcache | hcache⟩ | ⟨hmoved, -⟩⟩ := step_cache hstep
    · rw [hcache] at htask' husable
      exact hquiet.usable hstarted htask' husable
    · obtain ⟨status, htask, hu⟩ := (hjoins cache hquiet hcache).1
      exact hquiet.usable hstarted htask hu
    · omega
  · obtain ⟨cache, hquiet, ⟨-, hcache | hcache⟩ | ⟨hmoved, -⟩⟩ := step_cache hstep
    · intro id' hid'
      rw [hcache] at hid'
      exact (hquiet.started_iff _ _).mp hid'
    · intro id' hid'
      unfold Started at hid'
      rw [(hjoins cache hquiet hcache).2.1] at hid'
      exact (hquiet.started_iff _ _).mp hid'
    · omega
  · rintro call ⟨cache, hquiet, hcache, rfl⟩
    exact (hjoins cache hquiet hcache).2.2

end Rotating

/-! ## The runs of a client -/

section Runs

variable {life : Token → ℕ} {lastInstant : ℕ} {s s' : Sys Token Candidate}

/-- The generation does not go back in a run. -/
lemma generation_le_of_run (hs : (system Token Candidate life lastInstant).Reachable s)
    {es : List (Event Token Candidate)}
    (hrun : (system Token Candidate life lastInstant).run s es = some s') :
    s.generation ≤ s'.generation := by
  refine hs.run_invariant (P := fun m => s.generation ≤ m.generation) ?_ le_rfl hrun
  intro m e m' _ hle hstep
  exact hle.trans (Rotating.generation_le hstep)

/-- The tokens that the find has sent come from requests for a generation from `g` on. -/
def SentFrom (g : ℕ) (s : Sys Token Candidate) (find : Find Token Candidate) : Prop :=
  g ≤ find.generation ∧ ∀ id ∈ find.sent, ∃ key, Started s.cache id key ∧ g ≤ key

/-- A step keeps the tokens of a find above a generation that the counter has reached.

**Proof sketch.** By the kind of the step of the find. Only a sent token is added to the list, and
it comes from the request that the find waited for, which was started for its generation. What was
started stays started. -/
lemma SentFrom.step {c : Cache.Config Token CriticSourceError} {e : Event Token Candidate}
    (h : Rotating c s) (hstep : Igdb.step c s e = some s') {g : ℕ} (hg : g ≤ s'.generation)
    {f : ℕ} {find' : Find Token Candidate} (hfind' : s'.finds[f]? = some find')
    (hbefore : ∀ find, s.finds[f]? = some find → SentFrom g s find) : SentFrom g s' find' := by
  have hstarted : ∀ {id : ℕ}, (∃ key, Started s.cache id key ∧ g ≤ key) →
      ∃ key, Started s'.cache id key ∧ g ≤ key := by
    rintro id ⟨key, hkey, hle⟩
    exact ⟨key, (h.started_step hstep id key).1 hkey, hle⟩
  have hnext := step_find hstep hfind'
  generalize hfind : s.finds[f]? = before at hnext
  cases hnext with
  | same =>
    obtain ⟨hle, hsent⟩ := hbefore find' hfind
    exact ⟨hle, fun id hid => hstarted (hsent id hid)⟩
  | empty => exact ⟨hg, fun id hid => absurd hid List.not_mem_nil⟩
  | start call hasks => exact ⟨hg, fun id hid => absurd hid List.not_mem_nil⟩
  | send find call token hphase =>
    obtain ⟨hle, hsent⟩ := hbefore find hfind
    refine ⟨hle, ?_⟩
    intro id hid
    rcases List.mem_append.mp hid with hid | hid
    · exact hstarted (hsent id hid)
    · rw [List.mem_singleton.mp hid]
      have hawaited := (h.finds find (List.mem_of_getElem? hfind)).awaiting call hphase
      exact hstarted ⟨find.generation, hawaited, hle⟩
  | repeated find call hwaits hfirst hasks =>
    exact ⟨hg, fun id hid => hstarted ((hbefore find hfind).2 id hid)⟩
  | finish find result hwaits =>
    exact ⟨(hbefore find hfind).1, fun id hid => hstarted ((hbefore find hfind).2 id hid)⟩
  | drop find hwaits =>
    exact ⟨(hbefore find hfind).1, fun id hid => hstarted ((hbefore find hfind).2 id hid)⟩

/-- A find that starts later sends no token of an older generation. -/
lemma sentFrom_of_run (hs : (system Token Candidate life lastInstant).Reachable s)
    {es : List (Event Token Candidate)}
    (hrun : (system Token Candidate life lastInstant).run s es = some s') {f : ℕ}
    (hf : s.finds.length ≤ f) {find : Find Token Candidate} (hfind : s'.finds[f]? = some find) :
    SentFrom s.generation s' find := by
  have hlater := hs.run_invariant (P := fun m => s.generation ≤ m.generation ∧
    ∀ find, m.finds[f]? = some find → SentFrom s.generation m find) ?_ ?_ hrun
  · exact hlater.2 find hfind
  · rintro m e m' hm ⟨hle, hbefore⟩ hstep
    have hle' := hle.trans (Rotating.generation_le hstep)
    exact ⟨hle', fun find' hfind' =>
      SentFrom.step (Rotating.of_reachable hm) hstep hle' hfind' hbefore⟩
  · refine ⟨le_rfl, ?_⟩
    intro find hfind
    rw [List.getElem?_eq_none hf] at hfind
    cases hfind

/-- While a token request of a generation stays usable, no other one starts for it and the finds
that begin an attempt wait for it.

**Proof sketch.** By induction on the run, with the generation never less than at its start. Where
it is still the same, the request was usable before each step too (`Rotating.joins_step`), so the
step starts no request of the generation, and a find that it lets ask for a token joins this one.
Every other step of a find leaves it, or takes it out of the phase that waits for a token. -/
lemma joins_of_run (hs : (system Token Candidate life lastInstant).Reachable s)
    {es : List (Event Token Candidate)}
    (hrun : (system Token Candidate life lastInstant).run s es = some s')
    (hsame : s'.generation = s.generation) {id : ℕ} (hstarted : Started s.cache id s.generation)
    {status : Cache.Status Token CriticSourceError}
    (htask : s'.cache.tasks id = some ⟨s.generation, status⟩)
    (husable : status.Usable (tokens life lastInstant) s'.cache.now) :
    (∀ id', Started s'.cache id' s.generation → Started s.cache id' s.generation) ∧
      ∀ (f : ℕ) (find : Find Token Candidate) (call : Cache.Call ℕ),
        s'.finds[f]? = some find → find.phase = .awaitingToken call →
        s.finds[f]? = some find ∨ call.lookup.task = id := by
  have hlater := hs.run_invariant (P := fun m => s.generation ≤ m.generation ∧
    Started m.cache id s.generation ∧ (m.generation = s.generation → ∀ status,
      m.cache.tasks id = some ⟨s.generation, status⟩ →
      status.Usable (tokens life lastInstant) m.cache.now →
      (∀ id', Started m.cache id' s.generation → Started s.cache id' s.generation) ∧
        ∀ (f : ℕ) (find : Find Token Candidate) (call : Cache.Call ℕ),
          m.finds[f]? = some find → find.phase = .awaitingToken call →
          s.finds[f]? = some find ∨ call.lookup.task = id)) ?_ ?_ hrun
  · exact hlater.2.2 hsame status htask husable
  · rintro m e m' hm ⟨hle, hstartedm, hjoined⟩ hstep
    have hrotating := Rotating.of_reachable hm
    have hmono := Rotating.generation_le hstep
    refine ⟨hle.trans hmono, (hrotating.started_step hstep _ _).1 hstartedm, ?_⟩
    intro hsame' status' htask' husable'
    have hm_same : m.generation = s.generation := by omega
    obtain ⟨⟨before, htaskm, hu⟩, hnone, hasks⟩ := hrotating.joins_step hstep
      (hsame'.trans hm_same.symm) (hm_same ▸ hstartedm) (hm_same ▸ htask') husable'
    rw [hm_same] at htaskm hnone
    obtain ⟨hfew, hfinds⟩ := hjoined hm_same before htaskm hu
    refine ⟨fun id' hid' => hfew id' (hnone id' hid'), ?_⟩
    intro f find' call hfind' hphase'
    have hnext := step_find hstep hfind'
    generalize hfind : m.finds[f]? = previous at hnext
    cases hnext with
    | same => exact hfinds f find' call hfind hphase'
    | empty => cases hphase'
    | start other hasked =>
      cases hphase'
      exact Or.inr (hasks call hasked)
    | send find other token hphase => cases hphase'
    | repeated find other hwaits hfirst hasked =>
      cases hphase'
      exact Or.inr (hasks call hasked)
    | finish find result hwaits => cases hphase'
    | drop find hwaits => cases hphase'
  · refine ⟨le_rfl, hstarted, ?_⟩
    intro _ _ _ _
    exact ⟨fun _ h => h, fun f find call hfind _ => Or.inl hfind⟩

end Runs

/-- **The rotation of the token.** In every reachable state of a client, with any times to live of
tokens and any order of the finds, the token requests, the answers and the clock:

* a find calls `request_games` at most twice;
* a step leaves the generation, or it ends a rejected attempt at the current generation, moves the
  generation on by one and starts the one token request of the new generation, which the rejected
  find then waits for;
* the generation never comes back to one that it has left;
* the generation does not go back in a run, and a find that starts in the run sends no token of a
  request for an older generation;
* while a token request of the current generation is pending or not expired, no other one starts
  for the generation, and every find that begins to wait for a token waits for that request.

**Proof sketch.** The invariant `Rotating` bounds what a find has sent by where it stands, and ties
the generation to the token requests that were started. Only the end of a rejected first attempt at
the current generation moves the generation on (`moved_step`), so it never goes back; a later find
takes the generation that it finds. While the entry of a generation is usable the cache starts no
second lookup for it, which is the single flight of the cache. -/
theorem token_rotation (life : Token → ℕ) (lastInstant : ℕ) {s : Sys Token Candidate}
    (hs : (system Token Candidate life lastInstant).Reachable s) :
    (∀ find ∈ s.finds, find.sent.length ≤ 2) ∧
    (∀ e s', step (tokens life lastInstant) s e = some s' → s'.generation = s.generation ∨
      s'.generation = s.generation + 1 ∧
        (∃ f find call, EndsRejected (tokens life lastInstant) s e f find ∧
          find.generation = s.generation ∧ s'.finds[f]? = some
            { find with
              generation := s'.generation
              second := true
              phase := .awaitingToken call } ∧
          s'.cache.tasks call.lookup.task = some ⟨s'.generation, .running⟩ ∧
          ∀ id, Started s'.cache id s'.generation → id = call.lookup.task) ∧
        ∀ es s'', (system Token Candidate life lastInstant).run s' es = some s'' →
          s''.generation ≠ s.generation) ∧
    ∀ es s', (system Token Candidate life lastInstant).run s es = some s' →
      s.generation ≤ s'.generation ∧
      (∀ f find, s.finds.length ≤ f → s'.finds[f]? = some find → ∀ id ∈ find.sent,
        ∃ key, Started s'.cache id key ∧ s.generation ≤ key) ∧
      ∀ id status, s'.generation = s.generation → Started s.cache id s.generation →
        s'.cache.tasks id = some ⟨s.generation, status⟩ →
        status.Usable (tokens life lastInstant) s'.cache.now →
        (∀ id', Started s'.cache id' s.generation → Started s.cache id' s.generation) ∧
        ∀ (f : ℕ) (find : Find Token Candidate) (call : Cache.Call ℕ),
        s'.finds[f]? = some find → find.phase = .awaitingToken call →
          s.finds[f]? = some find ∨ call.lookup.task = id := by
  have h := Rotating.of_reachable hs
  refine ⟨?_, ?_, ?_⟩
  · intro find hfind
    exact (h.finds find hfind).sent_length.trans find.sentLimit_le
  · intro e s' hstep
    by_cases hmoved : s'.generation = s.generation
    · exact Or.inl hmoved
    · obtain ⟨hnext, hrequest⟩ := h.moved_step hstep hmoved
      refine Or.inr ⟨hnext, hrequest, ?_⟩
      intro es s'' hrun
      have hle := generation_le_of_run (hs.step hstep) hrun
      omega
  · intro es s' hrun
    refine ⟨generation_le_of_run hs hrun, ?_, ?_⟩
    · intro f find hf hfind
      exact (sentFrom_of_run hs hrun hf hfind).2
    · intro id status hsame hstarted htask husable
      exact joins_of_run hs hrun hsame hstarted htask husable

/-- Two finds share the first token, both are rejected, and they share the second one. -/
def rejectedTogether : List (Event ℕ ℕ) :=
  [.start (some "a"), .start (some "b"), .tokenRequestEnds 1 (.ok 7), .token 0, .token 1,
    .games 1 (.error .rejected), .games 0 (.error .rejected), .tokenRequestEnds 3 (.ok 8),
    .token 0, .token 1]

/-- Each of the two finds has sent the tokens of the same two requests. -/
theorem token_rotation_rejectedTogether :
    ∃ s, (system ℕ ℕ (fun _ => 60) 1000).Reachable s ∧ s.generation = 1 ∧
      s.finds.map Find.sent = [[1, 3], [1, 3]] ∧ ∀ find ∈ s.finds, find.sent.length ≤ 2 := by
  refine ⟨_, ⟨rejectedTogether, rfl⟩, rfl, rfl, ?_⟩
  exact (token_rotation (fun _ => 60) 1000 ⟨rejectedTogether, rfl⟩).1

end PsStore.Igdb
