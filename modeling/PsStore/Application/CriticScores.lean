import PsStore.Application.CacheOutcomes
import PsStore.Application.Games
import PsStore.Domain.CriticMatch
import PsStore.Sources.Igdb.Query
import PsStore.Sources.Igdb.TokenRotation

set_option relaxedAutoImplicit false
set_option autoImplicit false

/-!
# The critic score service

`application/critic_scores.rs`: a game page asks for the critic score of its game, and the service
looks it up in a cache by the id, the title and the release year. A lookup asks the provider and
chooses a score, within a time budget. The system below runs the pages, the lookups, the provider,
the timers and the clock in any order. The clock is free: the runtime may fire a timer late, and
poll a lookup late after its timer. How late it is at most is a condition on a run, not on the
system.

A system also remembers what the code does not: what the provider answered to each lookup, and
whether a lookup was polled behind its timer.

## Main definitions

* `scoreKey` — the key of a game, when it has a release year.
* `scoreConfig` — the cache of the service.
* `CriticScores.Sys`, `CriticScores.Event`, `CriticScores.system` — the runs of the service.
* `CriticScores.Prompt` — the runtime is late by a delay at most.

## Main results

* `CriticScores.Inv.of_reachable` — the outcome of every lookup, and the time it takes.
* `CriticScores.score_matches` — a page shows only a score that the provider gave for its game, in a
  current answer.
* `CriticScores.score_in_budget` — a page waits no longer than the budget and the delay of the
  runtime, and no failure hides a score for longer than its time to live.
-/

namespace PsStore

open Igdb (CriticSourceError)

/-! ## The lookup of a game -/

/-- The UTC year of a date text. -/
def releaseYearOf (date : String) : Option Int32 := (parseDateMs date).bind utcFullYear

/-- The key of the score cache: public data only. -/
structure CriticKey where
  id : GameId
  title : String
  year : Int32
deriving DecidableEq

/-- The key of a game. Without a release year there is nothing to match against. -/
def scoreKey (game : Game) : Option CriticKey :=
  (releaseYearOf game.date).map fun year => ⟨game.id, game.name, year⟩

/-- The number of games whose outcome the cache keeps. -/
def scoreCacheCapacity : ℕ := 5000

/-- How long a score and a miss stay cached, in nanoseconds. -/
def scoreTtl : ℕ := 24 * 60 * 60 * 10 ^ 9

/-- How long a failed lookup stays cached, in nanoseconds. -/
def scoreFailureTtl : ℕ := 60 * 10 ^ 9

/-- The total time that the game page waits for a score, in nanoseconds. -/
def scoreBudget : ℕ := 1500 * 10 ^ 6

/-- The cache of the service. -/
def scoreConfig (lastInstant : ℕ) : Cache.Config (Option CriticScore) CriticSourceError where
  capacity := scoreCacheCapacity
  ttl := fun outcome =>
    match outcome with
    | .ok _ => scoreTtl
    | .error _ => scoreFailureTtl
  lastInstant := lastInstant
  lookupPanicked := .unavailable

/-- The score that the page shows for an outcome: a failure degrades to no score. -/
def shownScore : Except CriticSourceError (Option CriticScore) → Option CriticScore
  | .ok score => score
  | .error _ => none

namespace CriticScores

/-! ## The service -/

/-- The service with its cache, the timer of each lookup, and the candidates that the provider
answered to it. -/
structure Sys where
  cache : Cache.Sys CriticKey (Option CriticScore) CriticSourceError
  /-- The time at which the timer of a lookup starts. -/
  started : ℕ → ℕ
  /-- The runtime has fired the timer of a lookup. -/
  fired : ℕ → Bool
  /-- A lookup was polled behind its timer. -/
  polled : ℕ → Bool
  answers : ℕ → Option (List CriticCandidate)

/-- An event of the service. -/
inductive Event where
  /-- A page asks for the score of its game. -/
  | scoreFor (game : Game)
  /-- The provider answers the call of a lookup, and the lookup is polled with the answer. -/
  | findGames (id : ℕ) (answer : Except CriticSourceError (List CriticCandidate))
  /-- The runtime fires the timer of a lookup. -/
  | fire (id : ℕ)
  /-- The runtime polls a lookup that has no answer. -/
  | poll (id : ℕ)
  /-- The call of a lookup panics. -/
  | panic (id : ℕ)
  /-- A page gets its outcome. -/
  | deliver (call : ℕ)
  /-- A page is left. -/
  | leave (call : ℕ)
  /-- The clock moves on. -/
  | advance (duration : ℕ)

/-- The step of an event. `timeout` asks the lookup before its timer, so an answer counts however
late it is; without an answer, the lookup ends as unavailable once its timer has fired. A timer
fires at its deadline or later. -/
def step (unicode : UnicodeData) (lastInstant : ℕ) (s : Sys) : Event → Option Sys
  | .scoreFor game =>
    match scoreKey game with
    | none => some s
    | some key =>
      (Cache.step (scoreConfig lastInstant) s.cache (.getWith key)).map fun cache =>
        { s with
          cache
          started := Function.update s.started (s.cache.state.next + 1) s.cache.now
          fired := Function.update s.fired (s.cache.state.next + 1) false
          polled := Function.update s.polled (s.cache.state.next + 1) false }
  | .findGames id answer =>
    match s.cache.tasks id with
    | some ⟨key, .running⟩ =>
      let outcome := answer.map (matchCriticScore unicode key.title key.year)
      (Cache.step (scoreConfig lastInstant) s.cache (.finish id outcome)).map fun cache =>
        { s with cache, answers := Function.update s.answers id answer.toOption }
    | _ => none
  | .fire id =>
    match s.cache.tasks id with
    | some ⟨_, .running⟩ =>
      if s.started id + scoreBudget ≤ s.cache.now then
        some { s with fired := Function.update s.fired id true }
      else none
    | _ => none
  | .poll id =>
    match s.cache.tasks id with
    | some ⟨_, .running⟩ =>
      if s.fired id then
        (Cache.step (scoreConfig lastInstant) s.cache (.finish id (.error .unavailable))).map
          fun cache => { s with cache, polled := Function.update s.polled id true }
      else some s
    | _ => none
  | .panic id =>
    (Cache.step (scoreConfig lastInstant) s.cache (.panic id)).map fun cache => { s with cache }
  | .deliver call =>
    (Cache.step (scoreConfig lastInstant) s.cache (.deliver call)).map fun cache => { s with cache }
  | .leave call =>
    (Cache.step (scoreConfig lastInstant) s.cache (.leave call)).map fun cache => { s with cache }
  | .advance duration =>
    (Cache.step (scoreConfig lastInstant) s.cache (.advance duration)).map
      fun cache => { s with cache }

/-- The runs of the service. -/
def system (unicode : UnicodeData) (lastInstant : ℕ) : TransitionSystem Sys Event where
  init := ⟨Cache.Sys.start, fun _ => 0, fun _ => false, fun _ => false, fun _ => none⟩
  step := step unicode lastInstant

/-- The runtime is late by `delay` at most: the clock does not go further past the deadline of a
lookup that runs before the runtime has fired the timer and polled the lookup behind it. -/
def Prompt (delay : ℕ) (s : Sys) : Event → Prop
  | .advance duration => ∀ id key, s.cache.tasks id = some ⟨key, .running⟩ →
      s.polled id = false → s.cache.now + duration ≤ s.started id + scoreBudget + delay
  | _ => True

/-! ## What a step does -/

variable {unicode : UnicodeData} {lastInstant : ℕ} {s s' : Sys}

/-- A step of the cache that ends no lookup with an outcome, starts no lookup and adds no call. -/
structure Passes (cache cache' : Cache.Sys CriticKey (Option CriticScore) CriticSourceError) :
    Prop where
  now : cache.now ≤ cache'.now
  tasks : ∀ id task, cache'.tasks id = some task →
    cache.tasks id = some task ∨ ∃ key m, task = ⟨key, .panicked m⟩ ∧ (cache.tasks id).isSome
  waiting : ∀ call ∈ cache'.waiting, call ∈ cache.waiting

/-- A panic, and the return or the departure of a call, pass by and take no time. -/
lemma passes_of_step {e : Cache.Event CriticKey (Option CriticScore) CriticSourceError}
    {cache cache' : Cache.Sys CriticKey (Option CriticScore) CriticSourceError}
    (h : Cache.step (scoreConfig lastInstant) cache e = some cache')
    (he : (∃ id, e = .panic id) ∨ (∃ i, e = .deliver i) ∨ ∃ i, e = .leave i) :
    Passes cache cache' ∧ cache'.now = cache.now := by
  rcases Cache.step_cases h with ⟨key, rfl, -⟩ | ⟨key, rfl, -⟩ | ⟨id, outcome, key, rfl, -, -⟩ |
    ⟨id, key, rfl, hrunning, rfl⟩ | ⟨i, call, task, outcome, rfl, -, -, -, rfl⟩ | ⟨i, rfl, rfl⟩ |
    ⟨duration, rfl, -⟩
  · simp at he
  · simp at he
  · simp at he
  · refine ⟨⟨Nat.le_refl _, ?_, fun call hcall => hcall⟩, rfl⟩
    intro id' task htask
    dsimp only [Cache.Sys.panic] at htask
    by_cases hid : id' = id
    · subst hid
      rw [Function.update_self] at htask
      cases htask
      exact Or.inr ⟨key, _, rfl, by rw [hrunning]; rfl⟩
    · rw [Function.update_of_ne hid] at htask
      exact Or.inl htask
  · exact ⟨⟨Nat.le_refl _, fun id task htask => Or.inl htask,
      fun call hcall => List.mem_of_mem_eraseIdx hcall⟩, rfl⟩
  · exact ⟨⟨Nat.le_refl _, fun id task htask => Or.inl htask,
      fun call hcall => List.mem_of_mem_eraseIdx hcall⟩, rfl⟩
  · simp at he

/-- **The steps of the service**: nothing, for a page without a year or a poll before the timer; a
call; the end of a lookup by an answer or by a poll behind its timer; a timer; and the steps of the
cache that pass by. -/
lemma step_cases {e : Event} (h : step unicode lastInstant s e = some s') :
    s' = s ∨
    (∃ game key, e = .scoreFor game ∧ scoreKey game = some key ∧
      s' = { s with
        cache := s.cache.getWith (scoreConfig lastInstant) key
        started := Function.update s.started (s.cache.state.next + 1) s.cache.now
        fired := Function.update s.fired (s.cache.state.next + 1) false
        polled := Function.update s.polled (s.cache.state.next + 1) false }) ∨
    (∃ id key answer, e = .findGames id answer ∧ s.cache.tasks id = some ⟨key, .running⟩ ∧
      s' = { s with
        cache := s.cache.finish (scoreConfig lastInstant) id key
          (answer.map (matchCriticScore unicode key.title key.year))
        answers := Function.update s.answers id answer.toOption }) ∨
    (∃ id key, e = .poll id ∧ s.cache.tasks id = some ⟨key, .running⟩ ∧
      s' = { s with
        cache := s.cache.finish (scoreConfig lastInstant) id key (.error .unavailable)
        polled := Function.update s.polled id true }) ∨
    (∃ id, e = .fire id ∧ s' = { s with fired := Function.update s.fired id true }) ∨
    ∃ e' cache, Cache.step (scoreConfig lastInstant) s.cache e' = some cache ∧
      Passes s.cache cache ∧
      (cache.now = s.cache.now ∨
        ∃ duration, e = .advance duration ∧ cache.now = s.cache.now + duration) ∧
      s' = { s with cache } := by
  cases e with
  | scoreFor game =>
    simp only [step] at h
    split at h
    · cases h
      exact Or.inl rfl
    · next key hkey =>
      cases h
      exact Or.inr (Or.inl ⟨game, key, rfl, hkey, rfl⟩)
  | findGames id answer =>
    simp only [step] at h
    split at h
    · next key hrunning =>
      rw [Cache.step, hrunning] at h
      cases h
      exact Or.inr (Or.inr (Or.inl ⟨id, key, answer, rfl, hrunning, rfl⟩))
    · cases h
  | fire id =>
    simp only [step] at h
    split at h
    · split_ifs at h
      cases h
      exact Or.inr (Or.inr (Or.inr (Or.inr (Or.inl ⟨id, rfl, rfl⟩))))
    · cases h
  | poll id =>
    simp only [step] at h
    split at h
    · next key hrunning =>
      split_ifs at h
      · rw [Cache.step, hrunning] at h
        cases h
        exact Or.inr (Or.inr (Or.inr (Or.inl ⟨id, key, rfl, hrunning, rfl⟩)))
      · cases h
        exact Or.inl rfl
    · cases h
  | panic id =>
    obtain ⟨cache, hcache, rfl⟩ := Option.map_eq_some_iff.mp h
    obtain ⟨hpasses, hnow⟩ := passes_of_step hcache (Or.inl ⟨id, rfl⟩)
    exact Or.inr (Or.inr (Or.inr (Or.inr (Or.inr
      ⟨.panic id, cache, hcache, hpasses, Or.inl hnow, rfl⟩))))
  | deliver i =>
    obtain ⟨cache, hcache, rfl⟩ := Option.map_eq_some_iff.mp h
    obtain ⟨hpasses, hnow⟩ := passes_of_step hcache (Or.inr (Or.inl ⟨i, rfl⟩))
    exact Or.inr (Or.inr (Or.inr (Or.inr (Or.inr
      ⟨.deliver i, cache, hcache, hpasses, Or.inl hnow, rfl⟩))))
  | leave i =>
    obtain ⟨cache, hcache, rfl⟩ := Option.map_eq_some_iff.mp h
    obtain ⟨hpasses, hnow⟩ := passes_of_step hcache (Or.inr (Or.inr ⟨i, rfl⟩))
    exact Or.inr (Or.inr (Or.inr (Or.inr (Or.inr
      ⟨.leave i, cache, hcache, hpasses, Or.inl hnow, rfl⟩))))
  | advance d =>
    cases h
    exact Or.inr (Or.inr (Or.inr (Or.inr (Or.inr ⟨.advance d, _, rfl,
      ⟨Nat.le_add_right _ _, fun id task htask => Or.inl htask, fun call hcall => hcall⟩,
      Or.inr ⟨d, rfl, rfl⟩, rfl⟩))))

/-! ## The invariant -/

/-- The invariant of the service. -/
structure Inv (unicode : UnicodeData) (lastInstant : ℕ) (s : Sys) : Prop where
  /-- The cache makes a run of its own. -/
  cache : (Cache.system CriticKey (scoreConfig lastInstant)).Reachable s.cache
  /-- A lookup ends with the choice among the candidates of its answer, or it fails. -/
  outcomes : ∀ {id key outcome m}, s.cache.tasks id = some ⟨key, .completed outcome m⟩ →
    (∃ candidates, s.answers id = some candidates ∧
      outcome = .ok (matchCriticScore unicode key.title key.year candidates)) ∨
    ∃ error, outcome = .error error
  /-- A timer starts before now. -/
  started : ∀ {id task}, s.cache.tasks id = some task → s.started id ≤ s.cache.now
  /-- A lookup that runs was not polled behind its timer. -/
  polled : ∀ {id key}, s.cache.tasks id = some ⟨key, .running⟩ → s.polled id = false
  /-- A call does not start before the timer of its lookup. -/
  calls : ∀ call ∈ s.cache.waiting, s.started call.lookup.task ≤ call.start.clock

/-- What a call adds: at most the running lookup of the next number, and itself, behind a lookup
that was started. -/
lemma Inv.getWith_spec (hs : Inv unicode lastInstant s) (key : CriticKey) :
    (s.cache.getWith (scoreConfig lastInstant) key).now = s.cache.now ∧
    (∀ id task, (s.cache.getWith (scoreConfig lastInstant) key).tasks id = some task →
      s.cache.tasks id = some task ∨ id = s.cache.state.next + 1 ∧ task = ⟨key, .running⟩) ∧
    ∀ call ∈ (s.cache.getWith (scoreConfig lastInstant) key).waiting, call ∈ s.cache.waiting ∨
      call.start.clock = s.cache.now ∧
        ((∃ task, s.cache.tasks call.lookup.task = some task) ∨
          call.lookup.task = s.cache.state.next + 1) := by
  rcases Cache.getWith_cases (scoreConfig lastInstant) s.cache key with
    ⟨entry, hentry, -, hget⟩ | ⟨-, hget⟩
  · obtain ⟨hlookup, status, hstatus, -⟩ := (Cache.Valid.of_reachable hs.cache).entries hentry
    rw [hget]
    refine ⟨rfl, fun id task htask => Or.inl htask, ?_⟩
    intro call hcall
    rcases List.mem_append.mp hcall with hcall | hcall
    · exact Or.inl hcall
    · rw [List.mem_singleton.mp hcall]
      exact Or.inr ⟨rfl, Or.inl ⟨_, hlookup ▸ hstatus⟩⟩
  · rw [hget]
    refine ⟨rfl, ?_, ?_⟩
    · intro id task htask
      dsimp only at htask
      by_cases hid : id = s.cache.state.next + 1
      · rw [hid, Function.update_self] at htask
        exact Or.inr ⟨hid, (Option.some.inj htask).symm⟩
      · rw [Function.update_of_ne hid] at htask
        exact Or.inl htask
    · intro call hcall
      rcases List.mem_append.mp hcall with hcall | hcall
      · exact Or.inl hcall
      · rw [List.mem_singleton.mp hcall]
        exact Or.inr ⟨rfl, Or.inr rfl⟩

/-- **A call keeps the invariant.** A lookup that it starts has its timer from now on.

**Proof sketch.** A lookup that was there before keeps its start and its polls, because its number
is at most the last one given. A new one runs, has the next number, starts now and is not polled
yet. A page that waited waits on, and a new page waits for a lookup that is not started later than
now. -/
lemma Inv.scoreFor (hs : Inv unicode lastInstant s) (key : CriticKey) {started : ℕ → ℕ}
    {fired polled : ℕ → Bool} (hnew : started (s.cache.state.next + 1) = s.cache.now)
    (hnone : polled (s.cache.state.next + 1) = false)
    (hold : ∀ id ≤ s.cache.state.next, started id = s.started id ∧ polled id = s.polled id) :
    Inv unicode lastInstant { s with
      cache := s.cache.getWith (scoreConfig lastInstant) key
      started := started
      fired := fired
      polled := polled } := by
  have hvalid := Cache.Valid.of_reachable hs.cache
  have hstep : (Cache.system CriticKey (scoreConfig lastInstant)).step s.cache (.getWith key) =
      some (s.cache.getWith (scoreConfig lastInstant) key) := rfl
  obtain ⟨hnow, htasks, hwaiting⟩ := hs.getWith_spec key
  refine ⟨hs.cache.step hstep, ?_, ?_, ?_, ?_⟩
  · intro id key' outcome m htask
    rcases htasks id _ htask with hbefore | ⟨-, hrunning⟩
    · exact hs.outcomes hbefore
    · cases hrunning
  · intro id task htask
    show started id ≤ (s.cache.getWith (scoreConfig lastInstant) key).now
    rw [hnow]
    rcases htasks id _ htask with hbefore | ⟨rfl, -⟩
    · rw [(hold id (hvalid.task_le_next hbefore)).1]
      exact hs.started hbefore
    · exact hnew.le
  · intro id key' htask
    show polled id = false
    rcases htasks id _ htask with hbefore | ⟨rfl, -⟩
    · rw [(hold id (hvalid.task_le_next hbefore)).2]
      exact hs.polled hbefore
    · exact hnone
  · intro call hcall
    show started call.lookup.task ≤ call.start.clock
    rcases hwaiting call hcall with hbefore | ⟨hclock, ⟨task, htask⟩ | hnext⟩
    · obtain ⟨-, -, status, htask, -⟩ := hvalid.waiting call hbefore
      rw [(hold _ (hvalid.task_le_next htask)).1]
      exact hs.calls call hbefore
    · rw [(hold _ (hvalid.task_le_next htask)).1, hclock]
      exact hs.started htask
    · rw [hnext, hnew, hclock]

/-- A lookup that runs behind the end of one is another one. -/
lemma running_of_finish {id id' : ℕ} {key key' : CriticKey}
    {outcome : Except CriticSourceError (Option CriticScore)}
    (h : (s.cache.finish (scoreConfig lastInstant) id' key' outcome).tasks id =
      some ⟨key, .running⟩) : s.cache.tasks id = some ⟨key, .running⟩ := by
  dsimp only [Cache.Sys.finish] at h
  by_cases hid : id = id'
  · rw [hid, Function.update_self] at h
    cases h
  · rwa [Function.update_of_ne hid] at h

/-- **The end of a lookup keeps the invariant.**

**Proof sketch.** Only the lookup that ends gets another status: it has its outcome from the
candidates that it saw or from an error, and runs no more. The other lookups keep their status,
their candidates and their polls. -/
lemma Inv.finish (hs : Inv unicode lastInstant s) {id : ℕ} {key : CriticKey}
    (hrunning : s.cache.tasks id = some ⟨key, .running⟩)
    {outcome : Except CriticSourceError (Option CriticScore)}
    {answers : ℕ → Option (List CriticCandidate)} {polled : ℕ → Bool}
    (hothers : ∀ id' ≠ id, answers id' = s.answers id' ∧ polled id' = s.polled id')
    (houtcome : (∃ candidates, answers id = some candidates ∧
      outcome = .ok (matchCriticScore unicode key.title key.year candidates)) ∨
      ∃ error, outcome = .error error) :
    Inv unicode lastInstant { s with
      cache := s.cache.finish (scoreConfig lastInstant) id key outcome
      polled := polled
      answers := answers } := by
  have hstep : (Cache.system CriticKey (scoreConfig lastInstant)).step s.cache
      (.finish id outcome) = some (s.cache.finish (scoreConfig lastInstant) id key outcome) := by
    show Cache.step (scoreConfig lastInstant) s.cache (.finish id outcome) = _
    rw [Cache.step, hrunning]
  refine ⟨hs.cache.step hstep, ?_, ?_, ?_, hs.calls⟩
  · intro id' key' outcome' m htask
    dsimp only [Cache.Sys.finish] at htask
    by_cases hid : id' = id
    · subst hid
      rw [Function.update_self] at htask
      cases htask
      exact houtcome
    · rw [Function.update_of_ne hid] at htask
      have hbefore := hs.outcomes htask
      rw [← (hothers id' hid).1] at hbefore
      exact hbefore
  · intro id' task htask
    dsimp only [Cache.Sys.finish] at htask
    by_cases hid : id' = id
    · subst hid
      exact hs.started hrunning
    · rw [Function.update_of_ne hid] at htask
      exact hs.started htask
  · intro id' key' htask
    dsimp only [Cache.Sys.finish] at htask
    by_cases hid : id' = id
    · subst hid
      rw [Function.update_self] at htask
      cases htask
    · rw [Function.update_of_ne hid] at htask
      exact (hothers id' hid).2.trans (hs.polled htask)

/-- **Every event keeps the invariant.**

**Proof sketch.** By `step_cases`: a page adds its call and at most one lookup (`Inv.scoreFor`), an
answer and a poll end a lookup (`Inv.finish`), a timer changes nothing that the invariant reads, and
a step that passes by leaves the outcomes, the starts and the calls as they are. -/
lemma Inv.step (hs : Inv unicode lastInstant s) {e : Event}
    (h : step unicode lastInstant s e = some s') : Inv unicode lastInstant s' := by
  rcases step_cases h with rfl | ⟨game, key, -, -, rfl⟩ | ⟨id, key, answer, -, hrunning, rfl⟩ |
    ⟨id, key, -, hrunning, rfl⟩ | ⟨id, -, rfl⟩ | ⟨e', cache, hcache, hpasses, -, rfl⟩
  · exact hs
  · apply hs.scoreFor key
    · exact Function.update_self _ _ _
    · exact Function.update_self _ _ _
    · intro id hid
      exact ⟨Function.update_of_ne (by omega) _ _, Function.update_of_ne (by omega) _ _⟩
  · apply hs.finish hrunning
    · intro id' hid
      exact ⟨Function.update_of_ne hid _ _, rfl⟩
    · rw [Function.update_self]
      cases answer with
      | ok candidates => exact Or.inl ⟨candidates, rfl, rfl⟩
      | error error => exact Or.inr ⟨error, rfl⟩
  · apply hs.finish hrunning
    · intro id' hid
      exact ⟨rfl, Function.update_of_ne hid _ _⟩
    · exact Or.inr ⟨_, rfl⟩
  · exact ⟨hs.cache, hs.outcomes, hs.started, hs.polled, hs.calls⟩
  · refine ⟨hs.cache.step hcache, ?_, ?_, ?_, ?_⟩
    · intro id key outcome m htask
      rcases hpasses.tasks id _ htask with hbefore | ⟨key', m', hpanicked, -⟩
      · exact hs.outcomes hbefore
      · cases hpanicked
    · intro id task htask
      apply Nat.le_trans _ hpasses.now
      rcases hpasses.tasks id _ htask with hbefore | ⟨key', m', -, hsome⟩
      · exact hs.started hbefore
      · obtain ⟨task', hbefore⟩ := Option.isSome_iff_exists.mp hsome
        exact hs.started hbefore
    · intro id key htask
      rcases hpasses.tasks id _ htask with hbefore | ⟨key', m', hpanicked, -⟩
      · exact hs.polled hbefore
      · cases hpanicked
    · intro call hcall
      exact hs.calls call (hpasses.waiting call hcall)

/-- **The invariant holds in every run.** -/
theorem Inv.of_reachable (h : (system unicode lastInstant).Reachable s) :
    Inv unicode lastInstant s := by
  apply TransitionSystem.Reachable.invariant _ _ h
  · refine ⟨TransitionSystem.Reachable.init, ?_, ?_, ?_, ?_⟩
    · intro id key outcome m htask
      cases htask
    · intro id task htask
      cases htask
    · intro id key htask
      cases htask
    · intro call hcall
      cases hcall
  · intro s e s' _ hs hstep
    exact hs.step hstep

/-! ## What a page shows -/

/-- The score of a match is the one of its sole qualified candidate. -/
lemma choosesSole_matchCriticScore {title : String} {year : Int32}
    {candidates : List CriticCandidate}
    {score : CriticScore} (h : matchCriticScore unicode title year candidates = some score) :
    ∃ front candidate rest, candidates = front ++ candidate :: rest ∧
      candidate.Qualified unicode title year ∧ candidate.rating = some score ∧
      ∀ other ∈ front ++ rest, ¬ other.Qualified unicode title year := by
  have htitle : normalizeTitle unicode title ≠ "" := by
    intro hempty
    rw [matchCriticScore_of_empty hempty] at h
    cases h
  have hsole : ChoosesSole (CriticCandidate.Qualified unicode title year) CriticCandidate.rating
      fun candidates => (sole (candidates.filter
        (CriticCandidate.qualifies unicode (normalizeTitle unicode title) year))).bind
          CriticCandidate.rating :=
    choosesSole_filter (CriticCandidate.qualifies_iff htitle) fun _ hqualified => hqualified.rated
  rw [matchCriticScore_eq_sole htitle] at h
  exact (hsole.some_iff candidates score).mp h

/-- A call that was served by a completed lookup started before its outcome expired. -/
lemma lt_of_serves {outcome : Except CriticSourceError (Option CriticScore)}
    {start m : Cache.Moment}
    (h : (Cache.Status.completed outcome m).Serves (scoreConfig lastInstant) start)
    (hinstant : m.clock + (scoreConfig lastInstant).ttl outcome ≤ lastInstant) :
    start.clock < m.clock + (scoreConfig lastInstant).ttl outcome := by
  rcases h with ⟨hclock, -⟩ | ⟨-, hdeadline⟩
  · have hpos : 0 < (scoreConfig lastInstant).ttl outcome := by
      cases outcome with
      | ok score => exact (by decide : 0 < scoreTtl)
      | error error => exact (by decide : 0 < scoreFailureTtl)
    omega
  · exact hdeadline _ (if_pos hinstant)

/-- **A page shows only a score of its game.** In every run of the service, with pages, lookups,
answers, timers, panics and evictions in any order: where the page of a game shows a score, the
provider answered the lookup with candidates of which exactly one is the same game, by its name, its
year and enough reviews, and the score is that candidate's; and the page asked before the answer was
24 hours old.

**Proof sketch.** The invariant `Inv` ties every completed lookup to the answer that the provider
gave it, and `Cache.Valid` ties the page to a lookup of its key that served it. The score is then
what the match chooses among the candidates of that answer, which is the score of the sole qualified
one. -/
theorem score_matches (hs : (system unicode lastInstant).Reachable s) {game : Game}
    {call : Cache.Call CriticKey} {outcome : Except CriticSourceError (Option CriticScore)}
    {score : CriticScore} (hreturned : (call, outcome) ∈ s.cache.returned)
    (hkey : scoreKey game = some call.key) (hscore : shownScore outcome = some score) :
    ∃ front candidate rest m,
      s.answers call.lookup.task = some (front ++ candidate :: rest) ∧
      candidate.Qualified unicode game.name call.key.year ∧
      releaseYearOf game.date = some call.key.year ∧ candidate.rating = some score ∧
      (∀ other ∈ front ++ rest, ¬ other.Qualified unicode game.name call.key.year) ∧
      s.cache.tasks call.lookup.task = some ⟨call.key, .completed outcome m⟩ ∧
      (m.clock + scoreTtl ≤ lastInstant → call.start.clock < m.clock + scoreTtl) := by
  have hinv := Inv.of_reachable hs
  obtain ⟨year, hyear, hgame⟩ := Option.map_eq_some_iff.mp hkey
  obtain ⟨⟨-, -, status, htask, hserves⟩, status', htask', houtcome⟩ :=
    (Cache.Valid.of_reachable hinv.cache).returned _ hreturned
  obtain rfl : status = status' := by
    rw [htask] at htask'
    exact (Cache.Task.mk.inj (Option.some.inj htask')).2
  cases outcome with
  | error error => cases hscore
  | ok shown =>
    obtain rfl : shown = some score := hscore
    cases status with
    | running => cases houtcome
    | panicked m => cases houtcome
    | completed outcome m =>
      obtain rfl : outcome = .ok (some score) := Option.some.inj houtcome
      rcases hinv.outcomes htask with ⟨candidates, hcandidates, hmatch⟩ | ⟨error, herror⟩
      · have htitle : call.key.title = game.name := by rw [← hgame]
        have hcallYear : call.key.year = year := by rw [← hgame]
        rw [htitle] at hmatch
        obtain ⟨front, candidate, rest, rfl, hqualified, hrating, hothers⟩ :=
          choosesSole_matchCriticScore (Except.ok.inj hmatch).symm
        exact ⟨front, candidate, rest, m, hcandidates, hqualified, hcallYear ▸ hyear, hrating,
          hothers, htask, lt_of_serves hserves⟩
      · cases herror

/-- A game of 2024. -/
def scoredGame : Game :=
  { conceptToGame sampleConcept sampleProduct.toGameId 0 with
    name := "Synthetic Quest - PS5 Edition", date := "2024-01-01T00:00:00.000Z" }

/-- A page of the game that gets its score after one second. -/
def sampleRun : List Event :=
  [.scoreFor scoredGame, .advance (10 ^ 9),
    .findGames 1 (.ok [⟨"Synthetic Quest", some 2023, CriticScore.new 84, 12⟩]), .deliver 0]

/-- The run can happen. -/
lemma isSome_run_sampleRun :
    ((system .ascii (10 ^ 18)).run (system .ascii (10 ^ 18)).init sampleRun).isSome = true := by
  decide +kernel

/-- The service after the run. -/
def sampleSys : Sys :=
  ((system .ascii (10 ^ 18)).run (system .ascii (10 ^ 18)).init sampleRun).get isSome_run_sampleRun

/-- The run ends in the sample. -/
lemma reachable_sampleSys : (system .ascii (10 ^ 18)).Reachable sampleSys :=
  ⟨sampleRun, (Option.some_get isSome_run_sampleRun).symm⟩

/-- The page shows the score of the candidate. -/
theorem score_matches_sample :
    ∃ call outcome, (call, outcome) ∈ sampleSys.cache.returned ∧
      scoreKey scoredGame = some call.key ∧ shownScore outcome = CriticScore.new 84 ∧
      ∃ candidates, sampleSys.answers call.lookup.task = some candidates ∧
        ∃ candidate ∈ candidates, candidate.Qualified .ascii scoredGame.name call.key.year := by
  have hreturned : sampleSys.cache.returned.map (fun received =>
      (received.1.key, shownScore received.2)) =
      [((scoreKey scoredGame).get (by decide +kernel), CriticScore.new 84)] := by
    decide +kernel
  obtain ⟨⟨call, outcome⟩, hlist, hpair⟩ := List.map_eq_singleton_iff.mp hreturned
  obtain ⟨hkey, hscore⟩ := Prod.mk.inj hpair
  have hmem : (call, outcome) ∈ sampleSys.cache.returned := by
    rw [hlist]
    exact List.mem_singleton_self _
  have hgame : scoreKey scoredGame = some call.key := by
    rw [hkey, Option.some_get]
  obtain ⟨front, candidate, rest, m, hanswer, hqualified, -⟩ :=
    @score_matches .ascii (10 ^ 18) sampleSys reachable_sampleSys scoredGame call outcome
      ⟨84, by decide⟩ hmem hgame hscore
  exact ⟨call, outcome, hmem, hgame, hscore, _, hanswer, candidate, by simp, hqualified⟩

/-! ## The time of a page -/

/-- **A lookup that has used up its budget** can end: the runtime can fire its timer and poll it,
and the lookup then fails as unavailable. -/
lemma run_fire_poll {id : ℕ} {key : CriticKey}
    (hrunning : s.cache.tasks id = some ⟨key, .running⟩)
    (hdue : s.started id + scoreBudget ≤ s.cache.now) :
    ∃ s', (system unicode lastInstant).run s [.fire id, .poll id] = some s' ∧
      s'.cache.now = s.cache.now ∧
      s'.cache.tasks id = some ⟨key, .completed (.error .unavailable) s.cache.moment⟩ := by
  have hfire : step unicode lastInstant s (.fire id) =
      some { s with fired := Function.update s.fired id true } := by
    simp only [step, hrunning, if_pos hdue]
  have hpoll : step unicode lastInstant { s with fired := Function.update s.fired id true }
      (.poll id) = some { s with
        cache := s.cache.finish (scoreConfig lastInstant) id key (.error .unavailable)
        fired := Function.update s.fired id true
        polled := Function.update s.polled id true } := by
    simp only [step, hrunning, Function.update_self, if_true, Cache.step, Option.map_some]
  refine ⟨_, (TransitionSystem.run_cons _).mpr ⟨_, hfire,
    (TransitionSystem.run_cons _).mpr ⟨_, hpoll, rfl⟩⟩, rfl, ?_⟩
  exact Function.update_self _ _ _

/-- **With a prompt runtime** a lookup runs no longer than its budget and the delay of the runtime:
one that still runs was not polled behind its timer, so the clock has not gone further.

**Proof sketch.** By induction on the run, beside the invariant. A new lookup starts at the time of
its page, and the end of a lookup leaves the others as they are. Only a step of the clock moves the
bound: it is prompt, and a running lookup was not polled behind its timer, so the clock stays within
the budget of the lookup and the delay. -/
lemma now_le_of_prompt {delay : ℕ} {es : List Event}
    (hprompt :
      (system unicode lastInstant).Meets (Prompt delay) (system unicode lastInstant).init es)
    (hrun : (system unicode lastInstant).run (system unicode lastInstant).init es = some s) :
    ∀ id key, s.cache.tasks id = some ⟨key, .running⟩ →
      s.cache.now ≤ s.started id + scoreBudget + delay := by
  suffices h : Inv unicode lastInstant s ∧ ∀ id key, s.cache.tasks id = some ⟨key, .running⟩ →
      s.cache.now ≤ s.started id + scoreBudget + delay from h.2
  apply hprompt.invariant _ _ hrun
  · intro s e s' he hs hstep
    obtain ⟨hinv, htime⟩ := hs
    refine ⟨hinv.step hstep, ?_⟩
    intro id key htask
    rcases step_cases hstep with rfl | ⟨game, key', -, -, rfl⟩ | ⟨id', key', answer, -, -, rfl⟩ |
      ⟨id', key', -, -, rfl⟩ | ⟨id', -, rfl⟩ | ⟨e', cache, -, hpasses, hclock, rfl⟩
    · exact htime id key htask
    · obtain ⟨hnow, htasks, -⟩ := hinv.getWith_spec key'
      show (s.cache.getWith (scoreConfig lastInstant) key').now ≤ _
      rw [hnow]
      rcases htasks id _ htask with hbefore | ⟨rfl, -⟩
      · have hid := (Cache.Valid.of_reachable hinv.cache).task_le_next hbefore
        dsimp only
        rw [Function.update_of_ne (by omega)]
        exact htime id key hbefore
      · dsimp only
        rw [Function.update_self]
        omega
    · exact htime id key (running_of_finish htask)
    · exact htime id key (running_of_finish htask)
    · exact htime id key htask
    · rcases hpasses.tasks id _ htask with hbefore | ⟨key', m, hpanicked, -⟩
      · rcases hclock with hsame | ⟨duration, rfl, hclock⟩
        · rw [hsame]
          exact htime id key hbefore
        · rw [hclock]
          exact he id key hbefore (hinv.polled hbefore)
      · cases hpanicked
  · refine ⟨Inv.of_reachable TransitionSystem.Reachable.init, ?_⟩
    intro id key htask
    cases htask

/-- **Scores come in time.** In every run of the service:

* a lookup that still runs at the end of its budget can end there: once the runtime fires its timer
  and polls it, it fails as unavailable;
* where the runtime is late by a delay at most, a lookup runs no longer than the budget and this
  delay, and a page that has waited so long has its outcome ready;
* a page that gets a failure asked less than 60 seconds after the failed lookup, or while the lookup
  that panicked was running.

**Proof sketch.** A poll behind the timer ends the lookup, so a lookup that runs was not polled
behind its timer (`Inv.polled`); a prompt runtime then has not let the clock go further
(`now_le_of_prompt`). A page waits for a lookup that started no later than it asked (`Inv.calls`).
What a page gets is the outcome of its lookup, unless that was over when the page asked
(`Cache.Valid.returned`). -/
theorem score_in_budget {es : List Event}
    (hrun : (system unicode lastInstant).run (system unicode lastInstant).init es = some s) :
    (∀ id key, s.cache.tasks id = some ⟨key, .running⟩ → s.started id ≤ s.cache.now ∧
      (s.started id + scoreBudget ≤ s.cache.now →
        ∃ s', (system unicode lastInstant).run s [.fire id, .poll id] = some s' ∧
          s'.cache.now = s.cache.now ∧
          s'.cache.tasks id = some ⟨key, .completed (.error .unavailable) s.cache.moment⟩)) ∧
    (∀ delay,
      (system unicode lastInstant).Meets (Prompt delay) (system unicode lastInstant).init es →
      (∀ id key, s.cache.tasks id = some ⟨key, .running⟩ →
        s.cache.now ≤ s.started id + scoreBudget + delay) ∧
      ∀ call ∈ s.cache.waiting, call.start.clock + scoreBudget + delay < s.cache.now →
        ∃ task outcome, s.cache.tasks call.lookup.task = some task ∧
          task.status.outcome (scoreConfig lastInstant).lookupPanicked = some outcome) ∧
    ∀ call error, (call, .error error) ∈ s.cache.returned → ∃ m,
      s.cache.tasks call.lookup.task = some ⟨call.key, .completed (.error error) m⟩ ∧
        (m.clock + scoreFailureTtl ≤ lastInstant →
          call.start.clock < m.clock + scoreFailureTtl) ∨
      s.cache.tasks call.lookup.task = some ⟨call.key, .panicked m⟩ ∧
        call.start.step < m.step := by
  have hinv : Inv unicode lastInstant s := Inv.of_reachable ⟨es, hrun⟩
  have hvalid := Cache.Valid.of_reachable hinv.cache
  refine ⟨?_, ?_, ?_⟩
  · intro id key hrunning
    exact ⟨hinv.started hrunning, run_fire_poll hrunning⟩
  · intro delay hprompt
    have htime := now_le_of_prompt hprompt hrun
    refine ⟨htime, ?_⟩
    intro call hcall hlate
    obtain ⟨-, -, status, htask, -⟩ := hvalid.waiting call hcall
    have hstart := hinv.calls call hcall
    cases status with
    | running =>
      have hbound := htime _ _ htask
      omega
    | completed outcome m => exact ⟨_, outcome, htask, rfl⟩
    | panicked m => exact ⟨_, _, htask, rfl⟩
  · intro call error hreturned
    obtain ⟨⟨-, -, status, htask, hserves⟩, status', htask', houtcome⟩ :=
      hvalid.returned _ hreturned
    obtain rfl : status = status' := by
      rw [htask] at htask'
      exact (Cache.Task.mk.inj (Option.some.inj htask')).2
    cases status with
    | running => cases houtcome
    | completed outcome m =>
      obtain rfl : outcome = .error error := Option.some.inj houtcome
      exact ⟨m, Or.inl ⟨htask, lt_of_serves hserves⟩⟩
    | panicked m => exact ⟨m, Or.inr ⟨htask, hserves⟩⟩

/-- A page of the game, and a timer that fires late. -/
def waitingRun : List Event := [.scoreFor scoredGame, .advance (scoreBudget + 5), .fire 1]

/-- The run can happen. -/
lemma isSome_run_waitingRun :
    ((system .ascii (10 ^ 18)).run (system .ascii (10 ^ 18)).init waitingRun).isSome = true := by
  decide +kernel

/-- The service after the run. -/
def waitingSys : Sys :=
  ((system .ascii (10 ^ 18)).run (system .ascii (10 ^ 18)).init waitingRun).get
    isSome_run_waitingRun

/-- The lookup still runs, and the runtime can end it there. -/
theorem score_in_budget_sample :
    ∃ key s', waitingSys.cache.tasks 1 = some ⟨key, .running⟩ ∧
      (system .ascii (10 ^ 18)).run waitingSys [.fire 1, .poll 1] = some s' ∧
      s'.cache.tasks 1 =
        some ⟨key, .completed (.error .unavailable) waitingSys.cache.moment⟩ := by
  have hrun : (system .ascii (10 ^ 18)).run (system .ascii (10 ^ 18)).init waitingRun =
      some waitingSys := (Option.some_get isSome_run_waitingRun).symm
  have hended : waitingSys.started 1 + scoreBudget ≤ waitingSys.cache.now := by
    decide +kernel
  have hwaits : (waitingSys.cache.tasks 1).any (fun task =>
      (task.status.outcome CriticSourceError.unavailable).isNone) = true := by
    decide +kernel
  obtain ⟨⟨key, status⟩, htask, hnone⟩ := (Option.any_eq_true _ _).mp hwaits
  cases status with
  | running =>
    obtain ⟨-, htimer⟩ := (score_in_budget hrun).1 1 key htask
    obtain ⟨s', hend, -, htask'⟩ := htimer hended
    exact ⟨key, s', htask, hend, htask'⟩
  | completed outcome m => cases hnone
  | panicked m => cases hnone

end CriticScores

end PsStore
