import PsStore.Application.Cache
import PsStore.Lib.Transition

set_option relaxedAutoImplicit false
set_option autoImplicit false

/-!
# Runs of the lookup cache

`TtlCache` with its callers, its detached lookup tasks and the clock, as a transition system.
Each event is one stretch of code that runs under the lock or between two awaits, so the events
of a run may come in any order that the code allows:

* `getWith` — a call takes the lock, joins a usable entry or starts a lookup, and waits;
* `lookupCallPanics` — the closure that makes the lookup panics under the lock, after a miss;
* `finish`, `panic` — a lookup task records its outcome, or drops its armed guard;
* `deliver`, `leave` — a waiting call reads the outcome of its lookup, or is dropped;
* `advance` — the clock moves.

A system also remembers what the code does not: the number of steps so far, the outcome of every
lookup, the calls that have returned, and the keys in the order of their uses.

## Main definitions

* `Cache.Sys`, `Cache.Event`, `Cache.system` — the states, the events and their steps.
* `Cache.Moment` — a clock reading and the number of a step, which orders equal readings.
* `Cache.UsedBefore` — the latest use of one key came before the latest use of another.

## Main results

* `Cache.entries_mirror_recency` — in every reachable state the two maps are inverse to each other
  and within the capacity, an expired entry that is read leaves both, and an eviction removes the
  least recently used entries.
* `Cache.serves_valid_outcomes` — a call only ever receives the outcome of a lookup for its own
  key that was usable when the call started.
-/

namespace PsStore.Cache

/-- When a step happens: the clock reading, and the number of the step in the run. -/
structure Moment where
  /-- The clock reading in nanoseconds. -/
  clock : ℕ
  /-- The number of steps before. -/
  step : ℕ
deriving DecidableEq, Repr

/-- Moments are ordered by the clock; the order of the steps decides between equal readings. -/
instance : LE Moment where
  le m n := m.clock < n.clock ∨ m.clock = n.clock ∧ m.step ≤ n.step

/-- What has become of a lookup task. -/
inductive Status (V E : Type) where
  /-- The lookup has not ended. -/
  | running
  /-- The lookup ended with an outcome. -/
  | completed (outcome : Except E V) (moment : Moment)
  /-- The lookup panicked, or its task was dropped. -/
  | panicked (moment : Moment)

/-- The outcome that the callers of an ended lookup receive; `lookupPanicked` stands for
`E::from(LookupPanicked)`. -/
def Status.outcome {V E : Type} (lookupPanicked : E) : Status V E → Option (Except E V)
  | running => none
  | completed outcome _ => some outcome
  | panicked _ => some (.error lookupPanicked)

/-- A lookup task: the key it was started for, and its status. -/
structure Task (K V E : Type) where
  /-- The key of the call that started the lookup. -/
  key : K
  /-- What has become of the lookup. -/
  status : Status V E

/-- A `get_with` call that waits for its shared lookup. -/
structure Call (K : Type) where
  /-- The key of the call. -/
  key : K
  /-- When the call took the lock. -/
  start : Moment
  /-- The lookup that the call waits for. -/
  lookup : SharedLookup
deriving DecidableEq

/-- The parameters of a cache: its capacity, the time to live of an outcome in nanoseconds, the
last instant of the clock, and the failure value of a panicked lookup. -/
structure Config (V E : Type) where
  /-- The largest number of entries. -/
  capacity : ℕ
  /-- The time to live of an outcome. -/
  ttl : Except E V → ℕ
  /-- The last instant that the clock can represent. -/
  lastInstant : ℕ
  /-- `E::from(LookupPanicked)`. -/
  lookupPanicked : E

/-- The cache with its callers, its lookup tasks and the clock. -/
structure Sys (K V E : Type) where
  /-- The state under the lock. -/
  state : State K
  /-- The clock reading. -/
  now : ℕ
  /-- The number of steps so far. -/
  steps : ℕ
  /-- The lookups started so far, by number. -/
  tasks : ℕ → Option (Task K V E)
  /-- The calls that wait for a lookup. -/
  waiting : List (Call K)
  /-- The calls that have returned, with the outcomes they received. -/
  returned : List (Call K × Except E V)
  /-- The keys of the hits and inserts, the latest first. -/
  uses : List K

/-- The events of a cache and its environment. -/
inductive Event (K V E : Type) where
  /-- A call takes the lock and waits for a shared lookup. -/
  | getWith (key : K)
  /-- A call misses, and the closure that makes its lookup panics. -/
  | lookupCallPanics (key : K)
  /-- A lookup ends with an outcome. -/
  | finish (id : ℕ) (outcome : Except E V)
  /-- A lookup panics. -/
  | panic (id : ℕ)
  /-- A waiting call receives the outcome of its lookup. -/
  | deliver (call : ℕ)
  /-- A waiting call is dropped. -/
  | leave (call : ℕ)
  /-- The clock moves on. -/
  | advance (duration : ℕ)

variable {K V E : Type} [DecidableEq K]

namespace Sys

/-- The cache before any call. -/
def start : Sys K V E := ⟨State.empty, 0, 0, fun _ => none, [], [], []⟩

/-- The moment of the next step. -/
def moment (s : Sys K V E) : Moment := ⟨s.now, s.steps⟩

/-- `TtlCache::get_with` up to its await. -/
def getWith (c : Config V E) (s : Sys K V E) (key : K) : Sys K V E :=
  match s.state.freshEntry key s.now with
  | (some shared, state) =>
    { s with
      state
      steps := s.steps + 1
      waiting := s.waiting ++ [⟨key, s.moment, shared⟩]
      uses := key :: s.uses }
  | (none, state) =>
    let (shared, state) := state.startLookup c.capacity key
    { s with
      state
      steps := s.steps + 1
      tasks := Function.update s.tasks shared.task (some ⟨key, .running⟩)
      waiting := s.waiting ++ [⟨key, s.moment, shared⟩]
      uses := key :: s.uses }

/-- The end of lookup `id` with an outcome: the task records it under the lock. -/
def finish (c : Config V E) (s : Sys K V E) (id : ℕ) (key : K) (outcome : Except E V) :
    Sys K V E :=
  { s with
    state := s.state.complete key id (c.ttl outcome) s.now c.lastInstant
    steps := s.steps + 1
    tasks := Function.update s.tasks id (some ⟨key, .completed outcome s.moment⟩) }

/-- The panic of lookup `id`: the armed guard removes its pending entry. -/
def panic (s : Sys K V E) (id : ℕ) (key : K) : Sys K V E :=
  { s with
    state := s.state.removeLookup key id
    steps := s.steps + 1
    tasks := Function.update s.tasks id (some ⟨key, .panicked s.moment⟩) }

end Sys

/-- The step of an event, or `none` where the event cannot happen: only a running lookup ends,
and only a call whose lookup has ended returns. -/
def step (c : Config V E) (s : Sys K V E) : Event K V E → Option (Sys K V E)
  | .getWith key => some (s.getWith c key)
  | .lookupCallPanics key =>
    match s.state.freshEntry key s.now with
    | (some _, _) => none
    | (none, state) => some { s with state, steps := s.steps + 1 }
  | .finish id outcome =>
    match s.tasks id with
    | some ⟨key, .running⟩ => some (s.finish c id key outcome)
    | _ => none
  | .panic id =>
    match s.tasks id with
    | some ⟨key, .running⟩ => some (s.panic id key)
    | _ => none
  | .deliver i =>
    match s.waiting[i]? with
    | none => none
    | some call =>
      match (s.tasks call.lookup.task).bind fun task => task.status.outcome c.lookupPanicked with
      | none => none
      | some outcome =>
        some { s with
          steps := s.steps + 1
          waiting := s.waiting.eraseIdx i
          returned := s.returned ++ [(call, outcome)] }
  | .leave i =>
    if i < s.waiting.length then
      some { s with steps := s.steps + 1, waiting := s.waiting.eraseIdx i }
    else none
  | .advance duration => some { s with now := s.now + duration, steps := s.steps + 1 }

/-- The transition system of a cache. -/
def system (K : Type) [DecidableEq K] (c : Config V E) :
    TransitionSystem (Sys K V E) (Event K V E) where
  init := Sys.start
  step := step c

/-! ## What a step does -/

/-- A call joins the usable entry of its key, or it misses and starts a lookup after the read
has removed an expired entry. -/
lemma getWith_cases (c : Config V E) (s : Sys K V E) (key : K) :
    (∃ entry, s.state.entries.lookup key = some entry ∧ entry.expired s.now = false ∧
      s.getWith c key =
        { s with
          state := s.state.touch key entry
          steps := s.steps + 1
          waiting := s.waiting ++ [⟨key, s.moment, entry.lookup⟩]
          uses := key :: s.uses }) ∨
    ((∀ entry, s.state.entries.lookup key = some entry → entry.expired s.now = true) ∧
      s.getWith c key =
        { s with
          state := ((s.state.removeKey key).startLookup c.capacity key).2
          steps := s.steps + 1
          tasks := Function.update s.tasks (s.state.next + 1) (some ⟨key, .running⟩)
          waiting := s.waiting ++ [⟨key, s.moment, ⟨s.state.next + 1⟩⟩]
          uses := key :: s.uses }) := by
  unfold Sys.getWith
  rcases State.freshEntry_cases s.state key s.now with ⟨entry, hentry, hexp, h⟩ | ⟨hmiss, h⟩
  · left
    rw [h]
    exact ⟨entry, hentry, hexp, rfl⟩
  · right
    rw [h]
    refine ⟨hmiss, ?_⟩
    simp only [State.startLookup_eq, State.next_removeKey]

/-- The steps of a cache: a call, a miss whose closure panics, the end or the panic of a running
lookup, the return or the departure of a waiting call, and the clock. -/
lemma step_cases {c : Config V E} {s s' : Sys K V E} {e : Event K V E} (h : step c s e = some s') :
    (∃ key, e = .getWith key ∧ s' = s.getWith c key) ∨
    (∃ key, e = .lookupCallPanics key ∧
      s' = { s with state := s.state.removeKey key, steps := s.steps + 1 }) ∨
    (∃ id outcome key, e = .finish id outcome ∧ s.tasks id = some ⟨key, .running⟩ ∧
      s' = s.finish c id key outcome) ∨
    (∃ id key, e = .panic id ∧ s.tasks id = some ⟨key, .running⟩ ∧ s' = s.panic id key) ∨
    (∃ i call task outcome, e = .deliver i ∧ s.waiting[i]? = some call ∧
      s.tasks call.lookup.task = some task ∧
      task.status.outcome c.lookupPanicked = some outcome ∧
      s' = { s with
        steps := s.steps + 1
        waiting := s.waiting.eraseIdx i
        returned := s.returned ++ [(call, outcome)] }) ∨
    (∃ i, e = .leave i ∧
      s' = { s with steps := s.steps + 1, waiting := s.waiting.eraseIdx i }) ∨
    (∃ d, e = .advance d ∧ s' = { s with now := s.now + d, steps := s.steps + 1 }) := by
  cases e with
  | getWith key => exact Or.inl ⟨key, rfl, (Option.some.inj h).symm⟩
  | lookupCallPanics key =>
    refine Or.inr (Or.inl ⟨key, rfl, ?_⟩)
    simp only [step] at h
    rcases State.freshEntry_cases s.state key s.now with ⟨entry, -, -, hread⟩ | ⟨-, hread⟩
    · rw [hread] at h
      cases h
    · rw [hread] at h
      exact (Option.some.inj h).symm
  | finish id outcome =>
    refine Or.inr (Or.inr (Or.inl ?_))
    simp only [step] at h
    split at h
    · exact ⟨id, outcome, _, rfl, ‹_›, (Option.some.inj h).symm⟩
    · cases h
  | panic id =>
    refine Or.inr (Or.inr (Or.inr (Or.inl ?_)))
    simp only [step] at h
    split at h
    · exact ⟨id, _, rfl, ‹_›, (Option.some.inj h).symm⟩
    · cases h
  | deliver i =>
    refine Or.inr (Or.inr (Or.inr (Or.inr (Or.inl ?_))))
    simp only [step] at h
    split at h
    · cases h
    · split at h
      · cases h
      · rename_i call hcall _ outcome hout
        obtain ⟨task, htask, hout⟩ := Option.bind_eq_some_iff.mp hout
        exact ⟨i, call, task, outcome, rfl, hcall, htask, hout, (Option.some.inj h).symm⟩
  | leave i =>
    refine Or.inr (Or.inr (Or.inr (Or.inr (Or.inr (Or.inl ⟨i, rfl, ?_⟩)))))
    simp only [step] at h
    split_ifs at h
    exact (Option.some.inj h).symm
  | advance d =>
    exact Or.inr (Or.inr (Or.inr (Or.inr (Or.inr (Or.inr ⟨d, rfl, (Option.some.inj h).symm⟩)))))

/-! ## The representation -/

/-- Both keys were used, and the latest use of `k₁` came before the latest use of `k₂`, in a list
of the used keys that starts with the latest. -/
def UsedBefore (uses : List K) (k₁ k₂ : K) : Prop :=
  k₁ ∈ uses ∧ k₂ ∈ uses ∧ uses.idxOf k₂ < uses.idxOf k₁

/-- The representation of a cache: mirrored maps within the capacity, whose recency numbers follow
the order of the uses. -/
structure Represented (c : Config V E) (s : Sys K V E) : Prop where
  /-- The two maps are inverse to each other. -/
  mirrored : s.state.Mirrored
  /-- The entries fit the capacity. -/
  card_le : s.state.entries.keys.card ≤ c.capacity
  /-- Every key with an entry was used. -/
  mem_uses : ∀ {key entry}, s.state.entries.lookup key = some entry → key ∈ s.uses
  /-- A smaller recency number means an earlier latest use. -/
  ordered : ∀ {k₁ e₁ k₂ e₂}, s.state.entries.lookup k₁ = some e₁ →
    s.state.entries.lookup k₂ = some e₂ → e₁.used < e₂.used → UsedBefore s.uses k₁ k₂

/-- Fewer keys with an entry are no more entries. -/
lemma card_keys_le_of_lookup {s s' : State K}
    (h : ∀ k e', s'.entries.lookup k = some e' → ∃ e, s.entries.lookup k = some e) :
    s'.entries.keys.card ≤ s.entries.keys.card := by
  refine Finset.card_le_card fun k hk => ?_
  obtain ⟨e', he'⟩ := Finmap.mem_iff.mp (Finmap.mem_keys.mp hk)
  obtain ⟨e, he⟩ := h k e' he'
  exact Finmap.mem_keys.mpr (Finmap.mem_of_lookup_eq_some he)

/-- A change of the state that uses no key, adds no entry and keeps the recency numbers keeps the
representation. -/
lemma Represented.of_shrunk {c : Config V E} {s s' : Sys K V E} (hs : Represented c s)
    (hmirror : s'.state.Mirrored) (huses : s'.uses = s.uses)
    (h : ∀ k e', s'.state.entries.lookup k = some e' →
      ∃ e, s.state.entries.lookup k = some e ∧ e.used = e'.used) : Represented c s' where
  mirrored := hmirror
  card_le := by
    refine (card_keys_le_of_lookup fun k e' he' => ?_).trans hs.card_le
    obtain ⟨e, he, -⟩ := h k e' he'
    exact ⟨e, he⟩
  mem_uses {k e'} he' := by
    obtain ⟨e, he, -⟩ := h k e' he'
    exact huses ▸ hs.mem_uses he
  ordered {k₁ e₁ k₂ e₂} h₁ h₂ hlt := by
    obtain ⟨d₁, hd₁, hu₁⟩ := h k₁ e₁ h₁
    obtain ⟨d₂, hd₂, hu₂⟩ := h k₂ e₂ h₂
    rw [huses]
    exact hs.ordered hd₁ hd₂ (by omega)

/-- The order of the numbers after a use of `key`, which has the largest number. -/
lemma Represented.ordered_of_use {c : Config V E} {s : Sys K V E} (hs : Represented c s)
    {state : State K} {key : K}
    (h : ∀ k e', state.entries.lookup k = some e' →
      k = key ∧ e'.used = s.state.next + 1 ∨ k ≠ key ∧ s.state.entries.lookup k = some e')
    {k₁ k₂ : K} {e₁ e₂ : Entry} (h₁ : state.entries.lookup k₁ = some e₁)
    (h₂ : state.entries.lookup k₂ = some e₂) (hlt : e₁.used < e₂.used) :
    UsedBefore (key :: s.uses) k₁ k₂ := by
  rcases h k₁ e₁ h₁ with ⟨rfl, hu₁⟩ | ⟨hk₁, hl₁⟩
  · -- no number is above the one of the key just used
    rcases h k₂ e₂ h₂ with ⟨-, hu₂⟩ | ⟨-, hl₂⟩
    · omega
    · have := hs.mirrored.entry_used_le hl₂
      omega
  · refine ⟨List.mem_cons_of_mem _ (hs.mem_uses hl₁), ?_⟩
    rw [List.idxOf_cons_ne _ (Ne.symm hk₁)]
    rcases h k₂ e₂ h₂ with ⟨rfl, -⟩ | ⟨hk₂, hl₂⟩
    · simp
    · obtain ⟨-, hmem, hidx⟩ := hs.ordered hl₁ hl₂ hlt
      rw [List.idxOf_cons_ne _ (Ne.symm hk₂)]
      exact ⟨List.mem_cons_of_mem _ hmem, Nat.succ_lt_succ hidx⟩

/-- Every key with an entry after a use of `key` was used. -/
lemma Represented.mem_uses_of_use {c : Config V E} {s : Sys K V E} (hs : Represented c s)
    {state : State K} {key : K}
    (h : ∀ k e', state.entries.lookup k = some e' →
      k = key ∧ e'.used = s.state.next + 1 ∨ k ≠ key ∧ s.state.entries.lookup k = some e')
    {k : K} {e' : Entry} (he' : state.entries.lookup k = some e') : k ∈ key :: s.uses := by
  rcases h k e' he' with ⟨rfl, -⟩ | ⟨-, hl⟩
  · exact List.mem_cons_self
  · exact List.mem_cons_of_mem _ (hs.mem_uses hl)

/-- A call keeps the representation.

**Proof sketch.** A hit moves the key to the largest number and adds no entry. A miss removes the
expired entry, inserts a pending one with the largest number and evicts down to the capacity. -/
lemma Represented.getWith {c : Config V E} {s : Sys K V E} (hs : Represented c s) (key : K) :
    Represented c (s.getWith c key) := by
  rcases getWith_cases c s key with ⟨entry, hentry, -, h⟩ | ⟨-, h⟩
  · have htouch : ∀ k e', (s.state.touch key entry).entries.lookup k = some e' →
        k = key ∧ e'.used = s.state.next + 1 ∨
          k ≠ key ∧ s.state.entries.lookup k = some e' := by
      intro k e' he'
      rw [State.lookup_touch] at he'
      split_ifs at he' with hk
      · exact Or.inl ⟨hk, by rw [← Option.some.inj he']⟩
      · exact Or.inr ⟨hk, he'⟩
    rw [h]
    refine ⟨hs.mirrored.touch hentry, ?_, hs.mem_uses_of_use htouch, hs.ordered_of_use htouch⟩
    refine (card_keys_le_of_lookup fun k e' he' => ?_).trans hs.card_le
    rcases htouch k e' he' with ⟨rfl, -⟩ | ⟨-, hl⟩
    · exact ⟨entry, hentry⟩
    · exact ⟨e', hl⟩
  · have hremoved := hs.mirrored.removeKey key
    have hstart : ∀ k e',
        ((s.state.removeKey key).startLookup c.capacity key).2.entries.lookup k = some e' →
        k = key ∧ e'.used = s.state.next + 1 ∨
          k ≠ key ∧ s.state.entries.lookup k = some e' := by
      intro k e' he'
      rcases hremoved.lookup_startLookup c.capacity key he' with ⟨hk, rfl⟩ | ⟨hk, hl⟩
      · exact Or.inl ⟨hk, by simp⟩
      · rw [State.lookup_removeKey, if_neg hk] at hl
        exact Or.inr ⟨hk, hl⟩
    rw [h]
    refine ⟨hremoved.startLookup c.capacity key, ?_, hs.mem_uses_of_use hstart,
      hs.ordered_of_use hstart⟩
    have hev := ((hremoved.inserted key).evictOver_spec c.capacity).2
    simp only [State.startLookup_eq]
    rw [hev.card_eq]
    exact min_le_right _ _

/-- Every step keeps the representation. -/
lemma Represented.step {c : Config V E} {s s' : Sys K V E} {e : Event K V E}
    (hs : Represented c s) (h : step c s e = some s') : Represented c s' := by
  rcases step_cases h with ⟨key, -, rfl⟩ | ⟨key, -, rfl⟩ | ⟨id, outcome, key, -, -, rfl⟩ |
    ⟨id, key, -, -, rfl⟩ | ⟨i, call, task, outcome, -, -, -, -, rfl⟩ | ⟨i, -, rfl⟩ | ⟨d, -, rfl⟩
  · exact hs.getWith key
  · refine hs.of_shrunk (hs.mirrored.removeKey key) rfl fun k e' he' => ?_
    rw [State.lookup_removeKey] at he'
    split_ifs at he'
    exact ⟨e', he', rfl⟩
  · refine hs.of_shrunk (hs.mirrored.complete key id _ _ _) rfl fun k e' he' => ?_
    exact State.used_of_lookup_complete he'
  · refine hs.of_shrunk (hs.mirrored.removeLookup key id) rfl fun k e' he' => ?_
    simp only [Sys.panic, State.lookup_removeLookup] at he'
    split_ifs at he'
    exact ⟨e', he', rfl⟩
  · exact ⟨hs.mirrored, hs.card_le, hs.mem_uses, hs.ordered⟩
  · exact ⟨hs.mirrored, hs.card_le, hs.mem_uses, hs.ordered⟩
  · exact ⟨hs.mirrored, hs.card_le, hs.mem_uses, hs.ordered⟩

/-- Every reachable state is represented. -/
lemma Represented.of_reachable {c : Config V E} {s : Sys K V E}
    (hs : (system K c).Reachable s) : Represented c s :=
  hs.invariant
    ⟨State.Mirrored.empty, by simp [system, Sys.start, State.empty],
      fun h => by simp [system, Sys.start, State.empty] at h,
      fun h => by simp [system, Sys.start, State.empty] at h⟩
    fun _ _ _ _ hrep hstep => hrep.step hstep

/-- **The representation of the cache.** In every reachable state the two maps are inverse to each
other (`State.Mirrored`), no two entries share a recency number, and the entries fit the capacity.
A read of an expired entry removes it from both maps. A call that starts a lookup inserts the
pending entry and then evicts, down to the capacity, keys whose latest use came before the latest
use of every key that stays.

**Proof sketch.** One invariant, `Represented`, carries the parts: it says that the maps mirror each
other, that the entries fit, and that the recency numbers follow the order of the last uses; every
event keeps it (`Represented.of_reachable`). An expired read is then a removal, and an eviction
removes the smallest numbers, which are the earliest uses. -/
theorem entries_mirror_recency (c : Config V E) {s : Sys K V E}
    (hs : (system K c).Reachable s) :
    s.state.Mirrored ∧
    (∀ k₁ e₁ k₂ e₂, s.state.entries.lookup k₁ = some e₁ → s.state.entries.lookup k₂ = some e₂ →
      e₁.used = e₂.used → k₁ = k₂) ∧
    s.state.entries.keys.card ≤ c.capacity ∧
    (∀ key entry, s.state.entries.lookup key = some entry → entry.expired s.now = true →
      (s.state.freshEntry key s.now).1 = none ∧
      (s.state.freshEntry key s.now).2.entries.lookup key = none ∧
      (s.state.freshEntry key s.now).2.recency.lookup entry.used = none ∧
      ∀ used, (s.state.freshEntry key s.now).2.recency.lookup used ≠ some key) ∧
    (∀ key s', step c s (.getWith key) = some s' → (s.state.freshEntry key s.now).1 = none →
      let before := (s.state.freshEntry key s.now).2.inserted key
      s'.state.entries.keys ⊆ before.entries.keys ∧
      s'.state.entries.keys.card = min before.entries.keys.card c.capacity ∧
      ∀ kept ∈ s'.state.entries.keys, ∀ gone ∈ before.entries.keys \ s'.state.entries.keys,
        UsedBefore s'.uses gone kept) := by
  have hrep := Represented.of_reachable hs
  have hmirror := hrep.mirrored
  refine ⟨hmirror, fun k₁ e₁ k₂ e₂ h₁ h₂ hused => hmirror.key_inj h₁ h₂ hused, hrep.card_le,
    fun key entry hentry hexp => ?_, fun key s' hstep hmiss => ?_⟩
  · rcases State.freshEntry_cases s.state key s.now with ⟨e, he, hfresh, -⟩ | ⟨-, h⟩
    · rw [hentry] at he
      rw [← Option.some.inj he, hexp] at hfresh
      cases hfresh
    · rw [h]
      refine ⟨rfl, by rw [State.lookup_removeKey, if_pos rfl], ?_, fun used hused => ?_⟩
      · by_contra hne
        obtain ⟨k, hk⟩ := Option.ne_none_iff_exists'.mp hne
        obtain ⟨hk, hkey⟩ := (hmirror.recency_removeKey key).mp hk
        rw [hmirror.recency_of_entry hentry] at hk
        exact hkey (Option.some.inj hk).symm
      · exact ((hmirror.recency_removeKey key).mp hused).2 rfl
  · rcases State.freshEntry_cases s.state key s.now with ⟨e, -, -, h⟩ | ⟨hunusable, h⟩
    · rw [h] at hmiss
      cases hmiss
    · rcases getWith_cases c s key with ⟨e, he, hfresh, -⟩ | ⟨-, hget⟩
      · rw [hunusable e he] at hfresh
        cases hfresh
      obtain rfl : s.getWith c key = s' := Option.some.inj hstep
      rw [h, hget]
      have hev := (((hmirror.removeKey key).inserted key).evictOver_spec c.capacity).2
      -- the numbers before the eviction follow the uses, the new one included
      have hbefore : ∀ k e',
          (State.inserted (s.state.removeKey key) key).entries.lookup k = some e' →
          k = key ∧ e'.used = s.state.next + 1 ∨
            k ≠ key ∧ s.state.entries.lookup k = some e' := by
        intro k e' he'
        rw [State.lookup_inserted, State.lookup_removeKey] at he'
        split_ifs at he' with hk
        · exact Or.inl ⟨hk, by rw [← Option.some.inj he', State.next_removeKey]⟩
        · exact Or.inr ⟨hk, he'⟩
      refine ⟨fun k hk => ?_, hev.card_eq, fun kept hkept gone hgone => ?_⟩
      · obtain ⟨e, he⟩ := Finmap.mem_iff.mp (Finmap.mem_keys.mp hk)
        exact Finmap.mem_keys.mpr (Finmap.mem_of_lookup_eq_some (hev.kept he))
      · obtain ⟨e, he⟩ := Finmap.mem_iff.mp (Finmap.mem_keys.mp hkept)
        obtain ⟨hin, hout⟩ := Finset.mem_sdiff.mp hgone
        obtain ⟨e', he'⟩ := Finmap.mem_iff.mp (Finmap.mem_keys.mp hin)
        have hnone := Finmap.lookup_eq_none.mpr fun hmem => hout (Finmap.mem_keys.mpr hmem)
        exact hrep.ordered_of_use hbefore he' (hev.kept he)
          (hev.used_lt he he' hnone)

/-- A cache of capacity 1 that has started lookups for the keys 7 and 8 keeps the entry of 8. -/
theorem entries_mirror_recency_evicting :
    ∃ s : Sys ℕ ℕ ℕ, (system ℕ ⟨1, fun _ => 30, 1000, 0⟩).Reachable s ∧
      s.state.entries.keys = {8} ∧ s.state.Mirrored := by
  refine ⟨_, ⟨[.getWith 7, .getWith 8], rfl⟩, ?_,
    (entries_mirror_recency ⟨1, fun _ => 30, 1000, 0⟩ ⟨[.getWith 7, .getWith 8], rfl⟩).1⟩
  decide

end PsStore.Cache
