import PsStore.Application.CacheOutcomes

set_option relaxedAutoImplicit false
set_option autoImplicit false

/-!
# When a cache keeps a lookup

A cache evicts over its capacity, so a lookup that is pending or not expired can lose its entry to
another key. Where the calls only ask for one key, it cannot: its entry stays, and the next call
joins it.

## Main definitions

* `Cache.Status.Usable` — the lookup is pending, or its outcome has not expired.
* `Cache.Retained` — every usable lookup of a key has the entry of the key.
* `Cache.Sys.callOf` — the call that waits after `get_with`.

## Main results

* `Cache.Retained.getWith`, `Cache.Retained.finish`, `Cache.Retained.panic` — a call for the key and
  the end of a lookup keep it retained.
* `Cache.Retained.getWith_joins`, `Cache.Retained.getWith_usable` — a call for the key joins a
  usable lookup.
-/

namespace PsStore.Cache

variable {K V E : Type}

/-- The lookup is pending, or its outcome has not expired at `now`. -/
def Status.Usable (c : Config V E) (now : ℕ) : Status V E → Prop
  | running => True
  | completed outcome m => c.ttl outcome ≠ 0 ∧ ∀ deadline,
      checkedAdd c.lastInstant m.clock (c.ttl outcome) = some deadline → now < deadline
  | panicked _ => False

/-- What is usable was usable before. -/
lemma Status.Usable.mono {c : Config V E} {now now' : ℕ} (hnow : now ≤ now')
    {status : Status V E} (h : status.Usable c now') : status.Usable c now := by
  cases status with
  | running => exact trivial
  | completed outcome m =>
    refine ⟨h.1, ?_⟩
    intro deadline hdeadline
    exact hnow.trans_lt (h.2 deadline hdeadline)
  | panicked m => exact h.elim

variable [DecidableEq K]

/-- Every usable lookup of the key has its entry. -/
def Retained (c : Config V E) (key : K) (s : Sys K V E) : Prop :=
  ∀ id status, s.tasks id = some ⟨key, status⟩ → status.Usable c s.now →
    ∃ entry, s.state.entries.lookup key = some entry ∧ entry.id = id

/-- A usable lookup has an entry that has not expired. -/
lemma Retained.fresh {c : Config V E} {key : K} {s : Sys K V E} (h : Retained c key s)
    (hvalid : Valid c s) {id : ℕ} {status : Status V E}
    (htask : s.tasks id = some ⟨key, status⟩) (husable : status.Usable c s.now) :
    ∃ entry, s.state.entries.lookup key = some entry ∧ entry.lookup.task = id ∧
      entry.expired s.now = false := by
  obtain ⟨entry, hentry, hid⟩ := h id status htask husable
  obtain ⟨hlookup, status', htask', hkeeps⟩ := hvalid.entries hentry
  refine ⟨entry, hentry, hlookup.trans hid, ?_⟩
  rw [hid, htask] at htask'
  obtain rfl := (Task.mk.inj (Option.some.inj htask')).2
  by_contra hexpired
  obtain ⟨expiry, hexpiry, hle⟩ := (Entry.expired_iff _ _).mp (by simpa using hexpired)
  cases status with
  | running =>
    have hnone : entry.expiresAt = none := hkeeps
    rw [hexpiry] at hnone
    cases hnone
  | completed outcome m =>
    have hlt := husable.2 expiry (hkeeps.2.symm.trans hexpiry)
    omega
  | panicked m => exact husable.elim

/-- **A call joins a usable lookup of its key**, and starts no other one. -/
theorem Retained.getWith_joins {c : Config V E} {key : K} {s : Sys K V E}
    (h : Retained c key s) (hvalid : Valid c s) {id : ℕ} {status : Status V E}
    (htask : s.tasks id = some ⟨key, status⟩) (husable : status.Usable c s.now) :
    (s.getWith c key).tasks = s.tasks ∧
      (s.getWith c key).waiting = s.waiting ++ [⟨key, s.moment, ⟨id⟩⟩] := by
  obtain ⟨entry, hentry, hid, hfresh⟩ := h.fresh hvalid htask husable
  rcases getWith_cases c s key with ⟨entry', hentry', -, hget⟩ | ⟨hmiss, -⟩
  · rw [hentry] at hentry'
    obtain rfl := Option.some.inj hentry'
    rw [hget]
    refine ⟨rfl, ?_⟩
    obtain ⟨entryId, used, ⟨task⟩, expiresAt⟩ := entry
    dsimp only at hid ⊢
    rw [hid]
  · rw [hmiss entry hentry] at hfresh
    cases hfresh

/-- The entry of a lookup that starts survives the eviction: its number is the largest one. -/
lemma State.Mirrored.lookup_started {s : State K} (hs : s.Mirrored) {capacity : ℕ}
    (hcapacity : 1 ≤ capacity) (key : K) :
    ∃ entry, (s.startLookup capacity key).2.entries.lookup key = some entry ∧
      entry.id = s.next + 1 := by
  have hev := ((hs.inserted key).evictOver_spec capacity).2
  have hnew : (s.inserted key).entries.lookup key = some
      { id := s.next + 1, used := s.next + 1, lookup := ⟨s.next + 1⟩, expiresAt := none } := by
    rw [State.lookup_inserted, if_pos rfl]
  cases hkept : (s.startLookup capacity key).2.entries.lookup key with
  | some entry =>
    have hentry := hev.kept hkept
    rw [hnew] at hentry
    exact ⟨entry, rfl, (congrArg Entry.id (Option.some.inj hentry)).symm⟩
  | none =>
    have hpos : 0 < (s.inserted key).entries.keys.card := by
      apply Finset.card_pos.mpr
      exact ⟨key, Finmap.mem_keys.mpr (Finmap.mem_of_lookup_eq_some hnew)⟩
    have hcard : 0 < ((s.inserted key).evictOver capacity).entries.keys.card := by
      rw [hev.card_eq]
      omega
    obtain ⟨other, hother⟩ := Finset.card_pos.mp hcard
    obtain ⟨entry, hentry⟩ := Finmap.mem_iff.mp (Finmap.mem_keys.mp hother)
    have hlt := hev.used_lt hentry hnew hkept
    have hle := (hs.inserted key).entry_used_le (hev.kept hentry)
    rw [State.next_inserted] at hle
    dsimp only at hlt
    omega

namespace Retained

variable {c : Config V E} {key : K} {s : Sys K V E}

/-- **A call for the key keeps it retained.**

**Proof sketch.** A call that finds the entry only moves it up. A call that starts a lookup leaves
its own entry, as the capacity is at least one; it starts none where a usable lookup was retained,
since that entry was fresh (`Retained.fresh`). -/
theorem getWith (h : Retained c key s) (hvalid : Valid c s) (hrep : Represented c s)
    (hcapacity : 1 ≤ c.capacity) : Retained c key (s.getWith c key) := by
  intro id status htask husable
  rcases getWith_cases c s key with ⟨entry, hentry, -, hget⟩ | ⟨hmiss, hget⟩
  · rw [hget] at htask husable ⊢
    obtain ⟨kept, hkept, hid⟩ := h id status htask husable
    rw [hentry] at hkept
    obtain rfl := Option.some.inj hkept
    dsimp only
    rw [State.lookup_touch, if_pos rfl]
    exact ⟨_, rfl, hid⟩
  · rw [hget] at htask husable ⊢
    dsimp only at htask husable ⊢
    by_cases hid : id = s.state.next + 1
    · obtain ⟨entry, hentry, hnew⟩ :=
        (hrep.mirrored.removeKey key).lookup_started hcapacity key
      rw [State.next_removeKey] at hnew
      exact ⟨entry, hentry, hnew.trans hid.symm⟩
    · -- a usable lookup would have been joined
      rw [Function.update_of_ne hid] at htask
      obtain ⟨entry, hentry, -, hfresh⟩ := h.fresh hvalid htask husable
      rw [hmiss entry hentry] at hfresh
      cases hfresh

/-- The end of a lookup of the key leaves every other lookup as it is. -/
lemma of_ended (h : Retained c key s) {s' : Sys K V E} {id : ℕ} {k : K} {ended : Status V E}
    (htasks : s'.tasks = Function.update s.tasks id (some ⟨k, ended⟩)) (hnow : s'.now = s.now)
    (hrunning : s.tasks id = some ⟨k, .running⟩)
    (hchanges : ChangesOnlyEntryOf id s.state s'.state)
    (hkeeps : ∀ entry, s.state.entries.lookup key = some entry → entry.id = id → k = key →
      ended.Usable c s.now → ∃ entry', s'.state.entries.lookup key = some entry' ∧
        entry'.id = id) : Retained c key s' := by
  intro i status htask husable
  rw [htasks] at htask
  rw [hnow] at husable
  by_cases hi : i = id
  · subst hi
    rw [Function.update_self] at htask
    obtain ⟨hk, hstatus⟩ := Task.mk.inj (Option.some.inj htask)
    subst hk hstatus
    obtain ⟨entry, hentry, hid⟩ := h i .running hrunning trivial
    exact hkeeps entry hentry hid rfl husable
  · rw [Function.update_of_ne hi] at htask
    obtain ⟨entry, hentry, hid⟩ := h i status htask husable
    exact ⟨entry, hchanges.1 key entry hentry (by omega), hid⟩

/-- **The completion of a lookup keeps the key retained.** -/
theorem finish (h : Retained c key s) {id : ℕ} {k : K}
    (hrunning : s.tasks id = some ⟨k, .running⟩) (outcome : Except E V) :
    Retained c key (s.finish c id k outcome) := by
  refine h.of_ended rfl rfl hrunning (changesOnlyEntryOf_complete s.state k id _ _ _) ?_
  rintro entry hentry hid rfl husable
  have hlookup := @State.lookup_complete_of_pos K _ s.state k k id _ s.now c.lastInstant husable.1
  rw [hentry] at hlookup
  refine ⟨_, hlookup, ?_⟩
  dsimp only
  rw [if_pos ⟨rfl, hid⟩]
  exact hid

/-- **The panic of a lookup keeps the key retained.** -/
theorem panic (h : Retained c key s) {id : ℕ} {k : K}
    (hrunning : s.tasks id = some ⟨k, .running⟩) : Retained c key (s.panic id k) := by
  refine h.of_ended rfl rfl hrunning (changesOnlyEntryOf_removeLookup s.state k id) ?_
  rintro entry - - - ⟨⟩

/-- A step that changes no task and no entry keeps the key retained. -/
lemma of_same (h : Retained c key s) {s' : Sys K V E} (htasks : s'.tasks = s.tasks)
    (hentries : s'.state = s.state) (hnow : s.now ≤ s'.now) : Retained c key s' := by
  intro id status htask husable
  rw [htasks] at htask
  rw [hentries]
  exact h id status htask (husable.mono hnow)

end Retained

/-! ## Steps that are no calls -/

/-- The event is no call. -/
def Event.IsQuiet : Event K V E → Prop
  | getWith _ | lookupCallPanics _ => False
  | _ => True

/-- **A step that is no call keeps every key retained.** -/
theorem Retained.step_quiet {c : Config V E} {key : K} {s s' : Sys K V E} {e : Event K V E}
    (h : Retained c key s) (hquiet : e.IsQuiet) (hstep : step c s e = some s') :
    Retained c key s' := by
  rcases step_cases hstep with ⟨k, rfl, -⟩ | ⟨k, rfl, -⟩ | ⟨id, outcome, k, -, hrunning, rfl⟩ |
    ⟨id, k, -, hrunning, rfl⟩ | ⟨i, call, task, outcome, -, -, -, -, rfl⟩ | ⟨i, -, rfl⟩ |
    ⟨d, -, rfl⟩
  · exact hquiet.elim
  · exact hquiet.elim
  · exact h.finish hrunning outcome
  · exact h.panic hrunning
  · exact h.of_same rfl rfl le_rfl
  · exact h.of_same rfl rfl le_rfl
  · exact h.of_same rfl rfl (Nat.le_add_right _ d)

/-- A step that is no call starts no lookup and keeps the keys of the lookups. -/
lemma started_iff_of_quiet {c : Config V E} {s s' : Sys K V E} {e : Event K V E}
    (hquiet : e.IsQuiet) (hstep : step c s e = some s') (id : ℕ) (key : K) :
    Started s' id key ↔ Started s id key := by
  have hended : ∀ {i : ℕ} {k : K} {ended : Status V E}, s.tasks i = some ⟨k, .running⟩ →
      ((∃ status, Function.update s.tasks i (some ⟨k, ended⟩) id = some ⟨key, status⟩) ↔
        Started s id key) := by
    intro i k ended hrunning
    by_cases hi : id = i
    · subst hi
      rw [Function.update_self]
      unfold Started
      rw [hrunning]
      simp
    · rw [Function.update_of_ne hi]
      exact Iff.rfl
  rcases step_cases hstep with ⟨k, rfl, -⟩ | ⟨k, rfl, -⟩ | ⟨i, outcome, k, -, hrunning, rfl⟩ |
    ⟨i, k, -, hrunning, rfl⟩ | ⟨i, call, task, outcome, -, -, -, -, rfl⟩ | ⟨i, -, rfl⟩ |
    ⟨d, -, rfl⟩
  · exact hquiet.elim
  · exact hquiet.elim
  · exact hended hrunning
  · exact hended hrunning
  · exact Iff.rfl
  · exact Iff.rfl
  · exact Iff.rfl

/-- Nothing happens, or a step that is no call. -/
def QuietStep (c : Config V E) (s s' : Sys K V E) : Prop :=
  s' = s ∨ ∃ e : Event K V E, e.IsQuiet ∧ step c s e = some s'

namespace QuietStep

variable {c : Config V E} {s s' : Sys K V E}

/-- A step that is no call is quiet. -/
lemma of_step {e : Event K V E} (h : step c s e = some s') (hquiet : e.IsQuiet) :
    QuietStep c s s' := Or.inr ⟨e, hquiet, h⟩

/-- A quiet step ends in a reachable state. -/
lemma reachable (h : QuietStep c s s') (hs : (system K c).Reachable s) :
    (system K c).Reachable s' := by
  rcases h with rfl | ⟨e, -, hstep⟩
  · exact hs
  · exact hs.step hstep

/-- A quiet step keeps every key retained. -/
lemma retained (h : QuietStep c s s') {key : K} (hs : Retained c key s) :
    Retained c key s' := by
  rcases h with rfl | ⟨e, hquiet, hstep⟩
  · exact hs
  · exact hs.step_quiet hquiet hstep

/-- A quiet step starts no lookup. -/
lemma started_iff (h : QuietStep c s s') (id : ℕ) (key : K) :
    Started s' id key ↔ Started s id key := by
  rcases h with rfl | ⟨e, hquiet, hstep⟩
  · exact Iff.rfl
  · exact started_iff_of_quiet hquiet hstep id key

/-- A lookup that is usable after a quiet step was usable before.

**Proof sketch.** By the kind of the step. A lookup that ends was running, and a running lookup is
usable. The other steps leave the tasks, and the clock goes forward, so what is usable later is
usable now. -/
lemma usable (h : QuietStep c s s') {id : ℕ} {key : K} (hstarted : Started s id key)
    {status' : Status V E} (htask' : s'.tasks id = some ⟨key, status'⟩)
    (husable : status'.Usable c s'.now) :
    ∃ status, s.tasks id = some ⟨key, status⟩ ∧ status.Usable c s.now := by
  obtain ⟨status, htask⟩ := hstarted
  refine ⟨status, htask, ?_⟩
  -- a lookup that ends was running
  have hended : ∀ {i : ℕ} {k : K} {ended : Status V E}, s.tasks i = some ⟨k, .running⟩ →
      Function.update s.tasks i (some ⟨k, ended⟩) id = some ⟨key, status'⟩ →
      status'.Usable c s.now → status.Usable c s.now := by
    intro i k ended hrunning hupdated hu
    by_cases hi : id = i
    · subst hi
      rw [htask] at hrunning
      rw [(Task.mk.inj (Option.some.inj hrunning)).2]
      exact trivial
    · rw [Function.update_of_ne hi, htask] at hupdated
      rw [(Task.mk.inj (Option.some.inj hupdated)).2]
      exact hu
  have hsame : s'.tasks = s.tasks → s.now ≤ s'.now → status.Usable c s.now := by
    intro htasks hnow
    rw [htasks, htask] at htask'
    rw [(Task.mk.inj (Option.some.inj htask')).2]
    exact husable.mono hnow
  rcases h with rfl | ⟨e, hquiet, hstep⟩
  · exact hsame rfl le_rfl
  rcases step_cases hstep with ⟨k, rfl, -⟩ | ⟨k, rfl, -⟩ | ⟨i, outcome, k, -, hrunning, rfl⟩ |
    ⟨i, k, -, hrunning, rfl⟩ | ⟨i, call, task, outcome, -, -, -, -, rfl⟩ | ⟨i, -, rfl⟩ |
    ⟨d, -, rfl⟩
  · exact hquiet.elim
  · exact hquiet.elim
  · exact hended hrunning htask' husable
  · exact hended hrunning htask' husable
  · exact hsame rfl le_rfl
  · exact hsame rfl le_rfl
  · exact hsame rfl (Nat.le_add_right _ d)

end QuietStep

/-- A key without lookups is retained. -/
lemma Retained.of_unstarted {c : Config V E} {key : K} {s : Sys K V E}
    (h : ∀ id, ¬ Started s id key) : Retained c key s := by
  intro id status htask
  exact absurd ⟨status, htask⟩ (h id)

/-! ## The lookup that a call waits for -/

/-- The lookup that a call for the key waits for. -/
def Sys.sharedOf (c : Config V E) (s : Sys K V E) (key : K) : SharedLookup :=
  match s.state.freshEntry key s.now with
  | (some shared, _) => shared
  | (none, state) => (state.startLookup c.capacity key).1

/-- The call that waits after `get_with`. -/
def Sys.callOf (c : Config V E) (s : Sys K V E) (key : K) : Call K where
  key := key
  start := s.moment
  lookup := s.sharedOf c key

/-- `get_with` adds the call that waits. -/
lemma waiting_getWith (c : Config V E) (s : Sys K V E) (key : K) :
    (s.getWith c key).waiting = s.waiting ++ [s.callOf c key] := by
  unfold Sys.getWith Sys.callOf Sys.sharedOf
  rcases s.state.freshEntry key s.now with ⟨shared | shared, state⟩
  · rfl
  · rfl

/-- A call starts no lookup but one for its key, and keeps the keys of the lookups. -/
lemma started_getWith {c : Config V E} {s : Sys K V E} (hvalid : Valid c s) (key : K) (id : ℕ)
    (k : K) :
    (Started s id k → Started (s.getWith c key) id k) ∧
      (Started (s.getWith c key) id k → Started s id k ∨ k = key) := by
  rcases getWith_cases c s key with ⟨entry, -, -, hget⟩ | ⟨-, hget⟩
  · rw [hget]
    exact ⟨fun h => h, Or.inl⟩
  · rw [hget]
    unfold Started
    dsimp only
    by_cases hid : id = s.state.next + 1
    · subst hid
      rw [Function.update_self]
      constructor
      · intro h
        obtain ⟨status, htask⟩ := h
        have hle := hvalid.task_le_next htask
        omega
      · intro h
        obtain ⟨status, htask⟩ := h
        exact Or.inr (Task.mk.inj (Option.some.inj htask)).1.symm
    · rw [Function.update_of_ne hid]
      exact ⟨fun h => h, Or.inl⟩

/-- The lookup that a call waits for is one of its key. -/
lemma started_callOf {c : Config V E} {s : Sys K V E} (hvalid : Valid c s) (key : K) :
    Started (s.getWith c key) (s.callOf c key).lookup.task key := by
  have hwaiting := waiting_getWith c s key
  rcases getWith_cases c s key with ⟨entry, hentry, -, hget⟩ | ⟨-, hget⟩
  · rw [hget] at hwaiting ⊢
    have hcall : (s.callOf c key) = ⟨key, s.moment, entry.lookup⟩ := by
      simpa using hwaiting.symm
    rw [hcall]
    obtain ⟨hlookup, status, htask, -⟩ := hvalid.entries hentry
    exact ⟨status, by rw [hlookup]; exact htask⟩
  · rw [hget] at hwaiting ⊢
    have hcall : (s.callOf c key) = ⟨key, s.moment, ⟨s.state.next + 1⟩⟩ := by
      simpa using hwaiting.symm
    rw [hcall]
    exact ⟨.running, Function.update_self ..⟩

/-- The first call for a key starts the only lookup of it. -/
lemma getWith_of_unstarted {c : Config V E} {s : Sys K V E} (hvalid : Valid c s) {key : K}
    (h : ∀ id, ¬ Started s id key) :
    (s.getWith c key).tasks (s.callOf c key).lookup.task = some ⟨key, .running⟩ ∧
      ∀ id, Started (s.getWith c key) id key → id = (s.callOf c key).lookup.task := by
  have hwaiting := waiting_getWith c s key
  rcases getWith_cases c s key with ⟨entry, hentry, -, -⟩ | ⟨-, hget⟩
  · obtain ⟨-, status, htask, -⟩ := hvalid.entries hentry
    exact absurd ⟨status, htask⟩ (h entry.id)
  · rw [hget] at hwaiting ⊢
    have hcall : s.callOf c key = ⟨key, s.moment, ⟨s.state.next + 1⟩⟩ := by
      simpa using hwaiting.symm
    rw [hcall]
    refine ⟨Function.update_self .., ?_⟩
    rintro id ⟨status, htask⟩
    by_contra hid
    dsimp only at htask hid
    rw [Function.update_of_ne hid] at htask
    exact h id ⟨status, htask⟩

/-- A call keeps the clock and the lookups that were started. -/
lemma tasks_getWith_of_started {c : Config V E} {s : Sys K V E} (hvalid : Valid c s) (key : K)
    {id : ℕ} {k : K} (hstarted : Started s id k) :
    (s.getWith c key).tasks id = s.tasks id ∧ (s.getWith c key).now = s.now := by
  rcases getWith_cases c s key with ⟨entry, -, -, hget⟩ | ⟨-, hget⟩
  · rw [hget]
    exact ⟨rfl, rfl⟩
  · rw [hget]
    obtain ⟨status, htask⟩ := hstarted
    have hle := hvalid.task_le_next htask
    exact ⟨Function.update_of_ne (by omega) _ _, rfl⟩

/-- **A call that leaves a lookup of its key usable has joined it.** -/
theorem Retained.getWith_usable {c : Config V E} {key : K} {s : Sys K V E}
    (h : Retained c key s) (hvalid : Valid c s) {id : ℕ} (hstarted : Started s id key)
    {status : Status V E} (htask : (s.getWith c key).tasks id = some ⟨key, status⟩)
    (husable : status.Usable c (s.getWith c key).now) :
    s.tasks id = some ⟨key, status⟩ ∧ status.Usable c s.now ∧
      (s.getWith c key).tasks = s.tasks ∧ (s.callOf c key).lookup.task = id := by
  obtain ⟨htasks, hnow⟩ := tasks_getWith_of_started hvalid key hstarted
  rw [htasks] at htask
  rw [hnow] at husable
  obtain ⟨hsame, hwaiting⟩ := h.getWith_joins hvalid htask husable
  rw [waiting_getWith] at hwaiting
  have hcall : s.callOf c key = ⟨key, s.moment, ⟨id⟩⟩ := by simpa using hwaiting
  exact ⟨htask, husable, hsame, by rw [hcall]⟩

end PsStore.Cache
