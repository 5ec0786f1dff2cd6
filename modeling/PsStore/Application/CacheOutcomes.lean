import PsStore.Application.CacheRuns

set_option relaxedAutoImplicit false
set_option autoImplicit false

/-!
# What the callers of the lookup cache receive

The invariant that ties the entries of a cache and its calls to the lookup tasks, and what it
means for the outcomes that calls receive.

## Main definitions

* `Cache.Status.Keeps` — the expiry that an entry has while its lookup has a status.
* `Cache.Status.Serves` — a lookup with a status may serve a call that started at a moment.
* `Cache.Valid` — every entry and every call agrees with its task.
* `Cache.Started` — a lookup was started for a key.

## Main results

* `Cache.Valid.of_reachable` — every reachable state is valid.
* `Cache.serves_valid_outcomes` — calls receive outcomes of lookups for their own keys that had
  not expired when the call started, an ended lookup changes only its own entry, and a usable
  entry is never looked up again.
-/

namespace PsStore.Cache

variable {K V E : Type}

/-! ## Agreement with the tasks -/

/-- The expiry of an entry whose lookup has the status: none while the lookup runs, and counted
from the completion with a positive time to live. No entry stays behind a panicked lookup. -/
def Status.Keeps (c : Config V E) (expiresAt : Option ℕ) : Status V E → Prop
  | running => expiresAt = none
  | completed outcome m =>
    c.ttl outcome ≠ 0 ∧ expiresAt = checkedAdd c.lastInstant m.clock (c.ttl outcome)
  | panicked _ => False

/-- A call that started at `start` may receive the outcome of a lookup with the status: the
lookup had not ended when the call started, or its outcome had not expired. -/
def Status.Serves (c : Config V E) (start : Moment) : Status V E → Prop
  | running => True
  | completed outcome m =>
    start.clock ≤ m.clock ∧ start.step < m.step ∨
      c.ttl outcome ≠ 0 ∧ ∀ deadline,
        checkedAdd c.lastInstant m.clock (c.ttl outcome) = some deadline → start.clock < deadline
  | panicked m => start.step < m.step

/-- A lookup with number `id` was started for `key`. -/
def Started (s : Sys K V E) (id : ℕ) (key : K) : Prop :=
  ∃ status, s.tasks id = some ⟨key, status⟩

/-- The entry of `key` waits for the lookup that filled it, and its expiry agrees with the status
of that lookup. -/
def EntryValid (c : Config V E) (s : Sys K V E) (key : K) (entry : Entry) : Prop :=
  entry.lookup.task = entry.id ∧
    ∃ status, s.tasks entry.id = some ⟨key, status⟩ ∧ status.Keeps c entry.expiresAt

/-- The call started before now and waits for a lookup of its own key that may serve it. -/
def CallValid (c : Config V E) (s : Sys K V E) (call : Call K) : Prop :=
  call.start.clock ≤ s.now ∧ call.start.step < s.steps ∧
    ∃ status, s.tasks call.lookup.task = some ⟨call.key, status⟩ ∧ status.Serves c call.start

variable [DecidableEq K]

/-- Every task is numbered up to the counter, and every entry and every call agrees with its
task. -/
structure Valid (c : Config V E) (s : Sys K V E) : Prop where
  /-- The numbers of the tasks are at most the counter. -/
  task_le_next : ∀ {id task}, s.tasks id = some task → id ≤ s.state.next
  /-- The entries agree with their tasks. -/
  entries : ∀ {key entry}, s.state.entries.lookup key = some entry → EntryValid c s key entry
  /-- The waiting calls agree with their tasks. -/
  waiting : ∀ call ∈ s.waiting, CallValid c s call
  /-- The calls that have returned received the outcomes of their tasks. -/
  returned : ∀ received ∈ s.returned, CallValid c s received.1 ∧
    ∃ status, s.tasks received.1.lookup.task = some ⟨received.1.key, status⟩ ∧
      status.outcome c.lookupPanicked = some received.2

/-! ## Steps that start or end no lookup -/

omit [DecidableEq K] in
/-- A valid call stays valid while its task is unchanged. -/
lemma CallValid.mono {c : Config V E} {s s' : Sys K V E} {call : Call K} (h : CallValid c s call)
    (htasks : ∀ {task}, s.tasks call.lookup.task = some task →
      s'.tasks call.lookup.task = some task)
    (hnow : s.now ≤ s'.now) (hsteps : s.steps ≤ s'.steps) : CallValid c s' call := by
  obtain ⟨hclock, hstep, status, htask, hserves⟩ := h
  exact ⟨hclock.trans hnow, hstep.trans_le hsteps, status, htasks htask, hserves⟩

/-- A step that keeps the tasks, adds no entry and no call, and returns no call keeps a valid
state valid. -/
lemma Valid.of_same_tasks {c : Config V E} {s s' : Sys K V E} (hs : Valid c s)
    (htasks : s'.tasks = s.tasks) (hnext : s'.state.next = s.state.next)
    (hnow : s.now ≤ s'.now) (hsteps : s.steps ≤ s'.steps)
    (hentries : ∀ {key entry}, s'.state.entries.lookup key = some entry →
      s.state.entries.lookup key = some entry)
    (hwaiting : ∀ call ∈ s'.waiting, call ∈ s.waiting) (hreturned : s'.returned = s.returned) :
    Valid c s' where
  task_le_next {id task} h := by
    rw [hnext]
    exact hs.task_le_next (htasks ▸ h)
  entries {key entry} h := by
    obtain ⟨hlookup, status, htask, hkeeps⟩ := hs.entries (hentries h)
    exact ⟨hlookup, status, htasks ▸ htask, hkeeps⟩
  waiting call hcall :=
    (hs.waiting call (hwaiting call hcall)).mono (fun h => htasks ▸ h) hnow hsteps
  returned received hmem := by
    obtain ⟨hvalid, status, htask, hout⟩ := hs.returned received (hreturned ▸ hmem)
    exact ⟨hvalid.mono (fun h => htasks ▸ h) hnow hsteps, status, htasks ▸ htask, hout⟩

/-! ## The end of a lookup -/

omit [DecidableEq K] in
/-- A call that waits for an ending lookup started before its end, so it may be served. A call
that waits for another lookup is not touched. -/
lemma CallValid.update {c : Config V E} {s s' : Sys K V E} {call : Call K}
    (h : CallValid c s call) {id : ℕ} {key : K} {ended : Status V E}
    (hrunning : s.tasks id = some ⟨key, .running⟩)
    (htasks : s'.tasks = Function.update s.tasks id (some ⟨key, ended⟩))
    (hnow : s.now ≤ s'.now) (hsteps : s.steps ≤ s'.steps)
    (hserves : ∀ start : Moment, start.clock ≤ s.now → start.step < s.steps →
      ended.Serves c start) : CallValid c s' call := by
  obtain ⟨hclock, hstep, status, htask, hserve⟩ := h
  refine ⟨hclock.trans hnow, hstep.trans_le hsteps, ?_⟩
  by_cases hid : call.lookup.task = id
  · rw [hid, hrunning] at htask
    refine ⟨ended, ?_, hserves call.start hclock hstep⟩
    rw [htasks, hid, Function.update_self, (Task.mk.inj (Option.some.inj htask)).1]
  · exact ⟨status, by rw [htasks, Function.update_of_ne hid, htask], hserve⟩

/-- **The end of a lookup.** When a running lookup ends, and every entry that stays either belongs
to another lookup and is unchanged, or belongs to the ended lookup and has the expiry of its new
status, a valid state stays valid.

**Proof sketch.** Only the task of the ended lookup changes, and it keeps its key. An entry of
another lookup keeps its task; one of this lookup has the expiry of the new status by `hentries`. A
waiting call of this lookup is served by the new status (`hserves`), and a returned one belongs to a
lookup that ended before. -/
lemma Valid.of_ended {c : Config V E} {s s' : Sys K V E} (hs : Valid c s) {id : ℕ} {key : K}
    {ended : Status V E} (hrunning : s.tasks id = some ⟨key, .running⟩)
    (htasks : s'.tasks = Function.update s.tasks id (some ⟨key, ended⟩))
    (hnext : s'.state.next = s.state.next) (hnow : s'.now = s.now)
    (hsteps : s.steps ≤ s'.steps) (hwaiting : s'.waiting = s.waiting)
    (hreturned : s'.returned = s.returned)
    (hserves : ∀ start : Moment, start.clock ≤ s.now → start.step < s.steps →
      ended.Serves c start)
    (hentries : ∀ {k entry}, s'.state.entries.lookup k = some entry →
      ∃ e, s.state.entries.lookup k = some e ∧ e.id = entry.id ∧ e.lookup = entry.lookup ∧
        (entry.id = id ∧ ended.Keeps c entry.expiresAt ∨ entry.id ≠ id ∧ e = entry)) :
    Valid c s' where
  task_le_next {i task} h := by
    rw [hnext]
    rw [htasks] at h
    by_cases hi : i = id
    · exact hi ▸ hs.task_le_next hrunning
    · rw [Function.update_of_ne hi] at h
      exact hs.task_le_next h
  entries {k entry} h := by
    obtain ⟨e, he, hid, hlook, hcase⟩ := hentries h
    obtain ⟨hlookup, status, htask, hkeeps⟩ := hs.entries he
    refine ⟨by rw [← hlook, hlookup, hid], ?_⟩
    rcases hcase with ⟨hi, hended⟩ | ⟨hi, rfl⟩
    · rw [hid, hi, hrunning] at htask
      refine ⟨ended, ?_, hended⟩
      rw [htasks, hi, Function.update_self, (Task.mk.inj (Option.some.inj htask)).1]
    · exact ⟨status, by rw [htasks, Function.update_of_ne hi, htask], hkeeps⟩
  waiting call hcall :=
    (hs.waiting call (hwaiting ▸ hcall)).update hrunning htasks hnow.ge hsteps hserves
  returned received hmem := by
    obtain ⟨hvalid, status, htask, hout⟩ := hs.returned received (hreturned ▸ hmem)
    refine ⟨hvalid.update hrunning htasks hnow.ge hsteps hserves, status, ?_, hout⟩
    -- a lookup whose outcome was received has ended before
    have hne : received.1.lookup.task ≠ id := fun hid => by
      rw [hid, hrunning] at htask
      rw [← (Task.mk.inj (Option.some.inj htask)).2] at hout
      simp [Status.outcome] at hout
    rw [htasks, Function.update_of_ne hne, htask]

/-- An ended lookup that completes with an outcome keeps a valid state valid. -/
lemma Valid.finish {c : Config V E} {s : Sys K V E} (hs : Valid c s) {id : ℕ} {key : K}
    (hrunning : s.tasks id = some ⟨key, .running⟩) (outcome : Except E V) :
    Valid c (s.finish c id key outcome) := by
  refine hs.of_ended hrunning rfl (by simp [Sys.finish]) rfl (Nat.le_succ _) rfl rfl
    (fun start hclock hstep => Or.inl ⟨hclock, hstep⟩) fun {k entry} h => ?_
  simp only [Sys.finish] at h
  by_cases httl : c.ttl outcome = 0
  · rw [httl, State.complete_zero, State.lookup_removeLookup] at h
    split_ifs at h with hgone
    refine ⟨entry, h, rfl, rfl, Or.inr ⟨fun hid => hgone ⟨?_, by simp [h, hid]⟩, rfl⟩⟩
    -- the lookup fills no entry of another key
    obtain ⟨-, status, htask, -⟩ := hs.entries h
    rw [hid, hrunning] at htask
    exact (Task.mk.inj (Option.some.inj htask)).1.symm
  · rw [State.lookup_complete_of_pos _ _ _ _ _ httl] at h
    obtain ⟨e, he, rfl⟩ := Option.map_eq_some_iff.mp h
    refine ⟨e, he, by split_ifs <;> rfl, by split_ifs <;> rfl, ?_⟩
    by_cases hid : e.id = id
    · obtain ⟨-, status, htask, -⟩ := hs.entries he
      rw [hid, hrunning] at htask
      have hk : k = key := (Task.mk.inj (Option.some.inj htask)).1.symm
      rw [if_pos ⟨hk, hid⟩]
      exact Or.inl ⟨hid, httl, rfl⟩
    · rw [if_neg fun h => hid h.2]
      exact Or.inr ⟨hid, rfl⟩

/-- A lookup that panics keeps a valid state valid. -/
lemma Valid.panic {c : Config V E} {s : Sys K V E} (hs : Valid c s) {id : ℕ} {key : K}
    (hrunning : s.tasks id = some ⟨key, .running⟩) : Valid c (s.panic id key) := by
  refine hs.of_ended hrunning rfl (by simp [Sys.panic]) rfl (Nat.le_succ _) rfl rfl
    (fun start _ hstep => hstep) fun {k entry} h => ?_
  simp only [Sys.panic, State.lookup_removeLookup] at h
  split_ifs at h with hgone
  refine ⟨entry, h, rfl, rfl, Or.inr ⟨fun hid => hgone ⟨?_, by simp [h, hid]⟩, rfl⟩⟩
  obtain ⟨-, status, htask, -⟩ := hs.entries h
  rw [hid, hrunning] at htask
  exact (Task.mk.inj (Option.some.inj htask)).1.symm

/-! ## The start of a call -/

omit [DecidableEq K] in
/-- A usable entry may serve a call that starts now. -/
lemma EntryValid.serves {c : Config V E} {s : Sys K V E} {key : K} {entry : Entry}
    (h : EntryValid c s key entry) (hfresh : entry.expired s.now = false) :
    ∃ status, s.tasks entry.lookup.task = some ⟨key, status⟩ ∧ status.Serves c s.moment := by
  obtain ⟨hlookup, status, htask, hkeeps⟩ := h
  refine ⟨status, hlookup ▸ htask, ?_⟩
  cases status with
  | running => exact trivial
  | completed outcome m =>
    refine Or.inr ⟨hkeeps.1, fun deadline hdeadline => ?_⟩
    by_contra hlate
    have : entry.expired s.now = true :=
      (Entry.expired_iff _ _).mpr ⟨deadline, hkeeps.2.trans hdeadline, Nat.not_lt.mp hlate⟩
    rw [this] at hfresh
    cases hfresh
  | panicked m => exact hkeeps.elim

/-- A call keeps a valid state valid.

**Proof sketch.** A hit changes the recency number of the entry only, and the entry was usable. A
miss starts a lookup under a number that no task has, so the other entries and the other calls
keep their tasks. -/
lemma Valid.getWith {c : Config V E} {s : Sys K V E} (hs : Valid c s) (hrep : Represented c s)
    (key : K) : Valid c (s.getWith c key) := by
  rcases getWith_cases c s key with ⟨entry, hentry, hfresh, h⟩ | ⟨-, h⟩
  · rw [h]
    refine ⟨fun hid => (hs.task_le_next hid).trans (Nat.le_succ _), fun {k e} he => ?_,
      fun call hcall => ?_, fun received hmem => ?_⟩
    · rw [State.lookup_touch] at he
      split_ifs at he with hk
      · obtain rfl := Option.some.inj he
        have hvalid : EntryValid c s key entry := hs.entries hentry
        rw [hk]
        exact hvalid
      · exact hs.entries he
    · rcases List.mem_append.mp hcall with hcall | hcall
      · exact (hs.waiting call hcall).mono id le_rfl (Nat.le_succ _)
      · rw [List.mem_singleton.mp hcall]
        exact ⟨le_rfl, Nat.lt_succ_self _, (hs.entries hentry).serves hfresh⟩
    · obtain ⟨hvalid, hout⟩ := hs.returned received hmem
      exact ⟨hvalid.mono id le_rfl (Nat.le_succ _), hout⟩
  · -- the new number is free, so no earlier task changes
    have hkeep : ∀ {i : ℕ} {task : Task K V E}, s.tasks i = some task →
        Function.update s.tasks (s.state.next + 1) (some ⟨key, .running⟩) i = some task := by
      intro i task htask
      have := hs.task_le_next htask
      rw [Function.update_of_ne (by omega), htask]
    have hremoved := hrep.mirrored.removeKey key
    rw [h]
    refine ⟨fun {i task} hid => ?_, fun {k e} he => ?_, fun call hcall => ?_,
      fun received hmem => ?_⟩
    · simp only [hremoved.next_startLookup, State.next_removeKey]
      by_cases hi : i = s.state.next + 1
      · exact hi.le
      · simp only [Function.update_of_ne hi] at hid
        exact (hs.task_le_next hid).trans (Nat.le_succ _)
    · rcases hremoved.lookup_startLookup c.capacity key he with ⟨rfl, rfl⟩ | ⟨hk, hl⟩
      · exact ⟨rfl, .running, by simp, rfl⟩
      · rw [State.lookup_removeKey, if_neg hk] at hl
        obtain ⟨hlookup, status, htask, hkeeps⟩ := hs.entries hl
        exact ⟨hlookup, status, hkeep htask, hkeeps⟩
    · rcases List.mem_append.mp hcall with hcall | hcall
      · exact (hs.waiting call hcall).mono hkeep le_rfl (Nat.le_succ _)
      · rw [List.mem_singleton.mp hcall]
        exact ⟨le_rfl, Nat.lt_succ_self _, .running, by simp, trivial⟩
    · obtain ⟨hvalid, status, htask, hout⟩ := hs.returned received hmem
      exact ⟨hvalid.mono hkeep le_rfl (Nat.le_succ _), status, hkeep htask, hout⟩

/-! ## Every reachable state is valid -/

/-- Every step keeps a valid state valid.

**Proof sketch.** By `step_cases`. A call adds a task and an entry for it, the end and the panic of
a lookup change its task alone, and the other steps leave the tasks. A call that returns takes the
outcome of the task that it waited for. -/
lemma Valid.step {c : Config V E} {s s' : Sys K V E} {e : Event K V E} (hs : Valid c s)
    (hrep : Represented c s) (h : step c s e = some s') : Valid c s' := by
  rcases step_cases h with ⟨key, -, rfl⟩ | ⟨key, -, rfl⟩ | ⟨id, outcome, key, -, hrun, rfl⟩ |
    ⟨id, key, -, hrun, rfl⟩ | ⟨i, call, task, outcome, -, hcall, htask, hout, rfl⟩ | ⟨i, -, rfl⟩ |
    ⟨d, -, rfl⟩
  · exact hs.getWith hrep key
  · refine hs.of_same_tasks rfl (by simp) le_rfl (Nat.le_succ _) (fun {k e} he => ?_)
      (fun _ => id) rfl
    rw [State.lookup_removeKey] at he
    split_ifs at he
    exact he
  · exact hs.finish hrun outcome
  · exact hs.panic hrun
  · have hmem : call ∈ s.waiting := List.mem_of_getElem? hcall
    refine ⟨hs.task_le_next, hs.entries, fun other hother => ?_, fun received hreceived => ?_⟩
    · exact (hs.waiting other (List.mem_of_mem_eraseIdx hother)).mono id le_rfl (Nat.le_succ _)
    · rcases List.mem_append.mp hreceived with hold | hnew
      · obtain ⟨hvalid, hrest⟩ := hs.returned received hold
        exact ⟨hvalid.mono id le_rfl (Nat.le_succ _), hrest⟩
      · rw [List.mem_singleton.mp hnew]
        have hvalid := hs.waiting call hmem
        refine ⟨hvalid.mono id le_rfl (Nat.le_succ _), ?_⟩
        obtain ⟨-, -, status, hstatus, -⟩ := hvalid
        rw [htask] at hstatus
        obtain rfl := Option.some.inj hstatus
        exact ⟨status, htask, hout⟩
  · exact hs.of_same_tasks rfl rfl le_rfl (Nat.le_succ _) id
      (fun call hcall => List.mem_of_mem_eraseIdx hcall) rfl
  · exact hs.of_same_tasks rfl rfl (Nat.le_add_right _ _) (Nat.le_succ _) id (fun _ => id) rfl

/-- **Validity.** In every reachable state the entries and the calls agree with their tasks. -/
theorem Valid.of_reachable {c : Config V E} {s : Sys K V E} (hs : (system K c).Reachable s) :
    Valid c s :=
  hs.invariant
    ⟨fun h => by simp [system, Sys.start] at h,
      fun h => by simp [system, Sys.start, State.empty] at h,
      fun call h => by simp [system, Sys.start] at h,
      fun received h => by simp [system, Sys.start] at h⟩
    fun _ _ _ hreach hvalid hstep => hvalid.step (Represented.of_reachable hreach) hstep

/-! ## The outcomes that calls receive -/

/-- What the step of an ended lookup may do to the entries: only the entry that carries its number
changes, and it changes in its expiry only or goes. -/
def ChangesOnlyEntryOf (id : ℕ) (s s' : State K) : Prop :=
  (∀ key entry, s.entries.lookup key = some entry → entry.id ≠ id →
    s'.entries.lookup key = some entry) ∧
  ∀ key entry', s'.entries.lookup key = some entry' → ∃ entry,
    s.entries.lookup key = some entry ∧
      (entry' = entry ∨ entry.id = id ∧ entry' = { entry with expiresAt := entry'.expiresAt })

/-- Removing the entry of a lookup changes no entry of another lookup. -/
lemma changesOnlyEntryOf_removeLookup (s : State K) (key : K) (id : ℕ) :
    ChangesOnlyEntryOf id s (s.removeLookup key id) := by
  refine ⟨fun k entry h hid => ?_, fun k entry' h => ?_⟩
  · rw [State.lookup_removeLookup, if_neg, h]
    simp [h, hid]
  · rw [State.lookup_removeLookup] at h
    split_ifs at h
    exact ⟨entry', h, Or.inl rfl⟩

/-- The completion of a lookup changes no entry of another lookup. -/
lemma changesOnlyEntryOf_complete (s : State K) (key : K) (id ttl now lastInstant : ℕ) :
    ChangesOnlyEntryOf id s (s.complete key id ttl now lastInstant) := by
  by_cases httl : ttl = 0
  · rw [httl, State.complete_zero]
    exact changesOnlyEntryOf_removeLookup s key id
  · refine ⟨fun k entry h hid => ?_, fun k entry' h => ?_⟩
    · rw [State.lookup_complete_of_pos s key k now lastInstant httl, h]
      simp [hid]
    · rw [State.lookup_complete_of_pos s key k now lastInstant httl] at h
      obtain ⟨entry, hentry, rfl⟩ := Option.map_eq_some_iff.mp h
      refine ⟨entry, hentry, ?_⟩
      split_ifs with hcase
      · exact Or.inr ⟨hcase.2, rfl⟩
      · exact Or.inl rfl

/-- A step only starts a lookup for a key that has no usable entry.

**Proof sketch.** By the kind of the step. Only a call that misses adds a lookup, and the key of
that call has no usable entry, so it is another key. The end and the panic of a lookup change its
status but not its key. -/
lemma started_of_step {c : Config V E} {s s' : Sys K V E} {e : Event K V E}
    (h : step c s e = some s') {key : K} {entry : Entry}
    (hentry : s.state.entries.lookup key = some entry) (hfresh : entry.expired s.now = false)
    {id : ℕ} (hid : Started s' id key) : Started s id key := by
  have hupdate : ∀ {i : ℕ} {k : K} {ended : Status V E}, s.tasks i = some ⟨k, .running⟩ →
      (∃ status, Function.update s.tasks i (some ⟨k, ended⟩) id = some ⟨key, status⟩) →
      Started s id key := by
    rintro i k ended hrun ⟨status, hstatus⟩
    by_cases hi : id = i
    · rw [hi, Function.update_self] at hstatus
      exact ⟨.running, by rw [hi, hrun, (Task.mk.inj (Option.some.inj hstatus)).1]⟩
    · rw [Function.update_of_ne hi] at hstatus
      exact ⟨status, hstatus⟩
  rcases step_cases h with ⟨k, -, rfl⟩ | ⟨k, -, rfl⟩ | ⟨i, outcome, k, -, hrun, rfl⟩ |
    ⟨i, k, -, hrun, rfl⟩ | ⟨i, call, task, outcome, -, -, -, -, rfl⟩ | ⟨i, -, rfl⟩ | ⟨d, -, rfl⟩
  · rcases getWith_cases c s k with ⟨e, -, -, hget⟩ | ⟨hmiss, hget⟩
    · rw [hget] at hid
      exact hid
    · -- the call misses, so its key is not the one with the usable entry
      obtain ⟨status, hstatus⟩ := hid
      rw [hget] at hstatus
      by_cases hi : id = s.state.next + 1
      · simp only [hi, Function.update_self, Option.some.injEq, Task.mk.injEq] at hstatus
        rw [hmiss entry (hstatus.1 ▸ hentry)] at hfresh
        cases hfresh
      · simp only [Function.update_of_ne hi] at hstatus
        exact ⟨status, hstatus⟩
  · exact hid
  · exact hupdate hrun hid
  · exact hupdate hrun hid
  · exact hid
  · exact hid
  · exact hid

/-- **Valid outcomes.** In every reachable state of a cache:

* a call that has returned received the outcome of a lookup that was started for its key;
* if that lookup completed and its deadline can be represented, then the call started before the
  deadline, by the clock alone where the time to live is positive;
* if that lookup panicked or its outcome had a zero time to live, then the call started before
  its end;
* the end or the panic of a lookup changes only the entry that carries its number;
* no step starts a lookup for a key whose entry is usable, and a call for such a key joins the
  lookup of the entry; an entry whose deadline cannot be represented stays usable.

**Proof sketch.** The invariant `Valid` ties every waiting and every returned call to a task of its
key that served it when it started, and every entry to the task whose number it has. Each of the
seven kinds of steps keeps it; only the start of a lookup adds a task, and it is taken only where
the key has no usable entry. The parts read the invariant at a returned call or at an entry. -/
theorem serves_valid_outcomes (c : Config V E) {s : Sys K V E} (hs : (system K c).Reachable s) :
    (∀ call outcome, (call, outcome) ∈ s.returned → ∃ status,
      s.tasks call.lookup.task = some ⟨call.key, status⟩ ∧
      status.outcome c.lookupPanicked = some outcome) ∧
    (∀ call outcome, (call, outcome) ∈ s.returned → ∀ result m,
      s.tasks call.lookup.task = some ⟨call.key, .completed result m⟩ → ∀ deadline,
      checkedAdd c.lastInstant m.clock (c.ttl result) = some deadline →
        ¬ (⟨deadline, m.step⟩ : Moment) ≤ call.start ∧
        (c.ttl result ≠ 0 → call.start.clock < deadline)) ∧
    (∀ call outcome, (call, outcome) ∈ s.returned → ∀ status,
      s.tasks call.lookup.task = some ⟨call.key, status⟩ →
      (∀ result m, status = .completed result m → c.ttl result = 0 → call.start.step < m.step) ∧
      ∀ m, status = .panicked m → call.start.step < m.step) ∧
    (∀ id s', (∃ outcome, step c s (.finish id outcome) = some s') ∨
        step c s (.panic id) = some s' → ChangesOnlyEntryOf id s.state s'.state) ∧
    (∀ key entry, s.state.entries.lookup key = some entry →
      (entry.expired s.now = false →
        (∀ e s', step c s e = some s' → ∀ id, Started s' id key → Started s id key) ∧
        ∃ s', step c s (.getWith key) = some s' ∧
          s'.waiting = s.waiting ++ [⟨key, s.moment, entry.lookup⟩]) ∧
      ∀ result m, s.tasks entry.id = some ⟨key, .completed result m⟩ →
        checkedAdd c.lastInstant m.clock (c.ttl result) = none → entry.expired s.now = false) := by
  have hvalid := Valid.of_reachable hs
  have hcall : ∀ {call outcome status}, (call, outcome) ∈ s.returned →
      s.tasks call.lookup.task = some ⟨call.key, status⟩ → status.Serves c call.start := by
    intro call outcome status hmem htask
    obtain ⟨⟨-, -, status', htask', hserves⟩, -⟩ := hvalid.returned _ hmem
    rw [htask] at htask'
    exact (Task.mk.inj (Option.some.inj htask')).2 ▸ hserves
  refine ⟨fun call outcome hmem => (hvalid.returned _ hmem).2,
    fun call outcome hmem result m htask deadline hdeadline => ?_,
    fun call outcome hmem status htask => ?_, fun id s' h => ?_, fun key entry hentry => ?_⟩
  · have hsum : deadline = m.clock + c.ttl result := by
      unfold checkedAdd at hdeadline
      split_ifs at hdeadline
      exact (Option.some.inj hdeadline).symm
    rcases hcall hmem htask with ⟨hclock, hstep⟩ | ⟨httl, hbefore⟩
    · refine ⟨fun hle => ?_, fun httl => by omega⟩
      rcases hle with hlt | ⟨heq, hle⟩
      · simp only at hlt
        omega
      · simp only at heq hle
        omega
    · refine ⟨fun hle => ?_, fun _ => hbefore deadline hdeadline⟩
      have := hbefore deadline hdeadline
      rcases hle with hlt | ⟨heq, -⟩
      · simp only at hlt
        omega
      · simp only at heq
        omega
  · refine ⟨fun result m hstatus httl => ?_, fun m hstatus => ?_⟩
    · rw [hstatus] at htask
      rcases hcall hmem htask with ⟨-, hstep⟩ | ⟨hpos, -⟩
      · exact hstep
      · exact absurd httl hpos
    · rw [hstatus] at htask
      exact hcall hmem htask
  · rcases h with ⟨outcome, h⟩ | h
    · rcases step_cases h with ⟨_, he, _⟩ | ⟨_, he, _⟩ | ⟨i, o, key, he, -, rfl⟩ | ⟨_, _, he, _⟩ |
        ⟨_, _, _, _, he, _⟩ | ⟨_, he, _⟩ | ⟨_, he, _⟩ <;> cases he
      exact changesOnlyEntryOf_complete s.state key id _ _ _
    · rcases step_cases h with ⟨_, he, _⟩ | ⟨_, he, _⟩ | ⟨_, _, _, he, _⟩ | ⟨i, key, he, -, rfl⟩ |
        ⟨_, _, _, _, he, _⟩ | ⟨_, he, _⟩ | ⟨_, he, _⟩ <;> cases he
      exact changesOnlyEntryOf_removeLookup s.state key id
  · refine ⟨fun hfresh => ⟨fun e s' h id => started_of_step h hentry hfresh, _, rfl, ?_⟩,
      fun result m htask hnone => ?_⟩
    · rcases getWith_cases c s key with ⟨e, he, -, hget⟩ | ⟨hmiss, -⟩
      · rw [hentry] at he
        rw [hget, Option.some.inj he]
      · rw [hmiss entry hentry] at hfresh
        cases hfresh
    · obtain ⟨-, status, htask', hkeeps⟩ := hvalid.entries hentry
      rw [htask] at htask'
      obtain rfl := (Task.mk.inj (Option.some.inj htask')).2
      simp [Entry.expired, hkeeps.2, hnone]

/-- A call for key 7 that joins a cached outcome of 30 nanoseconds receives the outcome of the
lookup that the first call started. -/
theorem serves_valid_outcomes_hit :
    ∃ s : Sys ℕ ℕ ℕ, (system ℕ ⟨1, fun _ => 30, 1000, 0⟩).Reachable s ∧
      s.returned.length = 1 ∧ ∀ call outcome, (call, outcome) ∈ s.returned → ∃ status,
        s.tasks call.lookup.task = some ⟨call.key, status⟩ ∧ status.outcome 0 = some outcome := by
  let events : List (Event ℕ ℕ ℕ) :=
    [.getWith 7, .finish 1 (.ok 3), .advance 29, .getWith 7, .leave 0, .deliver 0]
  exact ⟨_, ⟨events, rfl⟩, rfl,
    (serves_valid_outcomes ⟨1, fun _ => 30, 1000, 0⟩ ⟨events, rfl⟩).1⟩

end PsStore.Cache
