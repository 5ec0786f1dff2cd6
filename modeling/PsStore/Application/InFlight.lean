import Mathlib.Data.Finmap
import PsStore.Lib.Transition

set_option relaxedAutoImplicit false
set_option autoImplicit false

/-!
# One shared computation per key while it runs

`InFlight` of `application/in_flight.rs` with its callers and its detached tasks, as a transition
system. The events are the stretches of code that run under the lock or between two awaits:

* `run` — a call takes the lock, joins the entry of its key or starts a task, and waits;
* `runCallPanics` — the closure that makes the computation panics under the lock, after a miss;
* `finish` — a computation ends with a value or a panic;
* `release` — the task of a computation that has ended drops its guard and completes;
* `deliver`, `leave` — a waiting call receives the result of its task, or is dropped.

A computation ends before its task drops the guard, and other threads may take the lock in between,
so these are two events. The counter `next` wraps like the `u64` of the source.

## Main definitions

* `InFlight.Sys`, `InFlight.Event`, `InFlight.system` — the states, the events and their steps.
* `InFlight.Task.IsLive` — the task has not completed.
* `InFlight.Tracked` — the entries are the live tasks, and every call is one of a task of its key.

## Main results

* `InFlight.step_cases` — what each event does.
* `InFlight.Tracked.of_reachable` — the invariant.
* `InFlight.single_flight` — one computation for a key at a time, whose result is what the calls
  that joined it receive, and whose entry ends with it.
-/

namespace PsStore.InFlight

/-! ## The system -/

/-- How a computation ends. -/
inductive Ending (V E : Type) where
  | value (outcome : Except E V)
  | panic
deriving DecidableEq

/-- What the calls of an ended computation receive. `lookupPanicked` stands for
`E::from(LookupPanicked)`. -/
def Ending.outcome {V E : Type} (lookupPanicked : E) : Ending V E → Except E V
  | value outcome => outcome
  | panic => .error lookupPanicked

/-- What has become of a task. -/
inductive Status (V E : Type) where
  /-- The computation has not ended. -/
  | running
  /-- The computation has ended, and the task has not dropped its guard. -/
  | ending (result : Ending V E)
  /-- The task has completed. -/
  | completed (result : Ending V E)
deriving DecidableEq

/-- A spawned task, with the key and the id of its guard. -/
structure Task (K V E : Type) where
  key : K
  id : UInt64
  status : Status V E

/-- The task has not completed. -/
def Task.IsLive {K V E : Type} (task : Task K V E) : Prop :=
  ∀ result, task.status ≠ .completed result

/-- A task whose status is not `completed` is live. -/
lemma Task.isLive_of_status {K V E : Type} {task : Task K V E} {status : Status V E}
    (h : task.status = status) (hstatus : ∀ result, status ≠ .completed result) : task.IsLive := by
  intro result hcompleted
  rw [h] at hcompleted
  exact hstatus result hcompleted

/-- An entry: the id of its run, and the task whose result its callers share. -/
structure Entry where
  id : UInt64
  shared : ℕ
deriving DecidableEq

/-- The state under the lock. -/
structure Runs (K : Type) where
  byKey : Finmap fun _ : K => Entry
  next : UInt64

/-- A `run` call that waits for the result of a task. -/
structure Call (K : Type) where
  key : K
  task : ℕ
deriving DecidableEq

/-- The computations with their callers and their tasks. -/
structure Sys (K V E : Type) where
  runs : Runs K
  /-- The number of tasks started so far. -/
  started : ℕ
  /-- The tasks by number. -/
  tasks : ℕ → Option (Task K V E)
  /-- The calls that wait. -/
  waiting : List (Call K)
  /-- The calls that have returned, with what they received. -/
  returned : List (Call K × Except E V)

/-- The events of the computations and their callers. -/
inductive Event (K V E : Type) where
  | run (key : K)
  | runCallPanics (key : K)
  | finish (task : ℕ) (result : Ending V E)
  | release (task : ℕ)
  | deliver (call : ℕ)
  | leave (call : ℕ)

variable {K V E : Type} [DecidableEq K]

/-- Removes the entry of `key` only when run `id` made it. -/
def Runs.remove (runs : Runs K) (key : K) (id : UInt64) : Runs K :=
  if (runs.byKey.lookup key).any fun entry => entry.id == id then
    { runs with byKey := runs.byKey.erase key }
  else runs

namespace Sys

/-- Before any call. -/
def start : Sys K V E where
  runs := { byKey := ∅, next := 0 }
  started := 0
  tasks := fun _ => none
  waiting := []
  returned := []

/-- A call that finds the entry of its key. -/
def join (s : Sys K V E) (key : K) (entry : Entry) : Sys K V E :=
  { s with waiting := s.waiting ++ [{ key, task := entry.shared }] }

/-- A call that finds no entry: it starts a task and inserts its entry. -/
def spawn (s : Sys K V E) (key : K) : Sys K V E :=
  let id := s.runs.next + 1
  { s with
    runs := { byKey := s.runs.byKey.insert key { id, shared := s.started }, next := id }
    started := s.started + 1
    tasks := Function.update s.tasks s.started (some { key, id, status := .running })
    waiting := s.waiting ++ [{ key, task := s.started }] }

/-- The status of a task changes. -/
def setStatus (s : Sys K V E) (t : ℕ) (task : Task K V E) (status : Status V E) : Sys K V E :=
  { s with tasks := Function.update s.tasks t (some { task with status }) }

/-- `InFlight::run` up to its await. -/
def run (s : Sys K V E) (key : K) : Sys K V E :=
  match s.runs.byKey.lookup key with
  | some entry => s.join key entry
  | none => s.spawn key

end Sys

/-- The step of an event, or `none` where the event cannot happen: only a running computation ends,
only the task of an ended one drops its guard, and only a call whose task has completed returns. -/
def step (lookupPanicked : E) (s : Sys K V E) : Event K V E → Option (Sys K V E)
  | .run key => some (s.run key)
  | .runCallPanics key =>
    match s.runs.byKey.lookup key with
    | some _ => none
    | none => some { s with runs := { s.runs with next := s.runs.next + 1 } }
  | .finish t result =>
    match s.tasks t with
    | some task => if task.status matches .running then some (s.setStatus t task (.ending result))
      else none
    | none => none
  | .release t =>
    match s.tasks t with
    | some task =>
      match task.status with
      | .ending result =>
        some { s.setStatus t task (.completed result) with
          runs := s.runs.remove task.key task.id }
      | _ => none
    | none => none
  | .deliver i =>
    match s.waiting[i]? with
    | none => none
    | some call =>
      match (s.tasks call.task).map Task.status with
      | some (.completed result) =>
        some { s with
          waiting := s.waiting.eraseIdx i
          returned := s.returned ++ [(call, result.outcome lookupPanicked)] }
      | _ => none
  | .leave i =>
    if i < s.waiting.length then some { s with waiting := s.waiting.eraseIdx i } else none

/-- The transition system. -/
def system (K V : Type) {E : Type} [DecidableEq K] (lookupPanicked : E) :
    TransitionSystem (Sys K V E) (Event K V E) where
  init := Sys.start
  step := step lookupPanicked

/-! ## What a step does -/

variable {lookupPanicked : E}

/-- The steps: a call that joins or starts a task, a miss whose closure panics, the end of a
computation, the completion of its task, and the return or the departure of a call. -/
lemma step_cases {s s' : Sys K V E} {e : Event K V E} (h : step lookupPanicked s e = some s') :
    (∃ key entry, e = .run key ∧ s.runs.byKey.lookup key = some entry ∧ s' = s.join key entry) ∨
    (∃ key, e = .run key ∧ s.runs.byKey.lookup key = none ∧ s' = s.spawn key) ∨
    (∃ key, e = .runCallPanics key ∧
      s' = { s with runs := { s.runs with next := s.runs.next + 1 } }) ∨
    (∃ t task result, e = .finish t result ∧ s.tasks t = some task ∧ task.status = .running ∧
      s' = s.setStatus t task (.ending result)) ∨
    (∃ t task result, e = .release t ∧ s.tasks t = some task ∧ task.status = .ending result ∧
      s' = { s.setStatus t task (.completed result) with
        runs := s.runs.remove task.key task.id }) ∨
    (∃ i call task result, e = .deliver i ∧ s.waiting[i]? = some call ∧
      s.tasks call.task = some task ∧ task.status = .completed result ∧
      s' = { s with
        waiting := s.waiting.eraseIdx i
        returned := s.returned ++ [(call, result.outcome lookupPanicked)] }) ∨
    (∃ i, e = .leave i ∧ s' = { s with waiting := s.waiting.eraseIdx i }) := by
  cases e with
  | run key =>
    obtain rfl : s.run key = s' := Option.some.inj h
    unfold Sys.run
    cases hentry : s.runs.byKey.lookup key with
    | some entry => exact Or.inl ⟨key, entry, rfl, hentry, rfl⟩
    | none => exact Or.inr (Or.inl ⟨key, rfl, hentry, rfl⟩)
  | runCallPanics key =>
    refine Or.inr (Or.inr (Or.inl ⟨key, rfl, ?_⟩))
    simp only [step] at h
    split at h
    · cases h
    · exact (Option.some.inj h).symm
  | finish t result =>
    refine Or.inr (Or.inr (Or.inr (Or.inl ?_)))
    simp only [step] at h
    split at h
    · rename_i task htask
      split_ifs at h with hrunning
      refine ⟨t, task, result, rfl, htask, ?_, (Option.some.inj h).symm⟩
      cases hstatus : task.status with
      | running => rfl
      | ending result => simp [hstatus] at hrunning
      | completed result => simp [hstatus] at hrunning
    · cases h
  | release t =>
    refine Or.inr (Or.inr (Or.inr (Or.inr (Or.inl ?_))))
    simp only [step] at h
    split at h
    · rename_i task htask
      split at h
      · rename_i result hstatus
        exact ⟨t, task, result, rfl, htask, hstatus, (Option.some.inj h).symm⟩
      · cases h
    · cases h
  | deliver i =>
    refine Or.inr (Or.inr (Or.inr (Or.inr (Or.inr (Or.inl ?_)))))
    simp only [step] at h
    split at h
    · cases h
    · rename_i call hcall
      split at h
      · rename_i result hstatus
        obtain ⟨task, htask, hstatus⟩ := Option.map_eq_some_iff.mp hstatus
        exact ⟨i, call, task, result, rfl, hcall, htask, hstatus, (Option.some.inj h).symm⟩
      · cases h
  | leave i =>
    refine Or.inr (Or.inr (Or.inr (Or.inr (Or.inr (Or.inr ⟨i, rfl, ?_⟩)))))
    simp only [step] at h
    split_ifs at h
    exact (Option.some.inj h).symm

/-! ## The invariant -/

/-- The entries are the live tasks under their keys, every waiting call is one of a task of its key,
and every call that returned received the result of its task. -/
structure Tracked (lookupPanicked : E) (s : Sys K V E) : Prop where
  live_of_entry : ∀ {key entry}, s.runs.byKey.lookup key = some entry →
    ∃ task, s.tasks entry.shared = some task ∧ task.key = key ∧ task.IsLive
  entry_of_live : ∀ {t task}, s.tasks t = some task → task.IsLive →
    s.runs.byKey.lookup task.key = some { id := task.id, shared := t }
  unstarted : ∀ {t}, s.started ≤ t → s.tasks t = none
  waiting : ∀ {call}, call ∈ s.waiting → ∃ task, s.tasks call.task = some task ∧
    task.key = call.key
  returned : ∀ {call outcome}, (call, outcome) ∈ s.returned → ∃ task result,
    s.tasks call.task = some task ∧ task.key = call.key ∧ task.status = .completed result ∧
      outcome = result.outcome lookupPanicked

namespace Tracked

/-- Before any call. -/
lemma start : Tracked lookupPanicked (Sys.start : Sys K V E) where
  live_of_entry := by simp [Sys.start]
  entry_of_live := by rintro t task ⟨⟩
  unstarted := fun _ => rfl
  waiting := by rintro call ⟨⟩
  returned := by rintro call outcome ⟨⟩

variable {s : Sys K V E}

/-- A call that joins waits for the task of its key. -/
lemma join (h : Tracked lookupPanicked s) {key : K} {entry : Entry}
    (hentry : s.runs.byKey.lookup key = some entry) :
    Tracked lookupPanicked (s.join key entry) where
  live_of_entry := h.live_of_entry
  entry_of_live := h.entry_of_live
  unstarted := h.unstarted
  waiting := by
    intro call hcall
    rcases List.mem_append.mp hcall with hcall | hcall
    · exact h.waiting hcall
    · obtain rfl := List.mem_singleton.mp hcall
      obtain ⟨task, htask, hkey, -⟩ := h.live_of_entry hentry
      exact ⟨task, htask, hkey⟩
  returned := h.returned

/-- The number of a task that is known is below the next one. -/
lemma lt_started (h : Tracked lookupPanicked s) {t : ℕ} {task : Task K V E}
    (htask : s.tasks t = some task) : t < s.started := by
  by_contra hle
  rw [h.unstarted (Nat.le_of_not_lt hle)] at htask
  cases htask

/-- A new task leaves the others as they are. -/
lemma tasks_spawn (h : Tracked lookupPanicked s) {key : K} {t : ℕ} {task : Task K V E}
    (htask : s.tasks t = some task) : (s.spawn key).tasks t = some task := by
  have hne : t ≠ s.started := (h.lt_started htask).ne
  show Function.update s.tasks s.started _ t = some task
  rw [Function.update_of_ne hne]
  exact htask

/-- A call that starts a task inserts its entry.

**Proof sketch.** The new task has the entry of its key and a number that no task had. No other live
task has the key, since it had no entry, so the other entries and tasks stay as they are; the new
call waits for the new task. -/
lemma spawn (h : Tracked lookupPanicked s) {key : K}
    (hnone : s.runs.byKey.lookup key = none) : Tracked lookupPanicked (s.spawn key) where
  live_of_entry := by
    intro k entry hentry
    by_cases hk : k = key
    · subst hk
      have hinserted : (s.spawn k).runs.byKey.lookup k =
          some { id := s.runs.next + 1, shared := s.started } := Finmap.lookup_insert _
      rw [hinserted] at hentry
      cases hentry
      refine ⟨{ key := k, id := s.runs.next + 1, status := .running }, ?_, rfl, nofun⟩
      exact Function.update_self ..
    · have hkept : (s.spawn key).runs.byKey.lookup k = s.runs.byKey.lookup k :=
        Finmap.lookup_insert_of_ne _ hk
      rw [hkept] at hentry
      obtain ⟨task, htask, hkey, hlive⟩ := h.live_of_entry hentry
      exact ⟨task, h.tasks_spawn htask, hkey, hlive⟩
  entry_of_live := by
    intro t task htask hlive
    by_cases ht : t = s.started
    · subst ht
      have hself : (s.spawn key).tasks s.started =
          some { key, id := s.runs.next + 1, status := .running } := Function.update_self ..
      rw [hself] at htask
      cases htask
      exact Finmap.lookup_insert _
    · have hother : (s.spawn key).tasks t = s.tasks t := Function.update_of_ne ht ..
      rw [hother] at htask
      have hentry := h.entry_of_live htask hlive
      have hk : task.key ≠ key := by
        rintro rfl
        rw [hnone] at hentry
        cases hentry
      rw [← hentry]
      exact Finmap.lookup_insert_of_ne _ hk
  unstarted := by
    intro t ht
    have hle : s.started + 1 ≤ t := ht
    have hother : (s.spawn key).tasks t = s.tasks t :=
      Function.update_of_ne (by omega) ..
    rw [hother]
    exact h.unstarted (by omega)
  waiting := by
    intro call hcall
    rcases List.mem_append.mp hcall with hcall | hcall
    · obtain ⟨task, htask, hkey⟩ := h.waiting hcall
      exact ⟨task, h.tasks_spawn htask, hkey⟩
    · obtain rfl := List.mem_singleton.mp hcall
      refine ⟨{ key, id := s.runs.next + 1, status := .running }, ?_, rfl⟩
      exact Function.update_self ..
  returned := by
    intro call outcome hcall
    obtain ⟨task, result, htask, hrest⟩ := h.returned hcall
    exact ⟨task, result, h.tasks_spawn htask, hrest⟩

omit [DecidableEq K] in
/-- A change of the status of a live task, seen from its calls. -/
lemma tasks_setStatus {t u : ℕ} {task other : Task K V E} (status : Status V E)
    (htask : s.tasks t = some task) (hother : s.tasks u = some other) :
    ∃ task', (s.setStatus t task status).tasks u = some task' ∧ task'.key = other.key ∧
      (u ≠ t → task' = other) := by
  by_cases hu : u = t
  · subst hu
    rw [htask] at hother
    cases hother
    exact ⟨{ task with status }, Function.update_self .., rfl, fun hne => absurd rfl hne⟩
  · refine ⟨other, ?_, rfl, fun _ => rfl⟩
    show Function.update s.tasks t _ u = some other
    rw [Function.update_of_ne hu]
    exact hother

/-- The calls keep their tasks while the status of a live task changes. -/
lemma calls_setStatus (h : Tracked lookupPanicked s) {t : ℕ} {task : Task K V E}
    (status : Status V E) (htask : s.tasks t = some task) (hlive : task.IsLive) :
    (∀ call ∈ s.waiting, ∃ task', (s.setStatus t task status).tasks call.task = some task' ∧
      task'.key = call.key) ∧
    ∀ call outcome, (call, outcome) ∈ s.returned → ∃ task' result,
      (s.setStatus t task status).tasks call.task = some task' ∧ task'.key = call.key ∧
        task'.status = .completed result ∧ outcome = result.outcome lookupPanicked := by
  constructor
  · intro call hcall
    obtain ⟨other, hother, hkey⟩ := h.waiting hcall
    obtain ⟨task', htask', hkey', -⟩ := tasks_setStatus status htask hother
    exact ⟨task', htask', hkey'.trans hkey⟩
  · intro call outcome hcall
    obtain ⟨other, result, hother, hkey, hcompleted, houtcome⟩ := h.returned hcall
    have hne : call.task ≠ t := by
      intro heq
      rw [heq, htask] at hother
      cases hother
      exact hlive result hcompleted
    obtain ⟨task', htask', hkey', hsame⟩ := tasks_setStatus status htask hother
    obtain rfl := hsame hne
    exact ⟨task', result, htask', hkey, hcompleted, houtcome⟩

/-- A task number that is not started has no task after a change of a status. -/
lemma unstarted_setStatus (h : Tracked lookupPanicked s) {t u : ℕ} {task : Task K V E}
    (status : Status V E) (htask : s.tasks t = some task) (hu : s.started ≤ u) :
    (s.setStatus t task status).tasks u = none := by
  have hne : u ≠ t := ((h.lt_started htask).trans_le hu).ne'
  show Function.update s.tasks t _ u = none
  rw [Function.update_of_ne hne]
  exact h.unstarted hu

/-- The end of a computation leaves the entries as they are.

**Proof sketch.** The task stays live, so its entry stays. The other tasks and the calls see nothing
of the new status. -/
lemma finish (h : Tracked lookupPanicked s) {t : ℕ} {task : Task K V E} {result : Ending V E}
    (htask : s.tasks t = some task) (hrunning : task.status = .running) :
    Tracked lookupPanicked (s.setStatus t task (.ending result)) := by
  have hlive : task.IsLive := Task.isLive_of_status hrunning nofun
  have hself : (s.setStatus t task (.ending result)).tasks t =
      some { task with status := .ending result } := Function.update_self ..
  obtain ⟨hwaiting, hreturned⟩ := h.calls_setStatus (.ending result) htask hlive
  constructor
  · intro key entry hentry
    obtain ⟨other, hother, hkey, hlive'⟩ := h.live_of_entry hentry
    obtain ⟨task', htask', hkey', hsame⟩ := tasks_setStatus (.ending result) htask hother
    refine ⟨task', htask', hkey'.trans hkey, ?_⟩
    by_cases ht : entry.shared = t
    · rw [ht, hself] at htask'
      cases htask'
      exact nofun
    · rw [hsame ht]
      exact hlive'
  · intro u other hother hlive'
    by_cases hu : u = t
    · rw [hu, hself] at hother
      cases hother
      rw [hu]
      show s.runs.byKey.lookup task.key = some { id := task.id, shared := t }
      exact h.entry_of_live htask hlive
    · have hkept : (s.setStatus t task (.ending result)).tasks u = s.tasks u :=
        Function.update_of_ne hu ..
      rw [hkept] at hother
      exact h.entry_of_live hother hlive'
  · exact h.unstarted_setStatus (.ending result) htask
  · exact hwaiting _
  · exact hreturned _ _

/-- The guard of a live task finds the entry that its own run made, and removes it. -/
lemma remove_eq_erase (h : Tracked lookupPanicked s) {t : ℕ} {task : Task K V E}
    (htask : s.tasks t = some task) (hlive : task.IsLive) :
    (s.runs.remove task.key task.id).byKey = s.runs.byKey.erase task.key := by
  unfold Runs.remove
  rw [h.entry_of_live htask hlive]
  simp

/-- The completion of a task removes its entry and no other one.

**Proof sketch.** The task that ends is no longer live, and its entry is erased. No other live task
has its key, and no other entry has its number, so what is left of both agrees as before. -/
lemma release (h : Tracked lookupPanicked s) {t : ℕ} {task : Task K V E} {result : Ending V E}
    (htask : s.tasks t = some task) (hending : task.status = .ending result) :
    Tracked lookupPanicked { s.setStatus t task (.completed result) with
      runs := s.runs.remove task.key task.id } := by
  have hlive : task.IsLive := Task.isLive_of_status hending nofun
  have herase := h.remove_eq_erase htask hlive
  have hself : (s.setStatus t task (.completed result)).tasks t =
      some { task with status := .completed result } := Function.update_self ..
  have hkept : ∀ u ≠ t, (s.setStatus t task (.completed result)).tasks u = s.tasks u :=
    fun u hu => Function.update_of_ne hu ..
  obtain ⟨hwaiting, hreturned⟩ := h.calls_setStatus (.completed result) htask hlive
  constructor
  · intro key entry hentry
    dsimp only at hentry
    rw [herase] at hentry
    have hkey : key ≠ task.key := by
      rintro rfl
      rw [Finmap.lookup_erase] at hentry
      cases hentry
    rw [Finmap.lookup_erase_ne hkey] at hentry
    obtain ⟨other, hother, hkey', hlive'⟩ := h.live_of_entry hentry
    have hne : entry.shared ≠ t := by
      intro heq
      rw [heq, htask] at hother
      cases hother
      exact hkey hkey'.symm
    exact ⟨other, (hkept _ hne).trans hother, hkey', hlive'⟩
  · intro u other hother hlive'
    by_cases hu : u = t
    · rw [hu] at hother
      have hother : some { task with status := .completed result } = some other :=
        hself.symm.trans hother
      cases hother
      exact absurd rfl (hlive' result)
    · have hother : s.tasks u = some other := (hkept u hu).symm.trans hother
      have hentry := h.entry_of_live hother hlive'
      dsimp only
      rw [herase]
      have hkey : other.key ≠ task.key := by
        intro heq
        rw [heq, h.entry_of_live htask hlive] at hentry
        exact hu (congrArg Entry.shared (Option.some.inj hentry)).symm
      rw [Finmap.lookup_erase_ne hkey]
      exact hentry
  · exact h.unstarted_setStatus (.completed result) htask
  · exact hwaiting _
  · exact hreturned _ _

/-- The invariant survives every step. -/
lemma step {s' : Sys K V E} (h : Tracked lookupPanicked s) {e : Event K V E}
    (hstep : InFlight.step lookupPanicked s e = some s') : Tracked lookupPanicked s' := by
  obtain ⟨key, entry, -, hentry, rfl⟩ | ⟨key, -, hnone, rfl⟩ | ⟨key, -, rfl⟩ |
    ⟨t, task, result, -, htask, hrunning, rfl⟩ | ⟨t, task, result, -, htask, hending, rfl⟩ |
    ⟨i, call, task, result, -, hcall, htask, hcompleted, rfl⟩ | ⟨i, -, rfl⟩ := step_cases hstep
  · exact h.join hentry
  · exact h.spawn hnone
  · exact ⟨h.live_of_entry, h.entry_of_live, h.unstarted, h.waiting, h.returned⟩
  · exact h.finish htask hrunning
  · exact h.release htask hending
  · refine ⟨h.live_of_entry, h.entry_of_live, h.unstarted,
      fun hmem => h.waiting (List.mem_of_mem_eraseIdx hmem), ?_⟩
    intro call' outcome hmem
    rcases List.mem_append.mp hmem with hmem | hmem
    · exact h.returned hmem
    · cases List.mem_singleton.mp hmem
      obtain ⟨task', htask', hkey⟩ := h.waiting (List.mem_of_getElem? hcall)
      rw [htask] at htask'
      cases htask'
      exact ⟨task, result, htask, hkey, hcompleted, rfl⟩
  · exact ⟨h.live_of_entry, h.entry_of_live, h.unstarted,
      fun hmem => h.waiting (List.mem_of_mem_eraseIdx hmem), h.returned⟩

/-- **The invariant of the entries.** -/
theorem of_reachable {s : Sys K V E} (hs : (system K V lookupPanicked).Reachable s) :
    Tracked lookupPanicked s :=
  hs.invariant start fun _ _ _ _ h hstep => h.step hstep

end Tracked

/-! ## Single flight -/

section

variable {s : Sys K V E}

/-- Two live tasks of one key are the same one. -/
lemma Tracked.live_unique (h : Tracked lookupPanicked s) {t u : ℕ} {task other : Task K V E}
    (htask : s.tasks t = some task) (hother : s.tasks u = some other) (hlive : task.IsLive)
    (hlive' : other.IsLive) (hkey : task.key = other.key) : t = u := by
  have hentry := h.entry_of_live htask hlive
  rw [hkey, h.entry_of_live hother hlive'] at hentry
  exact (congrArg Entry.shared (Option.some.inj hentry)).symm

/-- An entry stands exactly while its task is live. -/
lemma Tracked.entry_iff (h : Tracked lookupPanicked s) {key : K} {entry : Entry} :
    s.runs.byKey.lookup key = some entry ↔ ∃ task, s.tasks entry.shared = some task ∧
      task.IsLive ∧ task.key = key ∧ task.id = entry.id := by
  constructor
  · intro hentry
    obtain ⟨task, htask, hkey, hlive⟩ := h.live_of_entry hentry
    have hentry' := h.entry_of_live htask hlive
    rw [hkey, hentry] at hentry'
    exact ⟨task, htask, hlive, hkey, (congrArg Entry.id (Option.some.inj hentry')).symm⟩
  · rintro ⟨task, htask, hlive, rfl, hid⟩
    rw [h.entry_of_live htask hlive, hid]

/-- A call joins the live task of its key. -/
lemma Tracked.run_of_live (h : Tracked lookupPanicked s) {t : ℕ} {task : Task K V E}
    (htask : s.tasks t = some task) (hlive : task.IsLive) :
    s.run task.key = s.join task.key { id := task.id, shared := t } := by
  unfold Sys.run
  rw [h.entry_of_live htask hlive]

/-- A call of a key without a live task starts one. -/
lemma Tracked.run_of_not_live (h : Tracked lookupPanicked s) {key : K}
    (hnone : ∀ t task, s.tasks t = some task → task.key = key → ¬task.IsLive) :
    s.run key = s.spawn key := by
  unfold Sys.run
  cases hentry : s.runs.byKey.lookup key with
  | none => rfl
  | some entry =>
    obtain ⟨task, htask, hkey, hlive⟩ := h.live_of_entry hentry
    exact absurd hlive (hnone _ task htask hkey)

/-- The completion of a task removes the entry of that task and keeps the others. -/
lemma Tracked.lookup_release (h : Tracked lookupPanicked s) {t : ℕ} {task : Task K V E}
    (htask : s.tasks t = some task) (hlive : task.IsLive) (key : K) (entry : Entry) :
    (s.runs.remove task.key task.id).byKey.lookup key = some entry ↔
      s.runs.byKey.lookup key = some entry ∧ entry.shared ≠ t := by
  rw [h.remove_eq_erase htask hlive]
  by_cases hkey : key = task.key
  · subst hkey
    rw [Finmap.lookup_erase, h.entry_of_live htask hlive]
    constructor
    · intro h
      obtain ⟨⟩ := h
    · intro h
      obtain ⟨hentry, hne⟩ := h
      cases hentry
      exact absurd rfl hne
  · rw [Finmap.lookup_erase_ne hkey]
    constructor
    · intro hentry
      refine ⟨hentry, ?_⟩
      rintro rfl
      obtain ⟨other, hother, hkey', -⟩ := h.live_of_entry hentry
      rw [htask] at hother
      cases hother
      exact hkey hkey'.symm
    · exact And.left

/-- A running computation can end and its task can complete, whoever waits, and the entry of its
key is then gone. -/
lemma Tracked.ends (h : Tracked lookupPanicked s) {t : ℕ} {task : Task K V E}
    (htask : s.tasks t = some task) (hrunning : task.status = .running) (result : Ending V E) :
    ∃ s', (system K V lookupPanicked).run s [.finish t result, .release t] = some s' ∧
      s'.runs.byKey.lookup task.key = none ∧ s'.waiting = s.waiting := by
  have hfinish : InFlight.step lookupPanicked s (.finish t result) =
      some (s.setStatus t task (.ending result)) := by
    simp only [InFlight.step]
    rw [htask]
    dsimp only
    rw [if_pos (by simp [hrunning])]
  have hself : (s.setStatus t task (.ending result)).tasks t =
      some { task with status := .ending result } := Function.update_self ..
  have hlive : Task.IsLive { task with status := .ending result } := nofun
  have htracked : Tracked lookupPanicked (s.setStatus t task (.ending result)) :=
    h.finish htask hrunning
  refine ⟨{ (s.setStatus t task (.ending result)).setStatus t
      { task with status := .ending result } (.completed result) with
      runs := s.runs.remove task.key task.id }, ?_, ?_, rfl⟩
  · apply (TransitionSystem.run_cons _).mpr
    refine ⟨_, hfinish, ?_⟩
    apply (TransitionSystem.run_cons _).mpr
    refine ⟨_, ?_, rfl⟩
    show InFlight.step lookupPanicked (s.setStatus t task (.ending result)) (.release t) = _
    simp only [InFlight.step]
    rw [hself]
    rfl
  · have herase := htracked.remove_eq_erase hself hlive
    dsimp only at herase ⊢
    show Finmap.lookup task.key (s.runs.remove task.key task.id).byKey = none
    rw [show (s.runs.remove task.key task.id).byKey = _ from herase]
    exact Finmap.lookup_erase _ _

end

/-- **Single flight.** In every reachable state, whatever the order of the calls, the ends of the
computations and the departures of the callers:

* two tasks of one key that have not completed are the same task;
* a call that returned received the result of the task that it waited for, a task of its key, and
  the panic error where that panicked;
* a call that waits for a completed task is answered with its result;
* an entry stands exactly while its task has not completed;
* a call joins the task of its key that has not completed, and starts a new one where there is none;
* the completion of a task removes its own entry and no other one;
* a caller that leaves changes no task and no entry;
* a running computation can end, and its task can complete, whoever waits, and then the entry is
  gone.

**Proof sketch.** The invariant `Tracked` says that the entries of the map are the live tasks, each
under its key and with its number, that no two live tasks have one key, and that every call waits
for a task of its key. It holds at the start, and `step_cases` lists the seven kinds of steps that
keep it: a call joins or starts a task, a computation ends or panics, a task completes and takes out
the entry with its own number, a call is answered, or it leaves. The parts are then read off the
invariant, and for the steps off `step_cases`. -/
theorem single_flight {s : Sys K V E} (hs : (system K V lookupPanicked).Reachable s) :
    (∀ t u task other, s.tasks t = some task → s.tasks u = some other → task.IsLive →
      other.IsLive → task.key = other.key → t = u) ∧
    (∀ call outcome, (call, outcome) ∈ s.returned → ∃ task result,
      s.tasks call.task = some task ∧ task.key = call.key ∧ task.status = .completed result ∧
        outcome = result.outcome lookupPanicked) ∧
    (∀ i call task result, s.waiting[i]? = some call → s.tasks call.task = some task →
      task.status = .completed result → task.key = call.key ∧
        step lookupPanicked s (.deliver i) = some { s with
          waiting := s.waiting.eraseIdx i
          returned := s.returned ++ [(call, result.outcome lookupPanicked)] }) ∧
    (∀ key entry, s.runs.byKey.lookup key = some entry ↔ ∃ task,
      s.tasks entry.shared = some task ∧ task.IsLive ∧ task.key = key ∧ task.id = entry.id) ∧
    (∀ key s', step lookupPanicked s (.run key) = some s' →
      (∀ t task, s.tasks t = some task → task.IsLive → task.key = key →
        s'.tasks = s.tasks ∧ s'.waiting = s.waiting ++ [{ key, task := t }]) ∧
      ((∀ t task, s.tasks t = some task → task.key = key → ¬task.IsLive) →
        s.tasks s.started = none ∧
        s'.tasks s.started = some { key, id := s.runs.next + 1, status := .running } ∧
        s'.waiting = s.waiting ++ [{ key, task := s.started }])) ∧
    (∀ t s', step lookupPanicked s (.release t) = some s' → ∀ key entry,
      s'.runs.byKey.lookup key = some entry ↔
        s.runs.byKey.lookup key = some entry ∧ entry.shared ≠ t) ∧
    (∀ i s', step lookupPanicked s (.leave i) = some s' → s'.tasks = s.tasks ∧ s'.runs = s.runs) ∧
    ∀ t task, s.tasks t = some task → task.status = .running → ∀ result, ∃ s',
      (system K V lookupPanicked).run s [.finish t result, .release t] = some s' ∧
        s'.runs.byKey.lookup task.key = none := by
  have h := Tracked.of_reachable hs
  refine ⟨?_, ?_, ?_, ?_, ?_, ?_, ?_, ?_⟩
  · intro t u task other htask hother hlive hlive' hkey
    exact h.live_unique htask hother hlive hlive' hkey
  · intro call outcome hcall
    exact h.returned hcall
  · intro i call task result hcall htask hcompleted
    constructor
    · obtain ⟨task', htask', hkey⟩ := h.waiting (List.mem_of_getElem? hcall)
      rw [htask] at htask'
      cases htask'
      exact hkey
    · simp only [step]
      rw [hcall]
      dsimp only
      rw [htask, Option.map_some, hcompleted]
  · intro key entry
    exact h.entry_iff
  · intro key s' hstep
    obtain rfl : s.run key = s' := Option.some.inj hstep
    constructor
    · rintro t task htask hlive rfl
      rw [h.run_of_live htask hlive]
      exact ⟨rfl, rfl⟩
    · intro hnone
      rw [h.run_of_not_live hnone]
      exact ⟨h.unstarted le_rfl, Function.update_self .., rfl⟩
  · intro t s' hstep key entry
    obtain ⟨key', entry', he, -⟩ | ⟨key', he, -⟩ | ⟨key', he, -⟩ | ⟨t', task, result, he, -⟩ |
      ⟨t', task, result, he, htask, hending, rfl⟩ | ⟨i, call, task, result, he, -⟩ |
      ⟨i, he, -⟩ := step_cases hstep
    all_goals cases he
    exact h.lookup_release htask (Task.isLive_of_status hending nofun) key entry
  · intro i s' hstep
    obtain ⟨key', entry', he, -⟩ | ⟨key', he, -⟩ | ⟨key', he, -⟩ | ⟨t', task, result, he, -⟩ |
      ⟨t', task, result, he, -⟩ | ⟨j, call, task, result, he, -⟩ |
      ⟨j, he, rfl⟩ := step_cases hstep
    all_goals cases he
    exact ⟨rfl, rfl⟩
  · intro t task htask hrunning result
    obtain ⟨s', hrun, hnone, -⟩ := h.ends htask hrunning result
    exact ⟨s', hrun, hnone⟩

/-- Two calls of the key 7 share a task, one of them leaves, the computation panics, and a later
call starts a new task. -/
def sharedRun : List (Event ℕ ℕ ℕ) :=
  [.run 7, .run 7, .leave 0, .finish 0 .panic, .release 0, .deliver 0, .run 7]

/-- The call that stayed received the panic error of its task, and the last call waits for another
task. -/
theorem single_flight_sharedRun :
    ∃ s, (system ℕ ℕ 500).Reachable s ∧ s.returned = [({ key := 7, task := 0 }, .error 500)] ∧
      s.waiting = [{ key := 7, task := 1 }] ∧
      ∃ task result, s.tasks 0 = some task ∧ task.key = 7 ∧ task.status = .completed result ∧
        Except.error 500 = result.outcome 500 := by
  refine ⟨_, ⟨sharedRun, rfl⟩, rfl, rfl, ?_⟩
  exact (@single_flight ℕ ℕ ℕ _ 500 _ ⟨sharedRun, rfl⟩).2.1 { key := 7, task := 0 } (.error 500)
    (List.mem_singleton.mpr rfl)

end PsStore.InFlight
