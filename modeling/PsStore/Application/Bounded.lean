import PsStore.Lib.Transition
import PsStore.Lib.Unordered

set_option relaxedAutoImplicit false
set_option autoImplicit false

/-!
# Bounded concurrent lookups

`in_order_bounded` of `application/bounded.rs`, one step at a time. The stream of `buffer_unordered`
starts the lookup of the next item while fewer than `limit` lookups run, and any running lookup may
end next. The outputs come with the indices of their items, and sorting by the index restores the
order. The rounds of `PsStore.Lib.Unordered` are one kind of run of this system.

## Main definitions

* `BoundedState`, `BoundedEvent`, `bounded` — the state, the two steps, and the system.
* `inOrder` — the outputs sorted by index.
* `BoundedState.Accounted` — the invariant: each item waits, runs or has ended.

## Main results

* `accounted_of_run` — the invariant holds on every run, and each step is one of two for each item.
* `exists_start_of_finish` — a lookup that ends lets the next item start.
* `isEnded_of_stuck`, `eq_of_isEnded` — a run that cannot go on has looked up every item once, in
  order.
* `inOrderBounded_refines` — the whole function refines a sequential map.
-/

namespace PsStore

universe u v

variable {α : Type u} {β : Type v}

/-! ## The system -/

/-- The state of one call. -/
structure BoundedState (α : Type u) (β : Type v) where
  /-- The items whose lookup has not started, with their indices. -/
  waiting : List (ℕ × α)
  /-- The lookups that were started, in the order of their start. -/
  calls : List (ℕ × α)
  /-- The lookups that run. -/
  running : List (ℕ × α)
  /-- The outputs, in the order in which the lookups ended. -/
  outputs : List (ℕ × β)

/-- What can happen next. -/
inductive BoundedEvent where
  /-- The stream starts the lookup of the next item. -/
  | start
  /-- The running lookup at this place ends. -/
  | finish (place : ℕ)

/-- One step. A lookup starts only while fewer than `limit` of them run. -/
def boundedStep (limit : ℕ) (lookup : ℕ → α → β) (s : BoundedState α β) :
    BoundedEvent → Option (BoundedState α β)
  | .start =>
    match s.waiting with
    | [] => none
    | next :: rest =>
      if s.running.length < limit then
        some { s with
          waiting := rest
          calls := s.calls ++ [next]
          running := s.running ++ [next] }
      else none
  | .finish place =>
    match s.running[place]? with
    | none => none
    | some (index, item) =>
      some { s with
        running := s.running.eraseIdx place
        outputs := s.outputs ++ [(index, lookup index item)] }

/-- The call on a list of items. -/
def bounded (limit : ℕ) (lookup : ℕ → α → β) (items : List α) :
    TransitionSystem (BoundedState α β) BoundedEvent where
  init := { waiting := items.mapIdx Prod.mk, calls := [], running := [], outputs := [] }
  step := boundedStep limit lookup

/-- The outputs sorted by the index of their item, without it. -/
def inOrder (outputs : List (ℕ × β)) : List β :=
  (outputs.insertionSort fun a b => a.1 ≤ b.1).map Prod.snd

variable {limit : ℕ} {lookup : ℕ → α → β} {items : List α} {s s' : BoundedState α β}

/-- What a start does. -/
lemma boundedStep_start_iff :
    boundedStep limit lookup s .start = some s' ↔
      ∃ next rest, s.waiting = next :: rest ∧ s.running.length < limit ∧
        s' = { s with
          waiting := rest
          calls := s.calls ++ [next]
          running := s.running ++ [next] } := by
  simp only [boundedStep]
  constructor
  · intro h
    cases hwaiting : s.waiting with
    | nil => rw [hwaiting] at h; cases h
    | cons next rest =>
      rw [hwaiting] at h
      dsimp only at h
      split_ifs at h with hlt
      exact ⟨next, rest, rfl, hlt, (Option.some.inj h).symm⟩
  · intro h
    obtain ⟨next, rest, hwaiting, hlt, rfl⟩ := h
    rw [hwaiting]
    exact if_pos hlt

/-- What the end of a lookup does. -/
lemma boundedStep_finish_iff {place : ℕ} :
    boundedStep limit lookup s (.finish place) = some s' ↔
      ∃ call, s.running[place]? = some call ∧
        s' = { s with
          running := s.running.eraseIdx place
          outputs := s.outputs ++ [(call.1, lookup call.1 call.2)] } := by
  simp only [boundedStep]
  constructor
  · intro h
    cases hplace : s.running[place]? with
    | none => rw [hplace] at h; cases h
    | some call =>
      rw [hplace] at h
      exact ⟨call, rfl, (Option.some.inj h).symm⟩
  · intro h
    obtain ⟨call, hcall, rfl⟩ := h
    rw [hcall]

/-! ## The invariant -/

/-- The output of a lookup, with the index of its item. -/
def outputOf (lookup : ℕ → α → β) (call : ℕ × α) : ℕ × β := (call.1, lookup call.1 call.2)

/-- Each item waits, runs or has ended, and no more than `limit` lookups run. -/
structure BoundedState.Accounted (limit : ℕ) (lookup : ℕ → α → β) (items : List α)
    (s : BoundedState α β) : Prop where
  /-- At most `limit` lookups run. -/
  bound : s.running.length ≤ limit
  /-- The started lookups and the waiting items are the items, in order. -/
  calls : s.calls ++ s.waiting = items.mapIdx Prod.mk
  /-- A started lookup runs or has ended with its output. -/
  ended : (s.running.map (outputOf lookup) ++ s.outputs).Perm (s.calls.map (outputOf lookup))

/-- The steps that are left at most: two for a waiting item, one for a running lookup. -/
def BoundedState.left (s : BoundedState α β) : ℕ := 2 * s.waiting.length + s.running.length

/-- Every item has been looked up. -/
def BoundedState.isEnded (s : BoundedState α β) : Bool := s.waiting.isEmpty && s.running.isEmpty

open BoundedState

/-- A run has ended where nothing waits and nothing runs. -/
lemma isEnded_iff : s.isEnded = true ↔ s.waiting = [] ∧ s.running = [] := by
  rw [isEnded, Bool.and_eq_true, List.isEmpty_iff, List.isEmpty_iff]

/-- **The invariant survives a step**, and each step leaves one less.

**Proof sketch.** A start moves the next item to the running lookups, and a finish moves the output
of a running lookup to the ended ones; either way the outputs are those of the calls in another
order. Each of them leaves one step less: a waiting item counts for two and a running one for one.
-/
lemma BoundedState.Accounted.step (h : s.Accounted limit lookup items) {e : BoundedEvent}
    (hstep : boundedStep limit lookup s e = some s') :
    s'.Accounted limit lookup items ∧ s'.left + 1 = s.left := by
  cases e with
  | start =>
    obtain ⟨next, rest, hwaiting, hlt, rfl⟩ := boundedStep_start_iff.mp hstep
    refine ⟨⟨?_, ?_, ?_⟩, ?_⟩
    · rw [List.length_append]
      exact hlt
    · rw [List.append_assoc, ← h.calls, hwaiting]
      rfl
    · -- the new lookup is the last one of both lists
      show ((s.running ++ [next]).map (outputOf lookup) ++ s.outputs).Perm
        ((s.calls ++ [next]).map (outputOf lookup))
      rw [List.map_append, List.map_append, List.append_assoc]
      refine (List.perm_append_comm.append_left _).trans ?_
      rw [← List.append_assoc]
      exact h.ended.append_right _
    · simp only [left, hwaiting, List.length_append, List.length_cons, List.length_nil]
      omega
  | finish place =>
    obtain ⟨call, hcall, rfl⟩ := boundedStep_finish_iff.mp hstep
    obtain ⟨hplace, rfl⟩ := List.getElem?_eq_some_iff.mp hcall
    have hlength := List.length_eraseIdx_of_lt hplace
    refine ⟨⟨?_, h.calls, ?_⟩, ?_⟩
    · show (s.running.eraseIdx place).length ≤ limit
      have := h.bound
      omega
    · -- the output moves from the running lookups to the ended ones
      show ((s.running.eraseIdx place).map (outputOf lookup) ++
        (s.outputs ++ [outputOf lookup s.running[place]])).Perm _
      refine List.Perm.trans ?_ h.ended
      have hmoved := (List.getElem_cons_eraseIdx_perm hplace).map (outputOf lookup)
      refine List.Perm.trans ?_ (hmoved.append_right s.outputs)
      rw [← List.append_assoc]
      exact List.perm_append_singleton _ _
    · simp only [left]
      omega

/-- **The invariant on every run.** Each step of the run is one of the two of an item.

**Proof sketch.** By induction on the run, from any state that keeps the account: a step keeps it
and takes one from what is left (`Accounted.step`). -/
theorem accounted_of_run {es : List BoundedEvent}
    (hrun : (bounded limit lookup items).run (bounded limit lookup items).init es = some s) :
    s.Accounted limit lookup items ∧ es.length + s.left = 2 * items.length := by
  have hgeneral : ∀ (es : List BoundedEvent) (m : BoundedState α β),
      m.Accounted limit lookup items → (bounded limit lookup items).run m es = some s →
      s.Accounted limit lookup items ∧ es.length + s.left = m.left := by
    intro es
    induction es with
    | nil =>
      intro m hm hrun
      obtain rfl : m = s := by simpa using hrun
      exact ⟨hm, Nat.zero_add _⟩
    | cons e es ih =>
      intro m hm hrun
      obtain ⟨m', hstep, hrest⟩ := (TransitionSystem.run_cons _).mp hrun
      obtain ⟨hm', hleft⟩ := hm.step hstep
      obtain ⟨hs, hlength⟩ := ih m' hm' hrest
      refine ⟨hs, ?_⟩
      rw [List.length_cons]
      omega
  have hinit : (bounded limit lookup items).init.Accounted limit lookup items :=
    ⟨Nat.zero_le _, rfl, List.Perm.refl _⟩
  obtain ⟨hs, hlength⟩ := hgeneral es _ hinit hrun
  refine ⟨hs, hlength.trans ?_⟩
  simp [left, bounded]

/-! ## What the lookups do -/

/-- **A lookup that ends lets the next item start**, whichever other lookups still run. -/
theorem exists_start_of_finish (h : s.Accounted limit lookup items) {place : ℕ}
    (hfinish : boundedStep limit lookup s (.finish place) = some s') {next : ℕ × α}
    {rest : List (ℕ × α)} (hwaiting : s'.waiting = next :: rest) :
    ∃ s'', boundedStep limit lookup s' .start = some s'' ∧
      s''.running = s.running.eraseIdx place ++ [next] := by
  obtain ⟨call, hcall, rfl⟩ := boundedStep_finish_iff.mp hfinish
  obtain ⟨hplace, -⟩ := List.getElem?_eq_some_iff.mp hcall
  have hlength := List.length_eraseIdx_of_lt hplace
  have hlt : (s.running.eraseIdx place).length < limit := by
    have := h.bound
    omega
  exact ⟨_, boundedStep_start_iff.mpr ⟨next, rest, hwaiting, hlt, rfl⟩, rfl⟩

/-- A run that cannot go on has ended. -/
lemma isEnded_of_stuck (hlimit : 1 ≤ limit) (hstuck : ∀ e, boundedStep limit lookup s e = none) :
    s.isEnded = true := by
  have hrunning : s.running = [] := by
    by_contra hne
    have hplace : 0 < s.running.length := List.length_pos_iff.mpr hne
    have hfinish : ∃ m, boundedStep limit lookup s (.finish 0) = some m :=
      ⟨_, boundedStep_finish_iff.mpr ⟨_, List.getElem?_eq_getElem hplace, rfl⟩⟩
    obtain ⟨m, hm⟩ := hfinish
    rw [hstuck] at hm
    cases hm
  have hwaiting : s.waiting = [] := by
    cases hnext : s.waiting with
    | nil => rfl
    | cons next rest =>
      have hlt : s.running.length < limit := by
        rw [hrunning]
        exact hlimit
      have hstart : ∃ m, boundedStep limit lookup s .start = some m :=
        ⟨_, boundedStep_start_iff.mpr ⟨next, rest, hnext, hlt, rfl⟩⟩
      obtain ⟨m, hm⟩ := hstart
      rw [hstuck] at hm
      cases hm
  exact isEnded_iff.mpr ⟨hwaiting, hrunning⟩

/-- **What an ended run has done.** Every item was looked up once, in order, and the outputs sorted
by index are those of looking up the items one after the other. -/
theorem eq_of_isEnded (h : s.Accounted limit lookup items) (hended : s.isEnded = true) :
    s.calls = items.mapIdx Prod.mk ∧ inOrder s.outputs = items.mapIdx lookup := by
  obtain ⟨hwaiting, hrunning⟩ := isEnded_iff.mp hended
  have hcalls : s.calls = items.mapIdx Prod.mk := by
    have hall := h.calls
    rw [hwaiting, List.append_nil] at hall
    exact hall
  refine ⟨hcalls, ?_⟩
  have houtputs := h.ended
  rw [hrunning, hcalls, List.map_nil, List.nil_append] at houtputs
  apply map_snd_insertionSort_of_perm
  refine houtputs.trans (List.Perm.of_eq ?_)
  simp [List.mapIdx_eq_zipIdx_map, outputOf, Function.comp_def]

/-! ## The rounds as a run -/

/-- The state as a buffer, without the record of the started lookups. -/
def BoundedState.buffer (s : BoundedState α β) : Buffer α β := ⟨s.waiting, s.running, s.outputs⟩

/-- Filling the buffer is a run of starts. -/
lemma exists_run_fill (items : List α) (s : BoundedState α β) :
    ∃ es s', (bounded limit lookup items).run s es = some s' ∧
      s'.buffer = s.buffer.fill limit := by
  generalize hroom : limit - s.running.length = room
  induction room generalizing s with
  | zero => exact ⟨[], s, rfl, by simp [buffer, Buffer.fill, hroom]⟩
  | succ room ih =>
    cases hwaiting : s.waiting with
    | nil => exact ⟨[], s, rfl, by simp [buffer, Buffer.fill, hwaiting]⟩
    | cons next rest =>
      have hstart : boundedStep limit lookup s .start = some { s with
          waiting := rest
          calls := s.calls ++ [next]
          running := s.running ++ [next] } :=
        boundedStep_start_iff.mpr ⟨next, rest, hwaiting, by omega, rfl⟩
      obtain ⟨es, s', hrun, hbuffer⟩ := ih { s with
        waiting := rest
        calls := s.calls ++ [next]
        running := s.running ++ [next] } (by simp; omega)
      refine ⟨.start :: es, s', (TransitionSystem.run_cons _).mpr ⟨_, hstart, hrun⟩, ?_⟩
      have hnext : limit - (s.running ++ [next]).length = room := by
        rw [List.length_append, List.length_singleton]
        omega
      rw [hbuffer]
      simp only [buffer, Buffer.fill, hroom, hnext, hwaiting, List.drop_succ_cons,
        List.take_succ_cons, List.append_assoc, List.singleton_append]

/-- Ending the chosen lookup is a step. -/
lemma exists_step_finish (limit : ℕ) (lookup : ℕ → α → β) (choice : ℕ)
    (hrunning : 0 < s.running.length) :
    ∃ e s', boundedStep limit lookup s e = some s' ∧
      s'.buffer = s.buffer.finish lookup choice := by
  have hplace : choice % s.running.length < s.running.length := Nat.mod_lt _ hrunning
  have hcall := List.getElem?_eq_getElem hplace
  refine ⟨_, _, boundedStep_finish_iff.mpr ⟨_, hcall, rfl⟩, ?_⟩
  simp only [buffer, Buffer.finish, hcall]

/-- Rounds of the stream are a run. -/
lemma exists_run_rounds (hlimit : 1 ≤ limit) (items : List α) (pick : ℕ → ℕ) (n : ℕ)
    (s : BoundedState α β) (hn : s.buffer.remaining = n) :
    ∃ es s', (bounded limit lookup items).run s es = some s' ∧
      s'.buffer = Buffer.rounds limit lookup pick n s.buffer := by
  induction n generalizing s with
  | zero => exact ⟨[], s, rfl, rfl⟩
  | succ n ih =>
    obtain ⟨starts, filled, hstarts, hfilled⟩ := exists_run_fill items s
    have hrunning : 0 < filled.buffer.running.length := by
      rw [hfilled]
      exact Buffer.running_fill hlimit _ (by omega)
    obtain ⟨e, m, hstep, hm⟩ := exists_step_finish limit lookup
      (pick s.buffer.ended.length) hrunning
    have hremaining : m.buffer.remaining = n := by
      have hone := (Buffer.finish_spec lookup (pick s.buffer.ended.length) hrunning).2
      have hall := Buffer.remaining_fill limit s.buffer
      rw [hm]
      rw [hfilled] at hone ⊢
      omega
    obtain ⟨es, s', hrest, hs'⟩ := ih m hremaining
    refine ⟨starts ++ e :: es, s', ?_, ?_⟩
    · exact (TransitionSystem.run_append _).mpr
        ⟨filled, hstarts, (TransitionSystem.run_cons _).mpr ⟨m, hstep, hrest⟩⟩
    · rw [hs', hm, hfilled]
      rfl

/-- **The stream of the model is a run to the end.**

**Proof sketch.** The recursion of the stream is a run of rounds (`exists_run_rounds`), with the
same outputs. They are as many as the items, so by the account nothing waits and nothing runs at the
end, and no event is left. -/
theorem exists_run_inOrderBounded (hlimit : 1 ≤ limit) (lookup : ℕ → α → β) (items : List α)
    (pick : ℕ → ℕ) :
    ∃ es s, (bounded limit lookup items).run (bounded limit lookup items).init es = some s ∧
      (∀ e, boundedStep limit lookup s e = none) ∧
      inOrderBounded pick limit lookup items = inOrder s.outputs := by
  have hn : (bounded limit lookup items).init.buffer.remaining = items.length := by
    simp [bounded, buffer, Buffer.remaining]
  obtain ⟨es, s, hrun, hs⟩ := exists_run_rounds hlimit items pick items.length _ hn
  have houtputs : s.outputs = unorderedBounded pick limit lookup items :=
    congrArg Buffer.ended hs
  obtain ⟨haccounted, -⟩ := accounted_of_run hrun
  have hlength : s.outputs.length = items.length := by
    rw [houtputs, (unorderedBounded_perm pick lookup hlimit items).length_eq, List.length_mapIdx]
  have hended := haccounted.ended.length_eq
  have hcalls := congrArg List.length haccounted.calls
  simp only [List.length_append, List.length_map, List.length_mapIdx] at hended hcalls
  have hrunning : s.running = [] := List.eq_nil_of_length_eq_zero (by omega)
  have hwaiting : s.waiting = [] := List.eq_nil_of_length_eq_zero (by omega)
  refine ⟨es, s, hrun, fun e => ?_, ?_⟩
  · cases e with
    | start => simp only [boundedStep, hwaiting]
    | finish place => simp only [boundedStep, hrunning, List.getElem?_nil]
  · rw [inOrderBounded, ← houtputs]
    rfl

/-! ## The refinement -/

/-- **The function refines a sequential map.** For every order in which the started lookups end, at
any moment:

* at most `limit` lookups run;
* the started lookups are the first items, each once and in order;
* the run has at most two steps for each item, so it ends;
* a lookup that ends lets the next item start at once;
* where the run cannot go on, every item was looked up and the result holds, in the order of the
  items, the output of each one's lookup.

The stream of the model is such a run.

**Proof sketch.** `BoundedState.Accounted` says that the waiting, the running and the ended items
are the items, each once, and it counts the steps that are left; a step keeps it and takes one away.
A run that cannot go on has nothing that waits and nothing that runs, so its outputs, put in order,
are the outputs of the items. The stream of the model makes such a run, by its own recursion. -/
theorem inOrderBounded_refines (lookup : ℕ → α → β) (items : List α) {limit : ℕ}
    (hlimit : 1 ≤ limit) :
    (∀ es s, (bounded limit lookup items).run (bounded limit lookup items).init es = some s →
      s.running.length ≤ limit ∧
      s.calls <+: items.mapIdx Prod.mk ∧
      es.length ≤ 2 * items.length ∧
      (∀ place s', boundedStep limit lookup s (.finish place) = some s' → ∀ next rest,
        s'.waiting = next :: rest → ∃ s'', boundedStep limit lookup s' .start = some s'' ∧
          s''.running = s.running.eraseIdx place ++ [next]) ∧
      ((∀ e, boundedStep limit lookup s e = none) →
        s.calls = items.mapIdx Prod.mk ∧ inOrder s.outputs = items.mapIdx lookup)) ∧
    ∀ pick, ∃ es s,
      (bounded limit lookup items).run (bounded limit lookup items).init es = some s ∧
        (∀ e, boundedStep limit lookup s e = none) ∧
        inOrderBounded pick limit lookup items = inOrder s.outputs := by
  constructor
  · intro es s hrun
    obtain ⟨haccounted, hleft⟩ := accounted_of_run hrun
    refine ⟨haccounted.bound, ⟨s.waiting, haccounted.calls⟩, by omega, ?_, ?_⟩
    · intro place s' hfinish next rest hwaiting
      exact exists_start_of_finish haccounted hfinish hwaiting
    · exact fun hstuck => eq_of_isEnded haccounted (isEnded_of_stuck hlimit hstuck)
  · intro pick
    exact exists_run_inOrderBounded hlimit lookup items pick

/-- The steps of a call with three items and two slots: the second lookup ends first, and the third
one starts. -/
def sampleSteps : List BoundedEvent :=
  [.start, .start, .finish 1, .start, .finish 1, .finish 0]

/-- The three outputs of the sample are in order. -/
theorem inOrderBounded_refines_three :
    ∃ s, (bounded 2 (fun _ n => 10 * n) [1, 2, 3]).run
        (bounded 2 (fun _ n => 10 * n) [1, 2, 3]).init sampleSteps = some s ∧
      s.running.length ≤ 2 ∧ inOrder s.outputs = [10, 20, 30] := by
  obtain ⟨hruns, -⟩ := @inOrderBounded_refines ℕ ℕ (fun _ n => 10 * n) [1, 2, 3] 2 (by decide)
  refine ⟨_, rfl, ?_⟩
  obtain ⟨hbound, -, -, -, hend⟩ := hruns sampleSteps _ rfl
  refine ⟨hbound, (hend ?_).2⟩
  intro e
  cases e with
  | start => rfl
  | finish place => rfl

end PsStore
