import Mathlib.Data.List.Induction
import Mathlib.Logic.Basic
import Mathlib.Tactic.TypeStar

set_option relaxedAutoImplicit false
set_option autoImplicit false

/-!
# Labelled transition systems with deterministic steps

A system has an initial state and a partial step function: an event takes a state to at most
one state, and an event that cannot happen in a state has no step there. The order of the
events is free, so a fact about every reachable state is a fact about every interleaving.

## Main definitions

* `TransitionSystem` — an initial state and the step of an event.
* `TransitionSystem.run` — the state after a list of events.
* `TransitionSystem.Reachable` — the states that some run reaches.
* `TransitionSystem.Meets` — the runs all of whose steps meet a condition.
* `TransitionSystem.Simulates` — each step of a system is a run of another one.

## Main results

* `TransitionSystem.run_append` — a run of `es ++ es'` is a run of `es` followed by one of `es'`.
* `TransitionSystem.Reachable.invariant` — what holds initially and survives every step from a
  reachable state holds in every reachable state.
* `TransitionSystem.Reachable.run_invariant` — the same from any reachable state on.
* `TransitionSystem.Meets.invariant` — what survives every step that meets a condition holds at the
  end of every run whose steps meet it.
* `TransitionSystem.history_invariant` — the invariant rule for facts about the events of the run.
* `TransitionSystem.Simulates.reachable` — a system whose steps are runs of another one reaches
  only what the other one reaches.
* `TransitionSystem.run_related` — where related states step to related states by matching events,
  a run has a related run of the matching events.
-/

universe u v

/-- A transition system over states `σ` and events `ε`: the initial state and the partial step
of an event. -/
structure TransitionSystem (σ : Type u) (ε : Type v) where
  /-- The state before any event. -/
  init : σ
  /-- The state after an event, or `none` where the event cannot happen. -/
  step : σ → ε → Option σ

namespace TransitionSystem

variable {σ : Type u} {ε : Type v} (S : TransitionSystem σ ε)

/-- The state after the events `es`, first event first. -/
def run : σ → List ε → Option σ
  | s, [] => some s
  | s, e :: es => (S.step s e).bind fun s' => run s' es

/-- The state `s` is the end of some run from the initial state. -/
def Reachable (s : σ) : Prop := ∃ es, S.run S.init es = some s

/-- Every step of the run of `es` from `s` meets the condition `C` on the state before it and its
event. -/
def Meets (C : σ → ε → Prop) : σ → List ε → Prop
  | _, [] => True
  | s, e :: es => C s e ∧ ∀ s', S.step s e = some s' → Meets C s' es

instance decidableMeets (C : σ → ε → Prop) [∀ s e, Decidable (C s e)] :
    (s : σ) → (es : List ε) → Decidable (S.Meets C s es)
  | _, [] => isTrue trivial
  | s, e :: es =>
    match h : S.step s e with
    | none => decidable_of_iff (C s e) (by simp [Meets, h])
    | some m =>
      have := decidableMeets C m es
      decidable_of_iff (C s e ∧ S.Meets C m es) (by simp [Meets, h])

/-- The empty run ends where it starts. -/
@[simp] lemma run_nil (s : σ) : S.run s [] = some s := rfl

/-- A run of `e :: es` steps by `e` and runs `es` from there. -/
lemma run_cons {s s' : σ} {e : ε} {es : List ε} :
    S.run s (e :: es) = some s' ↔ ∃ m, S.step s e = some m ∧ S.run m es = some s' := by
  simp [run, Option.bind_eq_some_iff]

/-- A run of `es ++ es'` is a run of `es` followed by a run of `es'`. -/
lemma run_append {s s' : σ} {es es' : List ε} :
    S.run s (es ++ es') = some s' ↔ ∃ m, S.run s es = some m ∧ S.run m es' = some s' := by
  induction es generalizing s with
  | nil => simp
  | cons e es ih =>
    rw [List.cons_append, run_cons]
    constructor
    · intro h
      obtain ⟨m, hm, hrest⟩ := h
      obtain ⟨m', hm', hend⟩ := ih.mp hrest
      exact ⟨m', (run_cons S).mpr ⟨m, hm, hm'⟩, hend⟩
    · intro h
      obtain ⟨m', hm', hend⟩ := h
      obtain ⟨m, hm, hrest⟩ := (run_cons S).mp hm'
      exact ⟨m, hm, ih.mpr ⟨m', hrest, hend⟩⟩

/-- **The invariant rule under a condition.** A property of `s` that survives every step that meets
`C` holds at the end of every run from `s` whose steps meet `C`. -/
theorem Meets.invariant {S : TransitionSystem σ ε} {C : σ → ε → Prop} {P : σ → Prop}
    (hstep : ∀ s e s', C s e → P s → S.step s e = some s' → P s') {s s' : σ} {es : List ε}
    (hmeets : S.Meets C s es) (h : P s) (hrun : S.run s es = some s') : P s' := by
  induction es generalizing s with
  | nil =>
    obtain rfl : s = s' := by simpa using hrun
    exact h
  | cons e es ih =>
    obtain ⟨m, hm, hrest⟩ := (run_cons S).mp hrun
    exact ih (hmeets.2 m hm) (hstep s e m hmeets.1 h hm) hrest

/-- A step that meets the condition, and a run behind it that does. -/
lemma Meets.cons {S : TransitionSystem σ ε} {C : σ → ε → Prop} {s m : σ} {e : ε} {es : List ε}
    (he : C s e) (hstep : S.step s e = some m) (hes : S.Meets C m es) : S.Meets C s (e :: es) := by
  refine ⟨he, ?_⟩
  intro s' hs'
  obtain rfl := Option.some.inj (hstep.symm.trans hs')
  exact hes

/-- Where every event of a run meets a condition, every step does. -/
lemma Meets.of_forall {C : ε → Prop} {es : List ε} (h : ∀ e ∈ es, C e) (s : σ) :
    S.Meets (fun _ e => C e) s es := by
  induction es generalizing s with
  | nil => trivial
  | cons e es ih =>
    refine ⟨h e List.mem_cons_self, ?_⟩
    intro s' _
    exact ih (fun e he => h e (List.mem_cons_of_mem _ he)) s'

/-- **The invariant rule with the history.** A fact about the state and the events so far that holds
initially and survives every step holds at the end of every run. -/
theorem history_invariant {S : TransitionSystem σ ε} {P : σ → List ε → Prop} (h0 : P S.init [])
    (hstep : ∀ s es e s', P s es → S.step s e = some s' → P s' (es ++ [e])) {s : σ} {es : List ε}
    (hrun : S.run S.init es = some s) : P s es := by
  induction es using List.reverseRec generalizing s with
  | nil =>
    obtain rfl : S.init = s := by simpa using hrun
    exact h0
  | append_singleton es e ih =>
    obtain ⟨m, hm, hlast⟩ := (run_append S).mp hrun
    obtain ⟨m', hm', hend⟩ := (run_cons S).mp hlast
    obtain rfl : m' = s := by simpa using hend
    exact hstep m es e m' (ih hm) hm'

/-- **The rule for two runs.** Where every step from related states is matched by a step of another
system, with the event that `f` gives, to related states, every run is matched by a run. The
relation may use that the first state is reachable. -/
theorem run_related {S : TransitionSystem σ ε} {τ : Type*} {δ : Type*} {T : TransitionSystem τ δ}
    {R : σ → τ → Prop} {f : ε → δ}
    (hstep : ∀ s t e s', S.Reachable s → R s t → S.step s e = some s' →
      ∃ t', T.step t (f e) = some t' ∧ R s' t') (h0 : R S.init T.init) {es : List ε} {s : σ}
    (hrun : S.run S.init es = some s) : ∃ t, T.run T.init (es.map f) = some t ∧ R s t := by
  induction es using List.reverseRec generalizing s with
  | nil =>
    obtain rfl : S.init = s := by simpa using hrun
    exact ⟨T.init, rfl, h0⟩
  | append_singleton es e ih =>
    obtain ⟨m, hm, hlast⟩ := (run_append S).mp hrun
    obtain ⟨m', hm', hend⟩ := (run_cons S).mp hlast
    obtain rfl : m' = s := by simpa using hend
    obtain ⟨t, ht, hrelated⟩ := ih hm
    obtain ⟨t', ht', hrelated'⟩ := hstep m t e m' ⟨es, hm⟩ hrelated hm'
    refine ⟨t', ?_, hrelated'⟩
    rw [List.map_append, run_append]
    exact ⟨t, ht, (run_cons T).mpr ⟨t', ht', rfl⟩⟩

namespace Reachable

variable {S}

/-- The initial state is reachable. -/
lemma init : S.Reachable S.init := ⟨[], rfl⟩

/-- A run from a reachable state ends in a reachable state. -/
lemma run {s s' : σ} (h : S.Reachable s) {es : List ε} (hrun : S.run s es = some s') :
    S.Reachable s' := by
  obtain ⟨es₀, hes₀⟩ := h
  exact ⟨es₀ ++ es, (run_append S).mpr ⟨s, hes₀, hrun⟩⟩

/-- A step from a reachable state ends in a reachable state. -/
lemma step {s s' : σ} (h : S.Reachable s) {e : ε} (hstep : S.step s e = some s') :
    S.Reachable s' :=
  have hrun : S.run s [e] = some s' := (run_cons S).mpr ⟨s', hstep, rfl⟩
  h.run hrun

/-- **The invariant rule along a run.** A property of the reachable state `s` that survives
every step from a reachable state holds at the end of every run from `s`. -/
theorem run_invariant {P : σ → Prop} {s s' : σ} (hs : S.Reachable s)
    (hstep : ∀ s e s', S.Reachable s → P s → S.step s e = some s' → P s') (h : P s)
    {es : List ε} (hrun : S.run s es = some s') : P s' := by
  induction es generalizing s with
  | nil =>
    obtain rfl : s = s' := by simpa using hrun
    exact h
  | cons e es ih =>
    obtain ⟨m, hm, hrest⟩ := (run_cons S).mp hrun
    exact ih (hs.step hm) (hstep s e m hs h hm) hrest

/-- **The invariant rule.** What holds initially and survives every step from a reachable state
holds in every reachable state. -/
theorem invariant {P : σ → Prop} (h0 : P S.init)
    (hstep : ∀ s e s', S.Reachable s → P s → S.step s e = some s' → P s') {s : σ}
    (hs : S.Reachable s) : P s := by
  obtain ⟨es, hes⟩ := hs
  exact run_invariant init hstep h0 hes

end Reachable

/-- The views of the states of `S` are states of `T`: the view of the initial state is initial, and
the view of every step from a reachable state is a run of `T`, by the events that `S` shows. -/
structure Simulates {τ : Type u} {δ : Type v} (T : TransitionSystem τ δ) (view : σ → τ)
    (events : σ → ε → List δ) : Prop where
  init : view S.init = T.init
  step : ∀ s e s', S.Reachable s → S.step s e = some s' →
    T.run (view s) (events s e) = some (view s')

/-- **The simulation rule.** The view of every reachable state is reachable. -/
theorem Simulates.reachable {S : TransitionSystem σ ε} {τ : Type u} {δ : Type v}
    {T : TransitionSystem τ δ} {view : σ → τ} {events : σ → ε → List δ}
    (h : S.Simulates T view events) {s : σ} (hs : S.Reachable s) : T.Reachable (view s) := by
  apply hs.invariant
  · rw [h.init]
    exact Reachable.init
  · intro s e s' hs hview hstep
    exact hview.run (h.step s e s' hs hstep)

end TransitionSystem
