import Mathlib.Data.List.Basic

set_option relaxedAutoImplicit false
set_option autoImplicit false

/-!
# Fallible computations that record their calls

A computation makes calls to the outside one after another and ends at the first one that fails it,
so the outcome is decided by the calls that it made. A judgement says of a call whether the
computation goes on after it, and which calls and which errors are denials. A computation that
follows its judgement ends in a denial exactly where one of its calls denies it, and a deadline that
cuts it short does not change that.

## Main definitions

* `Recorded` — the calls of a computation and its result.
* `Recorded.upTo` — the computation under a deadline that only the first calls meet.
* `Judgement`, `Recorded.Follows` — what the calls and the errors mean, and a computation whose
  outcome agrees with it.

## Main results

* `Recorded.Follows.bind`, `Recorded.Follows.upTo` — the steps of a computation follow a judgement
  where its parts do.
* `Recorded.Follows.denial_iff` — a denial is the outcome exactly where a call denies.
* `Recorded.Follows.outage` — a call that neither goes on nor denies is the end of the computation
  in an error that is no denial.
-/

universe u v

/-- A fallible computation with the calls that it makes, in order. -/
@[ext]
structure Recorded (σ : Type u) (ε : Type v) (α : Type) where
  calls : List σ
  result : Except ε α

namespace Recorded

variable {σ : Type u} {ε : Type v} {α β : Type}

/-- A result without a call. -/
def lift (result : Except ε α) : Recorded σ ε α where
  calls := []
  result := result

/-- One call and what follows from it. -/
def call (c : σ) (result : Except ε α) : Recorded σ ε α where
  calls := [c]
  result := result

/-- A failure without a call. -/
def fail (e : ε) : Recorded σ ε α := lift (.error e)

/-- The computation `f` after `x`. An error ends it. -/
def bind (x : Recorded σ ε α) (f : α → Recorded σ ε β) : Recorded σ ε β :=
  match x.result with
  | .error e => { calls := x.calls, result := .error e }
  | .ok a => { calls := x.calls ++ (f a).calls, result := (f a).result }

instance : Monad (Recorded σ ε) where
  pure a := lift (.ok a)
  bind := bind

/-- The computation under a deadline that its first `n` calls meet. The call that is running when
the deadline passes is cut, and the computation fails with `timeout`. -/
def upTo (n : ℕ) (cut : σ → σ) (timeout : ε) (x : Recorded σ ε α) : Recorded σ ε α :=
  if x.calls.length ≤ n then x
  else { calls := x.calls.take n ++ (x.calls[n]?.map cut).toList, result := .error timeout }

/-- A result alone makes no call. -/
@[simp] lemma lift_calls (result : Except ε α) :
    (lift result : Recorded σ ε α).calls = [] := rfl

/-- A result alone is the result. -/
@[simp] lemma lift_result (result : Except ε α) :
    (lift result : Recorded σ ε α).result = result := rfl

/-- A call is the only one it makes. -/
@[simp] lemma call_calls (c : σ) (result : Except ε α) : (call c result).calls = [c] := rfl

/-- The result of a call is the one it is given. -/
@[simp] lemma call_result (c : σ) (result : Except ε α) : (call c result).result = result := rfl

/-- The result of a sequence is the sequence of the results. -/
@[simp] lemma bind_result (x : Recorded σ ε α) (f : α → Recorded σ ε β) :
    (x >>= f).result = x.result >>= fun a => (f a).result := by
  show (bind x f).result = _
  unfold bind
  cases x.result <;> rfl

/-- The calls of a sequence whose first part succeeds. -/
lemma bind_calls_of_ok {x : Recorded σ ε α} {a : α} (h : x.result = .ok a)
    (f : α → Recorded σ ε β) : (x >>= f).calls = x.calls ++ (f a).calls := by
  show (bind x f).calls = _
  unfold bind
  rw [h]

/-- The calls of a sequence whose first part fails. -/
lemma bind_calls_of_error {x : Recorded σ ε α} {e : ε} (h : x.result = .error e)
    (f : α → Recorded σ ε β) : (x >>= f).calls = x.calls := by
  show (bind x f).calls = _
  unfold bind
  rw [h]

/-- Steps without a call after `x` add no call. -/
lemma bind_calls_of_nil {x : Recorded σ ε α} {f : α → Recorded σ ε β}
    (hf : ∀ a, (f a).calls = []) : (x >>= f).calls = x.calls := by
  cases h : x.result with
  | error e => exact bind_calls_of_error h _
  | ok a => rw [bind_calls_of_ok h, hf, List.append_nil]

/-- A result without a call after `x` adds no call. -/
lemma bind_lift_calls (x : Recorded σ ε α) (f : α → Except ε β) :
    (x >>= fun a => lift (f a)).calls = x.calls :=
  bind_calls_of_nil fun _ => rfl

end Recorded

/-! ## Judgements -/

/-- What the calls and the errors of a computation mean. -/
structure Judgement (σ : Type u) (ε : Type v) where
  /-- The computation goes on after the call. -/
  Accepts : σ → Prop
  /-- The call denies the computation. -/
  Denies : σ → Prop
  /-- The error is a denial. -/
  IsDenial : ε → Prop
  not_denies : ∀ c, Accepts c → ¬Denies c

namespace Recorded

variable {σ : Type u} {ε : Type v} {α β : Type} {J : Judgement σ ε}

/-- The outcome of a computation agrees with its calls: it goes on after every call but the last
one, and after that one, too, where it succeeds; an error is a denial exactly where a call
denies. -/
structure Follows (J : Judgement σ ε) (x : Recorded σ ε α) : Prop where
  accepts_dropLast : ∀ c ∈ x.calls.dropLast, J.Accepts c
  accepts_of_ok : ∀ a, x.result = .ok a → ∀ c ∈ x.calls, J.Accepts c
  denial : ∀ e, x.result = .error e → (J.IsDenial e ↔ ∃ c ∈ x.calls, J.Denies c)

namespace Follows

/-- A value follows every judgement. -/
lemma pure (a : α) : Follows J (Pure.pure a : Recorded σ ε α) where
  accepts_dropLast := by rintro c ⟨⟩
  accepts_of_ok := by rintro - - c ⟨⟩
  denial := by rintro e ⟨⟩

/-- A failure without a call is no denial. -/
lemma fail {e : ε} (h : ¬J.IsDenial e) : Follows J (fail e : Recorded σ ε α) where
  accepts_dropLast := by rintro c ⟨⟩
  accepts_of_ok := by rintro a ⟨⟩
  denial := by
    rintro e' ⟨⟩
    constructor
    · intro hdenial
      exact absurd hdenial h
    · intro h
      obtain ⟨c, ⟨⟩, -⟩ := h

/-- A computation of one call, from what its results mean. -/
lemma single {x : Recorded σ ε α} {c : σ} (hcalls : x.calls = [c])
    (hok : ∀ a, x.result = .ok a → J.Accepts c)
    (herror : ∀ e, x.result = .error e → (J.IsDenial e ↔ J.Denies c)) : Follows J x where
  accepts_dropLast := by
    rw [hcalls]
    rintro c' ⟨⟩
  accepts_of_ok := by
    intro a ha c' hc'
    rw [hcalls, List.mem_singleton] at hc'
    rw [hc']
    exact hok a ha
  denial := by
    intro e he
    rw [herror e he, hcalls]
    simp

/-- **A sequence follows a judgement where its parts do.**

**Proof sketch.** Where the first part fails, its calls and its result are those of the sequence.
Where it succeeds, all its calls are accepted, so the last call, the result and the denials are
those of the rest. -/
theorem bind {x : Recorded σ ε α} {f : α → Recorded σ ε β} (hx : Follows J x)
    (hf : ∀ a, x.result = .ok a → Follows J (f a)) : Follows J (x >>= f) := by
  cases hresult : x.result with
  | error e =>
    have hcalls : (x >>= f).calls = x.calls := bind_calls_of_error hresult f
    have hbind : (x >>= f).result = .error e := by rw [bind_result, hresult]; rfl
    constructor
    · rw [hcalls]
      exact hx.accepts_dropLast
    · intro b hb
      rw [hbind] at hb
      cases hb
    · intro e' he'
      rw [hbind] at he'
      cases he'
      rw [hcalls]
      exact hx.denial e hresult
  | ok a =>
    have hcalls : (x >>= f).calls = x.calls ++ (f a).calls := bind_calls_of_ok hresult f
    have hbind : (x >>= f).result = (f a).result := by rw [bind_result, hresult]; rfl
    have hfirst : ∀ c ∈ x.calls, J.Accepts c := hx.accepts_of_ok a hresult
    have hrest : Follows J (f a) := hf a hresult
    constructor
    · intro c hc
      rw [hcalls] at hc
      by_cases hnil : (f a).calls = []
      · rw [hnil, List.append_nil] at hc
        exact hfirst c (List.dropLast_subset _ hc)
      · rw [List.dropLast_append_of_ne_nil hnil] at hc
        rcases List.mem_append.mp hc with hc | hc
        · exact hfirst c hc
        · exact hrest.accepts_dropLast c hc
    · intro b hb c hc
      rw [hbind] at hb
      rw [hcalls] at hc
      rcases List.mem_append.mp hc with hc | hc
      · exact hfirst c hc
      · exact hrest.accepts_of_ok b hb c hc
    · intro e he
      rw [hbind] at he
      rw [hrest.denial e he, hcalls]
      constructor
      · intro h
        obtain ⟨c, hc, hdenies⟩ := h
        exact ⟨c, List.mem_append_right _ hc, hdenies⟩
      · intro h
        obtain ⟨c, hc, hdenies⟩ := h
        rcases List.mem_append.mp hc with hc | hc
        · exact absurd hdenies (J.not_denies c (hfirst c hc))
        · exact ⟨c, hc, hdenies⟩

/-- The first calls before another one are accepted. -/
lemma accepts_take {x : Recorded σ ε α} (hx : Follows J x) {n : ℕ} (hn : n < x.calls.length) :
    ∀ c ∈ x.calls.take n, J.Accepts c := by
  intro c hc
  apply hx.accepts_dropLast
  rw [List.dropLast_eq_take]
  exact List.take_subset_take_left _ (by omega) hc

/-- **A deadline keeps the judgement**: the calls that met it are accepted, and the one that it cut
denies nothing.

**Proof sketch.** Where the deadline cuts nothing, the computation is as before. Elsewhere the calls
before the cut are not the last one, so they are accepted; the cut call denies nothing, and the
timeout is no denial. -/
theorem upTo {x : Recorded σ ε α} (hx : Follows J x) {n : ℕ} {cut : σ → σ} {timeout : ε}
    (hcut : ∀ c, ¬J.Denies (cut c)) (htimeout : ¬J.IsDenial timeout) :
    Follows J (x.upTo n cut timeout) := by
  unfold Recorded.upTo
  split_ifs with hle
  · exact hx
  · have hn : n < x.calls.length := by omega
    have htake := hx.accepts_take hn
    rw [List.getElem?_eq_getElem hn]
    constructor
    · intro c hc
      apply htake
      simpa using hc
    · rintro a ⟨⟩
    · rintro e ⟨⟩
      constructor
      · intro hdenial
        exact absurd hdenial htimeout
      · intro h
        obtain ⟨c, hc, hdenies⟩ := h
        rcases List.mem_append.mp hc with hc | hc
        · exact absurd hdenies (J.not_denies c (htake c hc))
        · obtain rfl : c = cut x.calls[n] := by simpa using hc
          exact absurd hdenies (hcut _)

/-- **A denial is the outcome exactly where a call denies.** -/
theorem denial_iff {x : Recorded σ ε α} (hx : Follows J x) :
    (∃ e, x.result = .error e ∧ J.IsDenial e) ↔ ∃ c ∈ x.calls, J.Denies c := by
  constructor
  · intro h
    obtain ⟨e, he, hdenial⟩ := h
    exact (hx.denial e he).mp hdenial
  · intro h
    obtain ⟨c, hc, hdenies⟩ := h
    cases hresult : x.result with
    | ok a => exact absurd hdenies (J.not_denies c (hx.accepts_of_ok a hresult c hc))
    | error e => exact ⟨e, rfl, (hx.denial e hresult).mpr ⟨c, hc, hdenies⟩⟩

/-- **An outage ends the computation in an error that is no denial.**

**Proof sketch.** The result is an error, as every call of a success is accepted. If it were a
denial, some call would deny; but a call that is not accepted is the last one, so it would be the
outage itself. -/
theorem outage {x : Recorded σ ε α} (hx : Follows J x) {c : σ} (hc : c ∈ x.calls)
    (haccepts : ¬J.Accepts c) (hdenies : ¬J.Denies c) :
    ∃ e, x.result = .error e ∧ ¬J.IsDenial e := by
  cases hresult : x.result with
  | ok a => exact absurd (hx.accepts_of_ok a hresult c hc) haccepts
  | error e =>
    refine ⟨e, rfl, ?_⟩
    intro hdenial
    obtain ⟨d, hd, hd'⟩ := (hx.denial e hresult).mp hdenial
    -- both calls are the last one, since the computation goes on after every other
    have hlast : ∀ b ∈ x.calls, ¬J.Accepts b → ∃ h : x.calls ≠ [], b = x.calls.getLast h := by
      intro b hb hnot
      have hne : x.calls ≠ [] := List.ne_nil_of_mem hb
      refine ⟨hne, ?_⟩
      rw [← List.dropLast_append_getLast hne] at hb
      rcases List.mem_append.mp hb with hb | hb
      · exact absurd (hx.accepts_dropLast b hb) hnot
      · exact List.mem_singleton.mp hb
    obtain ⟨_, hclast⟩ := hlast c hc haccepts
    obtain ⟨_, hdlast⟩ := hlast d hd fun haccepts' => J.not_denies d haccepts' hd'
    rw [hclast, ← hdlast] at hdenies
    exact hdenies hd'

end Follows

end Recorded
