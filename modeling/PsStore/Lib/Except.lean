import Mathlib.Tactic.Lemma

set_option relaxedAutoImplicit false
set_option autoImplicit false

/-!
# Fallible steps

When a sequence of fallible steps succeeds.

## Main results

* `bind_eq_ok`, `bind_eq_ok_iff`, `bind_eq_error_iff` — the value and the error of a sequence of two
  steps.
* `map_eq_ok_iff` — the value of a mapped step.
* `exists_bind_eq_ok_iff`, `exists_map_eq_ok_iff`, `exists_mapM_eq_ok_iff` — whether a sequence, a
  mapped step and a step for each element succeed.
* `toOption_eq_some_iff` — the value of a step as an option.
-/

variable {ε α β : Type}

/-- A fallible step that succeeds succeeds in both parts. -/
lemma bind_eq_ok {x : Except ε α} {f : α → Except ε β} {b : β} (h : x >>= f = .ok b) :
    ∃ a, x = .ok a ∧ f a = .ok b := by
  cases x with
  | error e => cases h
  | ok a => exact ⟨a, rfl, h⟩

/-- The value of a sequence of two steps that succeeds. -/
lemma bind_eq_ok_iff {x : Except ε α} {f : α → Except ε β} {b : β} :
    x >>= f = .ok b ↔ ∃ a, x = .ok a ∧ f a = .ok b := by
  constructor
  · exact bind_eq_ok
  · rintro ⟨a, rfl, h⟩
    exact h

/-- The value of a mapped step that succeeds. -/
lemma map_eq_ok_iff {x : Except ε α} {f : α → β} {b : β} :
    x.map f = .ok b ↔ ∃ a, x = .ok a ∧ f a = b := by
  cases x <;> simp [Except.map]

/-- The error of a sequence of two steps is the error of one of them. -/
lemma bind_eq_error_iff {x : Except ε α} {f : α → Except ε β} {e : ε} :
    x >>= f = .error e ↔ x = .error e ∨ ∃ a, x = .ok a ∧ f a = .error e := by
  cases x with
  | error e' => simp [bind, Except.bind]
  | ok a => simp [bind, Except.bind]

/-- The value of a fallible step as an option. -/
@[simp] lemma toOption_eq_some_iff {x : Except ε α} {a : α} :
    x.toOption = some a ↔ x = .ok a := by
  cases x <;> simp [Except.toOption]

/-- A sequence of two steps succeeds exactly where the first does and the second does after it. -/
@[simp] lemma exists_bind_eq_ok_iff {x : Except ε α} {f : α → Except ε β} :
    (∃ b, x >>= f = .ok b) ↔ ∃ a, x = .ok a ∧ ∃ b, f a = .ok b := by
  constructor
  · rintro ⟨b, h⟩
    obtain ⟨a, ha, hb⟩ := bind_eq_ok h
    exact ⟨a, ha, b, hb⟩
  · intro h
    obtain ⟨a, ha, b, hb⟩ := h
    refine ⟨b, ?_⟩
    rw [ha]
    exact hb

/-- A mapped step succeeds exactly where the step does. -/
@[simp] lemma exists_map_eq_ok_iff {x : Except ε α} {f : α → β} :
    (∃ b, f <$> x = .ok b) ↔ ∃ a, x = .ok a := by
  cases x with
  | error e => simp [Functor.map, Except.map]
  | ok a => simp [Functor.map, Except.map]

/-- A step for each element of a list succeeds exactly where it succeeds for every element. -/
lemma exists_mapM_eq_ok_iff {f : α → Except ε β} {l : List α} :
    (∃ l', l.mapM f = .ok l') ↔ ∀ a ∈ l, ∃ b, f a = .ok b := by
  induction l with
  | nil => simp [pure, Except.pure]
  | cons a l ih =>
    rw [List.mapM_cons, exists_bind_eq_ok_iff, List.forall_mem_cons, ← ih]
    constructor
    · rintro ⟨b, hb, l', h⟩
      obtain ⟨bs, hbs, -⟩ := bind_eq_ok h
      exact ⟨⟨b, hb⟩, bs, hbs⟩
    · intro h
      obtain ⟨⟨b, hb⟩, bs, hbs⟩ := h
      refine ⟨b, hb, exists_bind_eq_ok_iff.mpr ⟨bs, hbs, _, rfl⟩⟩
