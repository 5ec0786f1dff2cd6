import Mathlib.Data.List.Induction
import Mathlib.Data.List.Perm.Basic
import Mathlib.Order.Nat

set_option relaxedAutoImplicit false
set_option autoImplicit false

/-!
# Choices from a list

A search that must not guess answers an element only where it is the sole one that a test accepts. A
greedy choice takes the element with the greatest key, and of those the last.

## Main definitions

* `sole` — the element of a list of one element.
* `ChoosesSole` — a choice that gives the value of the sole qualified element.
* `maxByKey` — the last element with the greatest key.

## Main results

* `choosesSole_filter` — the sole element that a test accepts is chosen as such a search has to.
* `maxByKey_perm` — the order does not matter where the key tells the elements apart.
-/

namespace PsStore

universe u

variable {α : Type u} {p : α → Bool}

/-! ## The sole element -/

/-- The element of a list of one element. -/
def sole : List α → Option α
  | [a] => some a
  | _ => none

/-- A sole element is that of a list of one. -/
lemma sole_eq_some_iff {xs : List α} {a : α} : sole xs = some a ↔ xs = [a] := by
  match xs with
  | [] => simp [sole]
  | [b] => simp [sole]
  | b :: c :: rest => simp [sole]

/-- **The sole accepted element.** It stands at one place, and every other place is refused. -/
theorem sole_filter_eq_some_iff {xs : List α} {a : α} :
    sole (xs.filter p) = some a ↔
      ∃ before after, xs = before ++ a :: after ∧ p a = true ∧
        ∀ b ∈ before ++ after, p b = false := by
  rw [sole_eq_some_iff, List.filter_eq_cons_iff]
  constructor
  · intro h
    obtain ⟨before, after, hxs, hbefore, ha, hafter⟩ := h
    refine ⟨before, after, hxs, ha, fun b hb => ?_⟩
    rcases List.mem_append.mp hb with hb | hb
    · exact eq_false_of_ne_true (hbefore b hb)
    · exact eq_false_of_ne_true (List.filter_eq_nil_iff.mp hafter b hb)
  · intro h
    obtain ⟨before, after, hxs, ha, hothers⟩ := h
    refine ⟨before, after, hxs, fun b hb => ?_, ha, List.filter_eq_nil_iff.mpr fun b hb => ?_⟩
    · exact ne_true_of_eq_false (hothers b (List.mem_append_left after hb))
    · exact ne_true_of_eq_false (hothers b (List.mem_append_right before hb))

/-- The order of the elements does not matter. -/
theorem sole_filter_perm {xs ys : List α} (h : xs.Perm ys) :
    sole (xs.filter p) = sole (ys.filter p) := by
  have hfilter := h.filter p
  ext a
  rw [sole_eq_some_iff, sole_eq_some_iff]
  constructor
  · intro hxs
    rw [hxs] at hfilter
    exact (List.singleton_perm.mp hfilter).symm
  · intro hys
    rw [hys] at hfilter
    exact List.perm_singleton.mp hfilter

/-- A refused element does not matter. -/
lemma sole_filter_append_cons {before after : List α} {a : α} (h : p a = false) :
    sole ((before ++ a :: after).filter p) = sole ((before ++ after).filter p) := by
  rw [List.filter_append, List.filter_cons_of_neg (by simp [h]), List.filter_append]

/-- No element is the sole accepted one exactly where none is accepted, or where two are. -/
lemma sole_filter_eq_none_iff {xs : List α} :
    sole (xs.filter p) = none ↔
      (∀ a ∈ xs, p a = false) ∨
        ∃ before a between b after, xs = before ++ a :: (between ++ b :: after) ∧
          p a = true ∧ p b = true := by
  constructor
  · intro hnone
    match hfilter : xs.filter p with
    | [] =>
      exact Or.inl fun a ha => eq_false_of_ne_true (List.filter_eq_nil_iff.mp hfilter a ha)
    | [a] =>
      rw [hfilter] at hnone
      cases hnone
    | a :: b :: rest =>
      obtain ⟨before, others, hxs, -, ha, hothers⟩ := List.filter_eq_cons_iff.mp hfilter
      obtain ⟨between, after, hsplit, -, hb, -⟩ := List.filter_eq_cons_iff.mp hothers
      exact Or.inr ⟨before, a, between, b, after, hsplit ▸ hxs, ha, hb⟩
  · rintro (hrefused | ⟨before, a, between, b, after, rfl, ha, hb⟩)
    · rw [List.filter_eq_nil_iff.mpr fun a ha => ne_true_of_eq_false (hrefused a ha)]
      rfl
    · rw [Option.eq_none_iff_forall_ne_some]
      intro c hc
      have hlength := congrArg List.length (sole_eq_some_iff.mp hc)
      rw [List.filter_append, List.filter_cons_of_pos ha, List.filter_append,
        List.filter_cons_of_pos hb] at hlength
      simp only [List.length_append, List.length_cons, List.length_nil] at hlength
      omega

/-! ## Choosing the sole element -/

variable {β : Type u}

/-- A choice that gives the value of the sole qualified element, and nothing where none qualifies or
two do. -/
structure ChoosesSole (Qualifies : α → Prop) (value : α → Option β)
    (choose : List α → Option β) : Prop where
  /-- A value is the one of an element that qualifies, and every other place does not. -/
  some_iff : ∀ xs b, choose xs = some b ↔
    ∃ before a after, xs = before ++ a :: after ∧ Qualifies a ∧ value a = some b ∧
      ∀ other ∈ before ++ after, ¬ Qualifies other
  /-- There is no value exactly where nothing qualifies, or two places do. -/
  none_iff : ∀ xs, choose xs = none ↔
    (∀ a ∈ xs, ¬ Qualifies a) ∨
      ∃ before a between b after, xs = before ++ a :: (between ++ b :: after) ∧
        Qualifies a ∧ Qualifies b
  /-- The order does not matter. -/
  perm : ∀ xs ys, xs.Perm ys → choose xs = choose ys
  /-- An element that does not qualify can come or go anywhere. -/
  unqualified : ∀ before a after, ¬ Qualifies a →
    choose (before ++ a :: after) = choose (before ++ after)

/-- **The sole accepted element is chosen.** The test decides what qualifies, and what qualifies has
a value.

**Proof sketch.** What the filter keeps is what qualifies. A list of one kept element gives its
value (`sole_filter_eq_some_iff`); a permutation of the list permutes what is kept, and an element
that does not qualify is not kept. -/
theorem choosesSole_filter {Qualifies : α → Prop} {value : α → Option β}
    (htest : ∀ a, p a = true ↔ Qualifies a)
    (hvalue : ∀ a, Qualifies a → ∃ b, value a = some b) :
    ChoosesSole Qualifies value fun xs => (sole (xs.filter p)).bind value := by
  have hrefused : ∀ a, p a = false ↔ ¬ Qualifies a := fun a => by
    rw [← htest a, Bool.not_eq_true]
  refine ⟨fun xs b => ?_, fun xs => ?_, fun xs ys h => ?_, fun before a after ha => ?_⟩
  · rw [Option.bind_eq_some_iff]
    constructor
    · intro h
      obtain ⟨a, hsole, hb⟩ := h
      obtain ⟨before, after, hxs, ha, hothers⟩ := sole_filter_eq_some_iff.mp hsole
      exact ⟨before, a, after, hxs, (htest a).mp ha, hb, fun c hc =>
        (hrefused c).mp (hothers c hc)⟩
    · intro h
      obtain ⟨before, a, after, hxs, ha, hb, hothers⟩ := h
      exact ⟨a, sole_filter_eq_some_iff.mpr ⟨before, after, hxs, (htest a).mpr ha, fun c hc =>
        (hrefused c).mpr (hothers c hc)⟩, hb⟩
  · have hbind : (sole (xs.filter p)).bind value = none ↔ sole (xs.filter p) = none := by
      cases hsole : sole (xs.filter p) with
      | none => simp
      | some a =>
        obtain ⟨_, _, _, ha, _⟩ := sole_filter_eq_some_iff.mp hsole
        obtain ⟨b, hb⟩ := hvalue a ((htest a).mp ha)
        simp [hb]
    rw [hbind, sole_filter_eq_none_iff]
    simp only [htest, hrefused]
  · rw [sole_filter_perm h]
  · rw [sole_filter_append_cons ((hrefused a).mpr ha)]

/-- Where nothing qualifies, no choice is the choice. -/
theorem choosesSole_none {Qualifies : α → Prop} {value : α → Option β}
    (h : ∀ a, ¬ Qualifies a) : ChoosesSole Qualifies value fun _ => none := by
  refine ⟨fun xs b => ?_, fun xs => ?_, fun _ _ _ => rfl, fun _ _ _ _ => rfl⟩
  · constructor
    · intro hb
      cases hb
    · intro h
      obtain ⟨_, a, _, _, ha, _⟩ := h
      exact absurd ha (h a)
  · exact ⟨fun _ => Or.inl fun a _ => h a, fun _ => rfl⟩

/-! ## The greatest element -/

/-- `max_by_key`: the last of the elements with the greatest key. -/
def maxByKey (key : α → ℕ) (xs : List α) : Option α :=
  xs.foldl
    (fun best x =>
      match best with
      | none => some x
      | some y => if key y ≤ key x then some x else some y)
    none

/-- One more element at the end. -/
lemma maxByKey_append_singleton (key : α → ℕ) (xs : List α) (x : α) :
    maxByKey key (xs ++ [x]) =
      match maxByKey key xs with
      | none => some x
      | some y => if key y ≤ key x then some x else some y := by
  unfold maxByKey
  rw [List.foldl_append]
  rfl

/-- Only an empty list has no choice. -/
lemma maxByKey_eq_none_iff {key : α → ℕ} {xs : List α} : maxByKey key xs = none ↔ xs = [] := by
  obtain rfl | ⟨front, x, rfl⟩ := xs.eq_nil_or_concat'
  · simp [maxByKey]
  · rw [maxByKey_append_singleton]
    split
    · simp
    · split <;> simp

/-- The choice is an element, and no key is greater than its key. -/
lemma maxByKey_spec {key : α → ℕ} {xs : List α} {a : α} (h : maxByKey key xs = some a) :
    a ∈ xs ∧ ∀ b ∈ xs, key b ≤ key a := by
  induction xs using List.reverseRecOn generalizing a with
  | nil => cases h
  | append_singleton xs x ih =>
    rw [maxByKey_append_singleton] at h
    cases hbest : maxByKey key xs with
    | none =>
      rw [hbest] at h
      rw [maxByKey_eq_none_iff.mp hbest, ← Option.some.inj h]
      simp
    | some y =>
      obtain ⟨hy, hle⟩ := ih hbest
      rw [hbest] at h
      dsimp only at h
      split_ifs at h with hkey
      · rw [← Option.some.inj h]
        refine ⟨by simp, fun b hb => ?_⟩
        rcases List.mem_append.mp hb with hb | hb
        · exact (hle b hb).trans hkey
        · exact (congrArg key (List.mem_singleton.mp hb)).le
      · rw [← Option.some.inj h]
        refine ⟨List.mem_append_left _ hy, fun b hb => ?_⟩
        rcases List.mem_append.mp hb with hb | hb
        · exact hle b hb
        · rw [List.mem_singleton.mp hb]
          omega

/-- **The order of the elements does not matter**, where the key tells them apart.

**Proof sketch.** Both lists have an element with the largest key or are empty. The two elements
have one key, and the key tells elements apart. -/
theorem maxByKey_perm {key : α → ℕ} {xs ys : List α} (h : xs.Perm ys)
    (hkey : ∀ a ∈ xs, ∀ b ∈ xs, key a = key b → a = b) : maxByKey key xs = maxByKey key ys := by
  cases hxs : maxByKey key xs with
  | none =>
    rw [maxByKey_eq_none_iff] at hxs
    rw [hxs, List.nil_perm] at h
    rw [h]
    rfl
  | some a =>
    obtain ⟨ha, hmaxa⟩ := maxByKey_spec hxs
    cases hys : maxByKey key ys with
    | none =>
      rw [maxByKey_eq_none_iff.mp hys, List.perm_nil] at h
      rw [h] at ha
      cases ha
    | some b =>
      obtain ⟨hb, hmaxb⟩ := maxByKey_spec hys
      have hba : key b ≤ key a := hmaxa b (h.mem_iff.mpr hb)
      have hab : key a ≤ key b := hmaxb a (h.mem_iff.mp ha)
      rw [hkey a ha b (h.mem_iff.mpr hb) (Nat.le_antisymm hab hba)]

end PsStore
