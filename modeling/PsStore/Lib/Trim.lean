import Mathlib.Data.List.DropRight

set_option relaxedAutoImplicit false
set_option autoImplicit false

/-!
# Trimming a text

A text loses the elements at both ends that a predicate accepts, such as white space.

## Main definitions

* `trimBy` — the text without the accepted elements at both ends.
* `IsTrimmed` — neither end of the text is accepted.

## Main results

* `trimBy_spec` — what is lost at the two ends.
* `trimBy_eq_self_iff` — the trimmed texts are the fixed points.
* `trimBy_append` — a trimmed text between accepted elements is found again.
-/

namespace PsStore

universe u

variable {α : Type u} (p : α → Bool)

/-- The text without the accepted elements at both ends. -/
def trimBy (text : List α) : List α := (text.dropWhile p).rdropWhile p

/-- Neither end of the text is accepted. -/
def IsTrimmed (text : List α) : Prop :=
  (∀ c ∈ text.head?, p c = false) ∧ ∀ c ∈ text.getLast?, p c = false

variable {p} {text : List α}

/-- Nothing is left of nothing. -/
@[simp] lemma trimBy_nil : trimBy p [] = [] := rfl

/-- A trimmed text stays as it is. -/
lemma IsTrimmed.trimBy_eq (h : IsTrimmed p text) : trimBy p text = text := by
  obtain ⟨hhead, hlast⟩ := h
  have hfront : text.dropWhile p = text := by
    cases text with
    | nil => rfl
    | cons c rest => rw [List.dropWhile_cons_of_neg (by simp [hhead c rfl])]
  unfold trimBy
  rw [hfront, List.rdropWhile_eq_self_iff]
  intro hne
  simp [hlast _ (List.getLast?_eq_getLast_of_ne_nil hne)]

/-- **What is trimmed**: accepted elements at both ends. -/
theorem trimBy_spec (p : α → Bool) (text : List α) :
    ∃ front back, text = front ++ trimBy p text ++ back ∧
      (∀ c ∈ front, p c = true) ∧ ∀ c ∈ back, p c = true := by
  refine ⟨text.takeWhile p, (text.dropWhile p).rtakeWhile p, ?_, ?_, ?_⟩
  · unfold trimBy
    rw [List.append_assoc, List.rdropWhile_append_rtakeWhile, List.takeWhile_append_dropWhile]
  · intro c hc
    exact List.mem_takeWhile_imp hc
  · intro c hc
    exact List.mem_rtakeWhile_imp hc

/-- Nothing is left exactly of a text of blanks. -/
lemma trimBy_eq_nil_iff : trimBy p text = [] ↔ ∀ c ∈ text, p c = true := by
  unfold trimBy
  rw [List.rdropWhile_eq_nil_iff]
  constructor
  · intro h
    rw [← List.dropWhile_eq_nil_iff]
    cases hrest : text.dropWhile p with
    | nil => rfl
    | cons c rest =>
      have hhead : p c = true := h c (by rw [hrest]; exact List.mem_cons_self)
      have hfails :=
        List.head_dropWhile_not p (l := text) (by rw [hrest]; exact List.cons_ne_nil _ _)
      simp [hrest, hhead] at hfails
  · intro h c hc
    exact h c ((List.dropWhile_sublist p).subset hc)

/-- Trimming does not lengthen. -/
lemma length_trimBy_le (p : α → Bool) (text : List α) : (trimBy p text).length ≤ text.length := by
  obtain ⟨front, back, htext, -, -⟩ := trimBy_spec p text
  have hlength := congrArg List.length htext
  rw [List.length_append, List.length_append] at hlength
  omega

/-- **A trimmed text has no accepted end.**

**Proof sketch.** The trimmed text begins as the text without its front does, and ends where the
drop from the back stops; neither of these elements is accepted. -/
theorem isTrimmed_trimBy (p : α → Bool) (text : List α) : IsTrimmed p (trimBy p text) := by
  constructor
  · intro c hc
    obtain ⟨rest, hrest⟩ : trimBy p text <+: text.dropWhile p := List.rdropWhile_prefix p _
    have hhead : (text.dropWhile p).head? = some c := by
      rw [← hrest, List.head?_append, Option.mem_def.mp hc]
      rfl
    have hnot := List.head?_dropWhile_not p text
    rw [hhead] at hnot
    simpa using hnot
  · intro c hc
    have hne : trimBy p text ≠ [] := by
      intro h
      rw [h] at hc
      cases hc
    have hnot : ¬p ((trimBy p text).getLast hne) = true := List.rdropWhile_last_not p _ hne
    rw [List.getLast?_eq_getLast_of_ne_nil hne, Option.mem_some_iff] at hc
    subst hc
    simpa using hnot

/-- **The trimmed texts are the fixed points.** -/
theorem trimBy_eq_self_iff : trimBy p text = text ↔ IsTrimmed p text := by
  constructor
  · intro h
    rw [← h]
    exact isTrimmed_trimBy p text
  · exact IsTrimmed.trimBy_eq

/-- **A trimmed text between accepted elements is found again.**

**Proof sketch.** The accepted elements before the text are dropped from the front, and the ones
behind it from the back. The text itself stays, as neither of its ends is accepted. -/
theorem trimBy_append {front back : List α} (hfront : ∀ c ∈ front, p c = true)
    (hback : ∀ c ∈ back, p c = true) (h : IsTrimmed p text) :
    trimBy p (front ++ text ++ back) = text := by
  have hstart : (front ++ text ++ back).dropWhile p = (text ++ back).dropWhile p := by
    rw [List.append_assoc, List.dropWhile_append_of_pos hfront]
  have hend : (text ++ back).rdropWhile p = text.rdropWhile p := by
    unfold List.rdropWhile
    rw [List.reverse_append, List.dropWhile_append_of_pos]
    intro c hc
    exact hback c (List.mem_reverse.mp hc)
  unfold trimBy
  rw [hstart]
  cases text with
  | nil =>
    have hnil : back.dropWhile p = [] := List.dropWhile_eq_nil_iff.mpr hback
    rw [List.nil_append, hnil]
    rfl
  | cons c rest =>
    have hc : ¬p c = true := by simp [h.1 c rfl]
    have hself := h.trimBy_eq
    unfold trimBy at hself
    rw [List.dropWhile_cons_of_neg hc] at hself
    rw [List.cons_append, List.dropWhile_cons_of_neg hc, ← List.cons_append, hend, hself]

end PsStore
