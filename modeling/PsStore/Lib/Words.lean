import Mathlib.Data.List.Basic

set_option relaxedAutoImplicit false
set_option autoImplicit false

/-!
# Words of a text

The words of a list are its maximal runs of elements that a predicate accepts. Words are joined
with one separator between them, and splitting undoes joining.

## Main definitions

* `IsWord`, `words` — a word, and the words of a text.
* `joinWords` — words with one separator between them.

## Main results

* `words_joinWords`, `joinWords_inj` — splitting undoes joining.
* `joinWords_eq_append_iff` — the suffixes of joined words, after a separator, that are joined words
  themselves.
-/

namespace PsStore

universe u

variable {α : Type u} (isPart : α → Bool) (sep : α)

/-- A word: some elements, and all of them are accepted. -/
def IsWord (w : List α) : Prop := w ≠ [] ∧ ∀ a ∈ w, isPart a = true

/-- The maximal runs of accepted elements. -/
def words (text : List α) : List (List α) :=
  (text.splitOnP fun a => !isPart a).filter fun w => !w.isEmpty

/-- The words with one separator between them. -/
def joinWords (ws : List (List α)) : List α := [sep].intercalate ws

variable {isPart sep}

/-- A word has no separator. -/
lemma IsWord.not_mem (hsep : isPart sep = false) {w : List α} (h : IsWord isPart w) :
    w ≠ [] ∧ sep ∉ w := by
  refine ⟨h.1, fun hmem => ?_⟩
  rw [h.2 sep hmem] at hsep
  cases hsep

/-! ## Joining -/

/-- No words have no text. -/
@[simp] lemma joinWords_nil : joinWords sep ([] : List (List α)) = [] := rfl

/-- One word is its text. -/
@[simp] lemma joinWords_singleton (w : List α) : joinWords sep [w] = w :=
  List.intercalate_singleton

/-- Joining one more word in front. -/
lemma joinWords_cons (w : List α) {ws : List (List α)} (h : ws ≠ []) :
    joinWords sep (w :: ws) = w ++ sep :: joinWords sep ws := by
  unfold joinWords
  rw [List.intercalate_cons_of_ne_nil h, List.append_assoc]
  rfl

/-- Joining two lists of words. -/
lemma joinWords_append {us vs : List (List α)} (hus : us ≠ []) (hvs : vs ≠ []) :
    joinWords sep (us ++ vs) = joinWords sep us ++ sep :: joinWords sep vs := by
  induction us with
  | nil => exact absurd rfl hus
  | cons w us ih =>
    cases us with
    | nil =>
      rw [joinWords_singleton]
      exact joinWords_cons w hvs
    | cons v us =>
      have hrest := ih (List.cons_ne_nil v us)
      rw [List.cons_append, joinWords_cons w (by simp), hrest, joinWords_cons w (by simp),
        List.append_assoc, List.cons_append]

/-- More elements at the end of the last word. -/
lemma joinWords_append_last (us : List (List α)) (w v : List α) :
    joinWords sep (us ++ [w]) ++ v = joinWords sep (us ++ [w ++ v]) := by
  by_cases hus : us = []
  · rw [hus, List.nil_append, List.nil_append, joinWords_singleton, joinWords_singleton]
  · rw [joinWords_append hus (List.cons_ne_nil w []),
      joinWords_append hus (List.cons_ne_nil (w ++ v) []), joinWords_singleton,
      joinWords_singleton, List.append_assoc]
    rfl

/-- Joined words are empty only where there is no word. -/
lemma joinWords_eq_nil_iff {ws : List (List α)} (hws : ∀ w ∈ ws, w ≠ []) :
    joinWords sep ws = [] ↔ ws = [] := by
  constructor
  · intro h
    cases ws with
    | nil => rfl
    | cons w ws =>
      have hw := hws w List.mem_cons_self
      by_cases hnil : ws = []
      · rw [hnil, joinWords_singleton] at h
        exact absurd h hw
      · rw [joinWords_cons w hnil] at h
        exact absurd (List.append_eq_nil_iff.mp h).1 hw
  · rintro rfl
    rfl

/-- An element of joined words is the separator or an element of a word. -/
lemma mem_joinWords {ws : List (List α)} {a : α} (h : a ∈ joinWords sep ws) :
    a = sep ∨ ∃ w ∈ ws, a ∈ w := by
  induction ws with
  | nil => cases h
  | cons w ws ih =>
    by_cases hws : ws = []
    · rw [hws, joinWords_singleton] at h
      exact Or.inr ⟨w, List.mem_cons_self, h⟩
    · rw [joinWords_cons w hws, List.mem_append, List.mem_cons] at h
      rcases h with h | rfl | h
      · exact Or.inr ⟨w, List.mem_cons_self, h⟩
      · exact Or.inl rfl
      · exact (ih h).imp_right fun ⟨v, hv, ha⟩ => ⟨v, List.mem_cons_of_mem w hv, ha⟩

/-- An element of a word is one of the joined words. -/
lemma mem_joinWords_of_mem {ws : List (List α)} {w : List α} {a : α} (hw : w ∈ ws) (ha : a ∈ w) :
    a ∈ joinWords sep ws := by
  induction ws with
  | nil => cases hw
  | cons v ws ih =>
    by_cases hws : ws = []
    · rw [hws, List.mem_singleton] at hw
      rw [hws, joinWords_singleton, ← hw]
      exact ha
    · rw [joinWords_cons v hws, List.mem_append, List.mem_cons]
      rcases List.mem_cons.mp hw with rfl | hw
      · exact Or.inl ha
      · exact Or.inr (Or.inr (ih hw))

/-- Joined words start with an element of a word. -/
lemma head?_joinWords_ne {ws : List (List α)} (hws : ∀ w ∈ ws, w ≠ [] ∧ sep ∉ w) :
    (joinWords sep ws).head? ≠ some sep := by
  cases ws with
  | nil => simp
  | cons w ws =>
    obtain ⟨hw, hsep⟩ := hws w List.mem_cons_self
    obtain ⟨a, w, rfl⟩ := List.exists_cons_of_ne_nil hw
    have hhead : (joinWords sep ((a :: w) :: ws)).head? = some a := by
      by_cases hnil : ws = []
      · rw [hnil, joinWords_singleton, List.head?_cons]
      · rw [joinWords_cons _ hnil, List.cons_append, List.head?_cons]
    intro h
    rw [hhead] at h
    exact hsep (Option.some.inj h ▸ List.mem_cons_self)

/-- Joined words end with an element of a word. -/
lemma getLast?_joinWords_ne {ws : List (List α)} (hws : ∀ w ∈ ws, w ≠ [] ∧ sep ∉ w) :
    (joinWords sep ws).getLast? ≠ some sep := by
  induction ws with
  | nil => simp
  | cons w ws ih =>
    obtain ⟨hw, hsep⟩ := hws w List.mem_cons_self
    have hrest : ∀ v ∈ ws, v ≠ [] ∧ sep ∉ v := fun v hv => hws v (List.mem_cons_of_mem w hv)
    by_cases hnil : ws = []
    · rw [hnil, joinWords_singleton]
      intro h
      exact hsep (List.mem_of_getLast? h)
    · have hjoin : joinWords sep ws ≠ [] := fun h =>
        hnil ((joinWords_eq_nil_iff fun v hv => (hrest v hv).1).mp h)
      rw [joinWords_cons w hnil, List.getLast?_append_of_ne_nil _ (List.cons_ne_nil sep _),
        List.getLast?_cons_of_ne_nil hjoin]
      exact ih hrest

/-! ## Splitting -/

/-- An empty text has no words. -/
@[simp] lemma words_nil : words isPart ([] : List α) = [] := rfl

/-- The words of two texts with a separator between them. -/
lemma words_append_cons (xs ys : List α) (hsep : isPart sep = false) :
    words isPart (xs ++ sep :: ys) = words isPart xs ++ words isPart ys := by
  unfold words
  rw [List.splitOnP_append_cons xs ys (by simp [hsep]), List.filter_append]

/-- A word is its only word. -/
lemma words_of_isWord {w : List α} (h : IsWord isPart w) : words isPart w = [w] := by
  unfold words
  rw [List.splitOnP_eq_singleton (fun a ha => by simp [h.2 a ha])]
  simp [h.1]

/-- **Splitting undoes joining.** -/
theorem words_joinWords (hsep : isPart sep = false) {ws : List (List α)}
    (hws : ∀ w ∈ ws, IsWord isPart w) : words isPart (joinWords sep ws) = ws := by
  induction ws with
  | nil => rfl
  | cons w ws ih =>
    have hw := words_of_isWord (hws w List.mem_cons_self)
    by_cases hnil : ws = []
    · rw [hnil, joinWords_singleton]
      exact hw
    · rw [joinWords_cons w hnil, words_append_cons _ _ hsep, hw,
        ih fun v hv => hws v (List.mem_cons_of_mem w hv)]
      rfl

/-- **Words can be read back** from their join. -/
theorem joinWords_inj [DecidableEq α] {ws vs : List (List α)}
    (hws : ∀ w ∈ ws, w ≠ [] ∧ sep ∉ w) (hvs : ∀ w ∈ vs, w ≠ [] ∧ sep ∉ w)
    (h : joinWords sep ws = joinWords sep vs) : ws = vs := by
  let isOther : α → Bool := fun a => decide (a ≠ sep)
  have hsep : isOther sep = false := decide_eq_false (not_not_intro rfl)
  have hword : ∀ w : List α, w ≠ [] ∧ sep ∉ w → IsWord isOther w := fun w hw =>
    ⟨hw.1, fun a ha => decide_eq_true fun heq => hw.2 (heq ▸ ha)⟩
  calc
    ws = words isOther (joinWords sep ws) :=
      (words_joinWords hsep fun w hw => hword w (hws w hw)).symm
    _ = words isOther (joinWords sep vs) := by rw [h]
    _ = vs := words_joinWords hsep fun w hw => hword w (hvs w hw)

/-- The pieces of a split have no separator, and only elements of the text. -/
lemma mem_splitOnP {p : α → Bool} {text w : List α} {a : α} (hw : w ∈ text.splitOnP p)
    (ha : a ∈ w) : p a = false ∧ a ∈ text := by
  induction text generalizing w with
  | nil =>
    rw [List.splitOnP_nil, List.mem_singleton] at hw
    rw [hw] at ha
    cases ha
  | cons c text ih =>
    rw [List.splitOnP_cons_eq_if_modifyHead] at hw
    split_ifs at hw with hc
    · obtain rfl | hw := List.mem_cons.mp hw
      · cases ha
      · exact (ih hw ha).imp_right (List.mem_cons_of_mem c)
    · cases hpieces : text.splitOnP p with
      | nil => exact absurd hpieces (List.splitOnP_ne_nil p text)
      | cons first rest =>
        rw [hpieces, List.modifyHead_cons] at hw
        obtain rfl | hw := List.mem_cons.mp hw
        · obtain rfl | ha := List.mem_cons.mp ha
          · exact ⟨by simpa using hc, List.mem_cons_self⟩
          · have hfirst : first ∈ text.splitOnP p := hpieces ▸ List.mem_cons_self
            exact (ih hfirst ha).imp_right (List.mem_cons_of_mem c)
        · have hrest : w ∈ text.splitOnP p := hpieces ▸ List.mem_cons_of_mem first hw
          exact (ih hrest ha).imp_right (List.mem_cons_of_mem c)

/-- The words of a text are words of elements of the text. -/
lemma isWord_of_mem_words {text w : List α} (h : w ∈ words isPart text) :
    IsWord isPart w ∧ ∀ a ∈ w, a ∈ text := by
  obtain ⟨hpiece, hne⟩ := List.mem_filter.mp h
  refine ⟨⟨by simpa using hne, fun a ha => ?_⟩, fun a ha => (mem_splitOnP hpiece ha).2⟩
  simpa using (mem_splitOnP hpiece ha).1

/-! ## Suffixes -/

/-- **The suffixes of joined words.** Joined words end in a separator and other joined words exactly
where those are the last words, and some word is before them.

**Proof sketch.** The words of the joined text are the words themselves (`words_joinWords`), and a
separator splits the words of a text. So the last words are the other ones, and the words before
them are those of the rest, which is then what they join to. -/
theorem joinWords_eq_append_iff (hsep : isPart sep = false) {ws vs : List (List α)}
    (hws : ∀ w ∈ ws, IsWord isPart w) (hvs : ∀ w ∈ vs, w ≠ [] ∧ sep ∉ w) (hne : vs ≠ [])
    {rest : List α} :
    joinWords sep ws = rest ++ sep :: joinWords sep vs ↔
      ∃ us, us ≠ [] ∧ ws = us ++ vs ∧ rest = joinWords sep us := by
  constructor
  · intro h
    have hvs' : ∀ v ∈ vs, IsWord isPart v := by
      intro v hv
      refine ⟨(hvs v hv).1, fun a ha => ?_⟩
      have hjoined : a ∈ joinWords sep ws := by
        rw [h]
        exact List.mem_append_right rest (List.mem_cons_of_mem sep (mem_joinWords_of_mem hv ha))
      rcases mem_joinWords hjoined with rfl | ⟨w, hw, haw⟩
      · exact absurd ha (hvs v hv).2
      · exact (hws w hw).2 a haw
    have hsplit := congrArg (words isPart) h
    rw [words_append_cons _ _ hsep, words_joinWords hsep hws, words_joinWords hsep hvs'] at hsplit
    have hus : words isPart rest ≠ [] := by
      intro hnil
      rw [hnil, List.nil_append] at hsplit
      rw [hsplit] at h
      have hlength := congrArg List.length h
      simp only [List.length_append, List.length_cons] at hlength
      omega
    refine ⟨words isPart rest, hus, hsplit, ?_⟩
    rw [hsplit, joinWords_append hus hne] at h
    exact (List.append_cancel_right h).symm
  · intro h
    obtain ⟨us, hus, rfl, rfl⟩ := h
    exact joinWords_append hus hne

end PsStore
