import Mathlib.Data.List.Basic

set_option relaxedAutoImplicit false
set_option autoImplicit false

/-!
# Search through fallible lists

A search goes through lists in order, and each list may have failed. It stops at the first hit and
at the first failure before a hit, so a failure behind the first hit has no effect.

## Main definitions

* `searchLists` — the first hit, or the first failure before a hit.
* `Misses` — a list that succeeded and holds no hit.

## Main results

* `searchLists_append` — lists that miss are skipped.
* `searchLists_eq_none_iff`, `searchLists_eq_some_iff`, `searchLists_eq_error_iff` — the three
  outcomes of a search.
-/

universe u v

variable {ε : Type u} {α : Type v} (p : α → Bool)

/-- The first element with `p` in the lists, or the first failure before one. -/
def searchLists : List (Except ε (List α)) → Except ε (Option α)
  | [] => .ok none
  | .error e :: _ => .error e
  | .ok l :: rest =>
    match l.find? p with
    | some a => .ok (some a)
    | none => searchLists rest

/-- The list succeeded and has no element with `p`. -/
def Misses (list : Except ε (List α)) : Prop := ∃ l, list = .ok l ∧ ∀ a ∈ l, p a = false

variable {p}

/-- A list that succeeded misses exactly where its search finds nothing. -/
lemma misses_ok_iff {l : List α} : Misses p (.ok l : Except ε (List α)) ↔ l.find? p = none := by
  unfold Misses
  simp [List.find?_eq_none]

/-- **A miss is skipped.** -/
lemma searchLists_cons_of_misses {list : Except ε (List α)} (h : Misses p list)
    (rest : List (Except ε (List α))) : searchLists p (list :: rest) = searchLists p rest := by
  obtain ⟨l, rfl, hl⟩ := h
  have hfind : l.find? p = none := by simpa [List.find?_eq_none] using hl
  rw [searchLists, hfind]

/-- The search of a concatenation goes on in the second part where the first has no hit and no
failure. -/
lemma searchLists_append_eq (lists rest : List (Except ε (List α))) :
    searchLists p (lists ++ rest) =
      match searchLists p lists with
      | .ok none => searchLists p rest
      | outcome => outcome := by
  induction lists with
  | nil => rfl
  | cons list lists ih =>
    cases list with
    | error e => rfl
    | ok l =>
      simp only [List.cons_append, searchLists]
      cases l.find? p with
      | some a => rfl
      | none => exact ih

/-- **Misses are skipped.** -/
lemma searchLists_append {pre : List (Except ε (List α))} (h : ∀ list ∈ pre, Misses p list)
    (rest : List (Except ε (List α))) : searchLists p (pre ++ rest) = searchLists p rest := by
  induction pre with
  | nil => rfl
  | cons list pre ih =>
    rw [List.cons_append, searchLists_cons_of_misses (h list List.mem_cons_self)]
    exact ih fun other hother => h other (List.mem_cons_of_mem _ hother)

/-- A search ends at the first list that does not miss. -/
lemma exists_first_not_misses {lists : List (Except ε (List α))}
    (h : ¬∀ list ∈ lists, Misses p list) :
    ∃ pre list post, lists = pre ++ list :: post ∧ (∀ other ∈ pre, Misses p other) ∧
      ¬Misses p list := by
  induction lists with
  | nil => simp at h
  | cons list lists ih =>
    by_cases hmiss : Misses p list
    · have hrest : ¬∀ other ∈ lists, Misses p other := by
        intro hall
        exact h (List.forall_mem_cons.mpr ⟨hmiss, hall⟩)
      obtain ⟨pre, first, post, rfl, hpre, hfirst⟩ := ih hrest
      exact ⟨list :: pre, first, post, rfl, List.forall_mem_cons.mpr ⟨hmiss, hpre⟩, hfirst⟩
    · exact ⟨[], list, lists, rfl, by simp, hmiss⟩

/-- The search of a list that does not miss ends there, with a hit or a failure. -/
lemma searchLists_cons_of_not_misses {list : Except ε (List α)} (h : ¬Misses p list)
    (rest : List (Except ε (List α))) :
    (∃ e, list = .error e ∧ searchLists p (list :: rest) = .error e) ∨
      ∃ l a, list = .ok l ∧ l.find? p = some a ∧ searchLists p (list :: rest) = .ok (some a) := by
  cases list with
  | error e => exact Or.inl ⟨e, rfl, rfl⟩
  | ok l =>
    cases hfind : l.find? p with
    | none => exact absurd (misses_ok_iff.mpr hfind) h
    | some a =>
      refine Or.inr ⟨l, a, rfl, hfind, ?_⟩
      rw [searchLists, hfind]

/-- **Nothing found.** A search ends without a hit exactly where every list succeeded and
misses. -/
theorem searchLists_eq_none_iff {lists : List (Except ε (List α))} :
    searchLists p lists = .ok none ↔ ∀ list ∈ lists, Misses p list := by
  constructor
  · intro h
    by_contra hnot
    obtain ⟨pre, list, post, rfl, hpre, hlist⟩ := exists_first_not_misses hnot
    rw [searchLists_append hpre] at h
    rcases searchLists_cons_of_not_misses hlist post with ⟨e, -, he⟩ | ⟨l, a, -, -, ha⟩
    · rw [he] at h
      cases h
    · rw [ha] at h
      cases h
  · intro h
    have hskip := searchLists_append h []
    rwa [List.append_nil] at hskip

/-- A search that does not end without a hit is decided by the first list that does not miss. -/
lemma exists_decider {lists : List (Except ε (List α))} (h : searchLists p lists ≠ .ok none) :
    ∃ pre list post, lists = pre ++ list :: post ∧ (∀ l ∈ pre, Misses p l) ∧ ¬Misses p list ∧
      searchLists p lists = searchLists p (list :: post) := by
  have hnot : ¬∀ list ∈ lists, Misses p list := fun hall => h (searchLists_eq_none_iff.mpr hall)
  obtain ⟨pre, list, post, rfl, hpre, hlist⟩ := exists_first_not_misses hnot
  exact ⟨pre, list, post, rfl, hpre, hlist, searchLists_append hpre (list :: post)⟩

/-- **A failed search.** A search fails exactly with the first failure before a hit. -/
theorem searchLists_eq_error_iff {lists : List (Except ε (List α))} {e : ε} :
    searchLists p lists = .error e ↔
      ∃ pre post, lists = pre ++ .error e :: post ∧ ∀ list ∈ pre, Misses p list := by
  constructor
  · intro h
    obtain ⟨pre, list, post, rfl, hpre, hlist, hsearch⟩ :=
      exists_decider (show searchLists p lists ≠ .ok none by rw [h]; simp)
    rw [hsearch] at h
    rcases searchLists_cons_of_not_misses hlist post with ⟨e', rfl, he⟩ | ⟨l, a, -, -, ha⟩
    · rw [he] at h
      cases h
      exact ⟨pre, post, rfl, hpre⟩
    · rw [ha] at h
      cases h
  · intro h
    obtain ⟨pre, post, rfl, hpre⟩ := h
    rw [searchLists_append hpre]
    rfl

/-- **A hit.** A search finds exactly the first hit of the first list that does not miss, where
that list succeeded. -/
theorem searchLists_eq_some_iff {lists : List (Except ε (List α))} {a : α} :
    searchLists p lists = .ok (some a) ↔
      ∃ pre l post, lists = pre ++ .ok l :: post ∧ (∀ list ∈ pre, Misses p list) ∧
        l.find? p = some a := by
  constructor
  · intro h
    obtain ⟨pre, list, post, rfl, hpre, hlist, hsearch⟩ :=
      exists_decider (show searchLists p lists ≠ .ok none by rw [h]; simp)
    rw [hsearch] at h
    rcases searchLists_cons_of_not_misses hlist post with ⟨e, -, he⟩ | ⟨l, b, rfl, hb, hok⟩
    · rw [he] at h
      cases h
    · rw [hok] at h
      cases h
      exact ⟨pre, l, post, rfl, hpre, hb⟩
  · intro h
    obtain ⟨pre, l, post, rfl, hpre, ha⟩ := h
    rw [searchLists_append hpre, searchLists, ha]
