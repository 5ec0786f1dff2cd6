import Mathlib.Data.List.Basic

set_option relaxedAutoImplicit false
set_option autoImplicit false

/-!
# Following the next offset

A client reads a list in pages: it asks for the page at an offset, and each page names the offset
of the next one or ends the list. A request may fail.

## Main definitions

* `follow` — the pages of following the next offset, and the offset that is left to follow.

## Main results

* `follow_succ_eq_ok_iff` — one more request, by the page it gives.
* `length_of_follow` — where an offset is left to follow, every request gave a page.
* `exists_of_mem_follow` — every page is the answer to a request.
* `follow_append`, `next_getLast_of_follow` — one more request at the end, from the offset that the
  last page names.
-/

universe u v

variable {ε : Type u} {π : Type v} (request : ℕ → Except ε π) (next : π → Option ℕ)

/-- The pages of following the next offset from `offset` in at most `fuel` requests, and the
offset that is left to follow: none after a page that ends the list. -/
def follow : ℕ → ℕ → Except ε (List π × Option ℕ)
  | 0, offset => .ok ([], some offset)
  | fuel + 1, offset =>
    match request offset with
    | .error e => .error e
    | .ok page =>
      match next page with
      | none => .ok ([page], none)
      | some offset =>
        match follow fuel offset with
        | .error e => .error e
        | .ok (pages, left) => .ok (page :: pages, left)

variable {request next}

/-- **One more request.** It gives a page, and either the page ends the list or the rest follows
from the offset that the page names.

**Proof sketch.** The cases are those of the definition: the request fails, or its page ends the
list or names the next offset. -/
lemma follow_succ_eq_ok_iff {fuel offset : ℕ} {pages : List π} {left : Option ℕ} :
    follow request next (fuel + 1) offset = .ok (pages, left) ↔
      ∃ page, request offset = .ok page ∧
        ((next page = none ∧ pages = [page] ∧ left = none) ∨
          ∃ offset' rest, next page = some offset' ∧ pages = page :: rest ∧
            follow request next fuel offset' = .ok (rest, left)) := by
  rw [follow]
  cases hrequest : request offset with
  | error e => simp
  | ok page =>
    dsimp only
    cases hnext : next page with
    | none =>
      constructor
      · intro h
        cases h
        exact ⟨page, rfl, Or.inl ⟨hnext, rfl, rfl⟩⟩
      · intro h
        obtain ⟨page', hpage, ⟨-, rfl, rfl⟩ | ⟨offset', rest, hsome, -⟩⟩ := h
        · cases hpage
          rfl
        · cases hpage
          rw [hnext] at hsome
          cases hsome
    | some offset' =>
      dsimp only
      constructor
      · intro h
        cases hrest : follow request next fuel offset' with
        | error e =>
          rw [hrest] at h
          cases h
        | ok outcome =>
          rw [hrest] at h
          cases h
          exact ⟨page, rfl, Or.inr ⟨offset', outcome.1, hnext, rfl, hrest⟩⟩
      · intro h
        obtain ⟨page', hpage, ⟨hnone, -, -⟩ | ⟨other, rest, hsome, rfl, hrest⟩⟩ := h
        · cases hpage
          rw [hnext] at hnone
          cases hnone
        · cases hpage
          rw [hnext] at hsome
          cases hsome
          rw [hrest]

/-- Where an offset is left to follow, every request gave a page. -/
lemma length_of_follow {fuel offset offset' : ℕ} {pages : List π}
    (h : follow request next fuel offset = .ok (pages, some offset')) : pages.length = fuel := by
  induction fuel generalizing offset pages with
  | zero =>
    cases h
    rfl
  | succ fuel ih =>
    obtain ⟨page, -, ⟨-, -, hleft⟩ | ⟨_, rest, -, rfl, hrest⟩⟩ := follow_succ_eq_ok_iff.mp h
    · cases hleft
    · rw [List.length_cons, ih hrest]

/-- Every page is the answer to one of the requests. -/
lemma exists_of_mem_follow {fuel offset : ℕ} {pages : List π} {left : Option ℕ}
    (h : follow request next fuel offset = .ok (pages, left)) {page : π} (hpage : page ∈ pages) :
    ∃ offset', request offset' = .ok page := by
  induction fuel generalizing offset pages with
  | zero =>
    cases h
    cases hpage
  | succ fuel ih =>
    obtain ⟨first, hfirst, ⟨-, rfl, -⟩ | ⟨offset', rest, -, rfl, hrest⟩⟩ :=
      follow_succ_eq_ok_iff.mp h
    · rw [List.mem_singleton.mp hpage]
      exact ⟨offset, hfirst⟩
    · obtain rfl | hin := List.mem_cons.mp hpage
      · exact ⟨offset, hfirst⟩
      · exact ih hrest hin

/-- The offset that is left is the one that the last page names. -/
lemma next_getLast_of_follow {fuel offset : ℕ} {pages : List π} {left : Option ℕ} (hne : pages ≠ [])
    (h : follow request next fuel offset = .ok (pages, left)) :
    pages.getLast?.bind next = left := by
  induction fuel generalizing offset pages with
  | zero =>
    cases h
    exact absurd rfl hne
  | succ fuel ih =>
    obtain ⟨page, -, ⟨hend, rfl, rfl⟩ | ⟨offset', rest, hmore, rfl, hrest⟩⟩ :=
      follow_succ_eq_ok_iff.mp h
    · exact hend
    · by_cases hnil : rest = []
      · subst hnil
        cases fuel with
        | zero =>
          cases hrest
          exact hmore
        | succ fuel =>
          obtain ⟨_, -, ⟨-, hpages, -⟩ | ⟨_, _, -, hpages, -⟩⟩ := follow_succ_eq_ok_iff.mp hrest
          · cases hpages
          · cases hpages
      · rw [List.getLast?_cons_of_ne_nil hnil]
        exact ih hnil hrest

/-- **One more request at the end.** -/
lemma follow_append {fuel offset offset' : ℕ} {pages : List π} {page : π}
    (h : follow request next fuel offset = .ok (pages, some offset'))
    (hpage : request offset' = .ok page) :
    follow request next (fuel + 1) offset = .ok (pages ++ [page], next page) := by
  induction fuel generalizing offset pages with
  | zero =>
    cases h
    rw [follow_succ_eq_ok_iff]
    cases hnext : next page with
    | none => exact ⟨page, hpage, Or.inl ⟨hnext, rfl, rfl⟩⟩
    | some offset'' => exact ⟨page, hpage, Or.inr ⟨offset'', [], hnext, rfl, rfl⟩⟩
  | succ fuel ih =>
    obtain ⟨first, hfirst, ⟨-, -, hleft⟩ | ⟨middle, rest, hmore, rfl, hrest⟩⟩ :=
      follow_succ_eq_ok_iff.mp h
    · cases hleft
    · exact follow_succ_eq_ok_iff.mpr
        ⟨first, hfirst, Or.inr ⟨middle, rest ++ [page], hmore, rfl, ih hrest⟩⟩
