import PsStore.Application.Games
import PsStore.Lib.Paging

set_option relaxedAutoImplicit false
set_option autoImplicit false

/-!
# The pages of a game list

The server cuts a list into pages with `paginate`, and the client of `modules/gamesQuery.ts` asks
for the page at the offset that the last page names, from offset 0 on, until a page names none.

## Main definitions

* `Web.getNextPageParam` — the offset of the client's next request.

## Main results

* `paginate_nextOffset` — a page names the next offset where elements remain after it.
* `follow_paginate` — following the pages of a list to the end reads the list.
* `Web.paginate_enumerates` — the client's loop ends with the list, and no addition overflows.
-/

namespace PsStore

/-! ## The pages of a list -/

/-- Within the range of `usize`, the page after a page that does not end the list starts where it
stops. -/
lemma paginate_nextOffset {games : List Game} (hlength : games.length ≤ usizeMax)
    (offset size : ℕ) :
    (paginate games offset size).nextOffset =
      if offset + size < games.length then some (offset + size) else none := by
  by_cases h : offset + size < games.length
  · have hend : saturatingAdd offset size = offset + size := by
      unfold saturatingAdd
      omega
    simp only [paginate, hend, if_pos h]
  · have hend : ¬saturatingAdd offset size < games.length := by
      unfold saturatingAdd
      omega
    simp only [paginate, if_neg hend, if_neg h]

/-- **Pages enumerate the list.** Following the pages of a list ends, and their games are the games
of the list from the first offset on, in order.

**Proof sketch.** By induction on the fuel. A page that is not the last one has `size` games and
names the offset behind them, so the other pages have the rest of the list; the last one has what is
left. -/
theorem follow_paginate {ε : Type} {games : List Game} (hlength : games.length ≤ usizeMax)
    {size : ℕ} (hsize : 1 ≤ size) {fuel offset : ℕ} (hfuel : games.length < fuel + offset)
    (hpos : 1 ≤ fuel) :
    ∃ pages, follow (fun offset => (.ok (paginate games offset size) : Except ε PageResult))
        PageResult.nextOffset fuel offset = .ok (pages, none) ∧
      pages.flatMap PageResult.games = games.drop offset := by
  induction fuel generalizing offset with
  | zero => omega
  | succ fuel ih =>
    have hnext := paginate_nextOffset hlength offset size
    by_cases hmore : offset + size < games.length
    · rw [if_pos hmore] at hnext
      have hrest : games.length < fuel + (offset + size) := by omega
      obtain ⟨pages, hpages, hgames⟩ := ih hrest (by omega)
      refine ⟨paginate games offset size :: pages, ?_, ?_⟩
      · exact follow_succ_eq_ok_iff.mpr ⟨_, rfl, Or.inr ⟨_, pages, hnext, rfl, hpages⟩⟩
      · rw [List.flatMap_cons, hgames]
        change (games.drop offset).take size ++ games.drop (offset + size) = games.drop offset
        rw [← List.drop_drop, List.take_append_drop]
    · rw [if_neg hmore] at hnext
      refine ⟨[paginate games offset size], ?_, ?_⟩
      · exact follow_succ_eq_ok_iff.mpr ⟨_, rfl, Or.inl ⟨hnext, rfl, rfl⟩⟩
      · rw [List.flatMap_cons, List.flatMap_nil, List.append_nil]
        change (games.drop offset).take size = games.drop offset
        apply List.take_of_length_le
        rw [List.length_drop]
        omega

namespace Web

/-- The offset of the next page, or `none` to stop. -/
def getNextPageParam (lastPage : PageResult) : Option ℕ := lastPage.nextOffset

/-- **The pages enumerate the list.** A list in memory has at most `usize::MAX` elements.

* For every size of at least 1 the client's loop ends, within one request more than the list has
  elements. The pages together are the list in its order, and each counts the whole list.
* For every offset and size within `usize` the addition stays within `usize`, and the page names a
  next offset exactly where elements remain after it: the unbounded sum of offset and size.

**Proof sketch.** `follow_paginate` is by induction on the fuel, from any offset: a page is the next
part of the list, and its next offset lies behind it. A list of at most `usize::MAX` elements ends
before the addition saturates. -/
theorem paginate_enumerates {games : List Game} (hlength : games.length ≤ usizeMax) :
    (∀ (ε : Type) (size fuel : ℕ), 1 ≤ size → games.length < fuel →
      ∃ pages, follow (fun offset => (.ok (paginate games offset size) : Except ε PageResult))
          getNextPageParam fuel 0 = .ok (pages, none) ∧
        pages.flatMap PageResult.games = games ∧
        ∀ page ∈ pages, page.totalCount = games.length) ∧
      ∀ offset ≤ usizeMax, ∀ size ≤ usizeMax,
        saturatingAdd offset size ≤ usizeMax ∧
        (∀ next ∈ (paginate games offset size).nextOffset, next = offset + size) ∧
        ((paginate games offset size).nextOffset.isSome ↔ (games.drop offset).drop size ≠ []) := by
  constructor
  · intro ε size fuel hsize hfuel
    obtain ⟨pages, hpages, hgames⟩ := @follow_paginate ε games hlength size hsize fuel 0 hfuel
      (by omega)
    refine ⟨pages, hpages, hgames, fun page hpage => ?_⟩
    obtain ⟨offset, hrequest⟩ := exists_of_mem_follow hpages hpage
    cases hrequest
    rfl
  · intro offset hoffset size hsize
    have hremain : (games.drop offset).drop size ≠ [] ↔ offset + size < games.length := by
      rw [List.drop_drop, Ne, List.drop_eq_nil_iff, not_le]
    rw [paginate_nextOffset hlength, hremain]
    refine ⟨Nat.min_le_right _ _, ?_, ?_⟩
    · intro next hnext
      by_cases hmore : offset + size < games.length
      · rw [if_pos hmore] at hnext
        exact (Option.some.inj hnext).symm
      · rw [if_neg hmore] at hnext
        cases hnext
    · by_cases hmore : offset + size < games.length
      · simp [hmore]
      · simp [hmore]

/-- Three cards in pages of two. -/
theorem paginate_enumerates_three :
    let games := List.replicate 3 (conceptToGame sampleConcept sampleProduct.toGameId 0)
    ∃ pages, follow (fun offset => (.ok (paginate games offset 2) : Except Empty PageResult))
        getNextPageParam 4 0 = .ok (pages, none) ∧ pages.flatMap PageResult.games = games := by
  intro games
  have hlength : games.length ≤ usizeMax := by decide
  obtain ⟨hloop, -⟩ := paginate_enumerates hlength
  obtain ⟨pages, hpages, hgames, -⟩ := hloop Empty 2 4 (by decide) (by decide)
  exact ⟨pages, hpages, hgames⟩

end Web

end PsStore
