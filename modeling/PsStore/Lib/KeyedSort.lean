import Mathlib.Data.List.Sort
import Mathlib.Order.Compare

set_option relaxedAutoImplicit false
set_option autoImplicit false

/-!
# Stable sorting by an optional key

A stable sort under a comparison function that is a total preorder, and the comparison of optional
keys in two directions that puts the missing keys last in both.

## Main definitions

* `SortDirection`, `optionalOrder` — the comparison of optional keys in a direction.
* `stableSort` — the stable sort under a comparison function.
* `SortsByKey` — what a list sort by an optional key promises.

## Main results

* `transCmp_optionalOrder` — the comparison of optional keys is a total preorder.
* `filter_stableSort` — elements that compare as equal keep their order.
* `sortsByKey_stableSort` — the stable sort keeps the whole promise.
-/

namespace PsStore

/-! ## The comparison of optional keys -/

/-- The direction of a sort. -/
inductive SortDirection where
  | asc
  | desc
deriving DecidableEq

/-- A comparison result in a direction. -/
def SortDirection.apply : SortDirection → Ordering → Ordering
  | .asc, order => order
  | .desc, order => order.swap

section

variable {κ : Type} (cmp : κ → κ → Ordering)

/-- The comparison of optional keys in a direction. A missing key is after every other key, in both
directions. -/
def optionalOrder (direction : SortDirection) : Option κ → Option κ → Ordering
  | none, none => .eq
  | none, some _ => .gt
  | some _, none => .lt
  | some a, some b => direction.apply (cmp a b)

/-- The direction keeps a total preorder. -/
lemma transCmp_direction [Std.TransCmp cmp] (direction : SortDirection) :
    Std.TransCmp fun a b => direction.apply (cmp a b) := by
  cases direction with
  | asc => exact inferInstanceAs (Std.TransCmp cmp)
  | desc =>
    have hswap : (fun a b => SortDirection.desc.apply (cmp a b)) = fun a b => cmp b a := by
      funext a b
      exact Std.OrientedCmp.eq_swap.symm
    rw [hswap]
    infer_instance

/-- **The comparison of optional keys is a total preorder.**

**Proof sketch.** Two present keys compare as in the direction. With a missing key the result
depends only on which keys are missing. -/
theorem transCmp_optionalOrder [Std.TransCmp cmp] (direction : SortDirection) :
    Std.TransCmp (optionalOrder cmp direction) := by
  have hdirection := transCmp_direction cmp direction
  refine { eq_swap := ?_, isLE_trans := ?_ }
  · rintro (_ | a) (_ | b)
    · rfl
    · rfl
    · rfl
    · exact hdirection.eq_swap
  · rintro (_ | a) (_ | b) (_ | c) hab hbc
    · exact hab
    · exact hbc
    · rfl
    · cases hab
    · rfl
    · cases hbc
    · rfl
    · exact hdirection.isLE_trans hab hbc

/-- A comparison by the image under a function is a total preorder, too. -/
lemma transCmp_comp {α : Type} [Std.TransCmp cmp] (f : α → κ) :
    Std.TransCmp fun a b => cmp (f a) (f b) where
  eq_swap := Std.OrientedCmp.eq_swap
  isLE_trans := Std.TransCmp.isLE_trans

end

/-! ## The stable sort -/

section

variable {α : Type} (cmp : α → α → Ordering)

/-- The stable sort: no element moves in front of one that it compares as equal to. -/
def stableSort (l : List α) : List α := l.insertionSort fun a b => cmp a b ≠ .gt

/-- What a sort by an optional key promises. `hasKey` says which elements have one. -/
structure SortsByKey (hasKey : α → Bool) (sort : List α → List α) : Prop where
  /-- The comparison is a total preorder. -/
  preorder : Std.TransCmp cmp
  /-- No element is lost or repeated. -/
  perm : ∀ l, (sort l).Perm l
  /-- No element is in front of a smaller one. -/
  sorted : ∀ l, (sort l).Pairwise fun a b => cmp a b ≠ .gt
  /-- The elements that compare as equal to `a` keep their order. -/
  stable : ∀ l a, (sort l).filter (fun b => cmp b a = .eq) = l.filter fun b => cmp b a = .eq
  /-- The elements without a key are last, in the order of the list. -/
  missing_last : ∀ l, sort l = (sort l).filter hasKey ++ l.filter fun a => !hasKey a
  /-- Sorting again changes nothing. -/
  idem : ∀ l, sort (sort l) = sort l

variable {cmp}

/-- Sorting loses and repeats no element. -/
lemma perm_stableSort (l : List α) : (stableSort cmp l).Perm l := List.perm_insertionSort _ l

/-- The sorted list is in order. -/
lemma pairwise_stableSort [Std.TransCmp cmp] (l : List α) :
    (stableSort cmp l).Pairwise fun a b => cmp a b ≠ .gt := by
  have htotal : Std.Total fun a b => cmp a b ≠ .gt := by
    refine ⟨fun a b => ?_⟩
    rw [@Std.OrientedCmp.eq_swap _ cmp _ b a]
    cases cmp a b <;> simp
  have htrans : IsTrans α fun a b => cmp a b ≠ .gt := by
    refine ⟨fun a b c hab hbc => ?_⟩
    rw [Ne, Ordering.ne_gt_iff_isLE] at hab hbc ⊢
    exact Std.TransCmp.isLE_trans hab hbc
  exact List.pairwise_insertionSort _ l

/-- **The sort is stable.** The elements of a class that compare as equal keep their order.

**Proof sketch.** The class is in order within the list, so it is a sublist of the sorted list, and
the sorted list has no more elements of the class than the list. -/
theorem filter_stableSort {p : α → Bool} (hp : ∀ a b, p a = true → p b = true → cmp a b ≠ .gt)
    (l : List α) : (stableSort cmp l).filter p = l.filter p := by
  have hordered : (l.filter p).Pairwise fun a b => cmp a b ≠ .gt := by
    apply List.Pairwise.imp_of_mem (R := fun _ _ => True)
    · intro a b ha hb _
      exact hp a b (List.mem_filter.mp ha).2 (List.mem_filter.mp hb).2
    · exact List.pairwise_of_forall (by simp)
  have hsublist : (l.filter p).Sublist ((stableSort cmp l).filter p) := by
    have hin : (l.filter p).Sublist (stableSort cmp l) :=
      List.sublist_insertionSort hordered List.filter_sublist
    have hfilter := hin.filter p
    rw [List.filter_filter] at hfilter
    simpa using hfilter
  have hlength : ((stableSort cmp l).filter p).length = (l.filter p).length :=
    ((perm_stableSort l).filter p).length_eq
  exact (hsublist.eq_of_length hlength.symm).symm

/-- A list whose elements with `p` are in front of the others is those elements and then the
others. -/
lemma eq_filter_append_filter {p : α → Bool} {l : List α}
    (h : l.Pairwise fun a b => p b = true → p a = true) :
    l = l.filter p ++ l.filter fun a => !p a := by
  induction l with
  | nil => rfl
  | cons a l ih =>
    rw [List.pairwise_cons] at h
    cases ha : p a with
    | true =>
      rw [List.filter_cons_of_pos ha, List.filter_cons_of_neg (by simp [ha]), List.cons_append,
        ← ih h.2]
    | false =>
      have hnone : l.filter p = [] := by
        rw [List.filter_eq_nil_iff]
        intro b hb hpb
        rw [h.1 b hb hpb] at ha
        cases ha
      have hall : l.filter (fun b => !p b) = l := by
        have hl := ih h.2
        rw [hnone, List.nil_append] at hl
        exact hl.symm
      rw [List.filter_cons_of_neg (by simp [ha]), hnone, List.nil_append,
        List.filter_cons_of_pos (by simp [ha]), hall]

/-- **The stable sort by an optional key** keeps the whole promise.

**Proof sketch.** The order of the keys is a preorder, so its pullback to the elements is one, and
the sort is sorted and a permutation. A part whose elements the order does not tell apart is left as
it is (`filter_stableSort`): this gives the stability, and that the elements without a key, which
come last, keep their order. -/
theorem sortsByKey_stableSort {κ : Type} {cmp : κ → κ → Ordering} [Std.TransCmp cmp]
    (direction : SortDirection) (key : α → Option κ) :
    SortsByKey (fun a b => optionalOrder cmp direction (key a) (key b)) (fun a => (key a).isSome)
      (stableSort fun a b => optionalOrder cmp direction (key a) (key b)) := by
  have hoptional := transCmp_optionalOrder cmp direction
  have hpreorder := transCmp_comp (optionalOrder cmp direction) key
  refine {
    preorder := hpreorder
    perm := perm_stableSort
    sorted := pairwise_stableSort
    stable := fun l a => ?_
    missing_last := fun l => ?_
    idem := fun l => (pairwise_stableSort l).insertionSort_eq }
  · apply filter_stableSort
    intro b c hb hc
    have hb' := of_decide_eq_true hb
    have hc' := of_decide_eq_true hc
    rw [Ne, Ordering.ne_gt_iff_isLE]
    refine hpreorder.isLE_trans (Ordering.isLE_of_eq_eq hb') ?_
    rw [hpreorder.eq_swap, hc']
    rfl
  · have hkeyless : (stableSort (fun a b => optionalOrder cmp direction (key a) (key b))
        l).filter (fun a => !(key a).isSome) = l.filter fun a => !(key a).isSome := by
      apply filter_stableSort
      intro b c hb hc
      have hb' : key b = none := by simpa using hb
      have hc' : key c = none := by simpa using hc
      rw [hb', hc']
      show Ordering.eq ≠ .gt
      decide
    rw [← hkeyless]
    apply eq_filter_append_filter
    apply (pairwise_stableSort l).imp
    intro a b hle hb
    cases hkey : key a with
    | some k => rfl
    | none =>
      obtain ⟨k, hk⟩ := Option.isSome_iff_exists.mp hb
      rw [hkey, hk] at hle
      exact absurd rfl hle

end

end PsStore
