import Mathlib.Data.Finset.Lattice.Lemmas
import Mathlib.Data.List.Forall2
import Mathlib.Data.List.Induction
import Mathlib.Data.List.Nodup

set_option relaxedAutoImplicit false
set_option autoImplicit false

/-!
# First-wins deduplication

Filtering a list through a set of keys already seen keeps the first element of each key and
drops the later ones, in the order of the list.

## Main definitions

* `firstWinsFrom` — the filter with the keys `seen` already present.
* `firstWins` — the filter from the empty set.
* `repeats` — the elements that the filter drops.
* `FirstOf` — what an index of a list selects, where no earlier index selects the same key.
* `FirstOfKey` — a list, its first elements of each key, and the number of the others.

## Main results

* `nodup_map_firstWins` — no key occurs twice in the result.
* `mem_firstWins_iff` — the kept elements are the first ones of their keys.
* `exists_mem_firstWins` — no key is lost.
* `firstWins_append` — the filter of a concatenation.
* `filter_firstWins` — a selection of keys commutes with the filter.
* `firstWins_append_repeats` — every element is either kept or dropped.
* `firstWins_id` — of a list of keys it keeps the first occurrence of each.
* `forall₂_firstWins_filterMap` — after a selection it keeps what the first indices select.
* `firstOfKey_firstWins` — it keeps the first elements of each key.
-/

universe u v

variable {α : Type u} {κ : Type v} [DecidableEq κ] (key : α → κ)

/-- The elements of a list whose key is neither in `seen` nor the key of an earlier element. -/
def firstWinsFrom (seen : Finset κ) : List α → List α
  | [] => []
  | a :: l =>
    if key a ∈ seen then firstWinsFrom seen l
    else a :: firstWinsFrom (insert (key a) seen) l

/-- The elements of a list whose key is not the key of an earlier element. -/
def firstWins (l : List α) : List α := firstWinsFrom key ∅ l

/-- The elements of a list whose key is in `seen` or the key of an earlier element. -/
def repeatsFrom (seen : Finset κ) : List α → List α
  | [] => []
  | a :: l =>
    if key a ∈ seen then a :: repeatsFrom seen l
    else repeatsFrom (insert (key a) seen) l

/-- The elements of a list whose key is the key of an earlier element. -/
def repeats (l : List α) : List α := repeatsFrom key ∅ l

variable {key} {seen : Finset κ} {l : List α}

/-- The filter keeps elements of the list, in the order of the list. -/
lemma firstWinsFrom_sublist (seen : Finset κ) (l : List α) :
    (firstWinsFrom key seen l).Sublist l := by
  induction l generalizing seen with
  | nil => simp [firstWinsFrom]
  | cons a l ih =>
    unfold firstWinsFrom
    split_ifs with h
    · exact (ih seen).cons a
    · exact (ih _).cons_cons a

/-- A kept element has a key that was not seen before. -/
lemma key_notMem_of_mem_firstWinsFrom {b : α} (hb : b ∈ firstWinsFrom key seen l) :
    key b ∉ seen := by
  induction l generalizing seen with
  | nil => simp [firstWinsFrom] at hb
  | cons a l ih =>
    unfold firstWinsFrom at hb
    split_ifs at hb with h
    · exact ih hb
    · rcases List.mem_cons.mp hb with rfl | hb
      · exact h
      · exact fun hs => ih hb (Finset.mem_insert_of_mem hs)

/-- The keys of the kept elements are distinct. -/
lemma nodup_map_firstWinsFrom (seen : Finset κ) (l : List α) :
    ((firstWinsFrom key seen l).map key).Nodup := by
  induction l generalizing seen with
  | nil => simp [firstWinsFrom]
  | cons a l ih =>
    unfold firstWinsFrom
    split_ifs with h
    · exact ih seen
    · rw [List.map_cons, List.nodup_cons]
      refine ⟨fun hmem => ?_, ih _⟩
      obtain ⟨b, hb, hkey⟩ := List.mem_map.mp hmem
      exact key_notMem_of_mem_firstWinsFrom hb (by simp [hkey])

/-- Every key of the list that was not seen before is the key of a kept element. -/
lemma exists_mem_firstWinsFrom {a : α} (ha : a ∈ l) (hseen : key a ∉ seen) :
    ∃ b ∈ firstWinsFrom key seen l, key b = key a := by
  induction l generalizing seen with
  | nil => simp at ha
  | cons c l ih =>
    unfold firstWinsFrom
    split_ifs with h
    · rcases List.mem_cons.mp ha with rfl | ha
      · exact absurd h hseen
      · exact ih ha hseen
    · by_cases hca : key c = key a
      · exact ⟨c, by simp, hca⟩
      · rcases List.mem_cons.mp ha with rfl | ha
        · exact absurd rfl hca
        · have hseen' : key a ∉ insert (key c) seen := by simp [hseen, Ne.symm hca]
          obtain ⟨b, hb, hkey⟩ := ih ha hseen'
          exact ⟨b, List.mem_cons_of_mem _ hb, hkey⟩

/-- The filter of a concatenation: the second part also skips the keys of the first. -/
lemma firstWinsFrom_append (seen : Finset κ) (l l' : List α) :
    firstWinsFrom key seen (l ++ l') =
      firstWinsFrom key seen l ++ firstWinsFrom key (seen ∪ (l.map key).toFinset) l' := by
  induction l generalizing seen with
  | nil => simp [firstWinsFrom]
  | cons a l ih =>
    simp only [List.cons_append, firstWinsFrom, List.map_cons, List.toFinset_cons,
      Finset.union_insert]
    split_ifs with h
    · have hin : key a ∈ seen ∪ (l.map key).toFinset := Finset.mem_union_left _ h
      rw [ih, Finset.insert_eq_of_mem hin]
    · rw [ih, List.cons_append, Finset.insert_union]

/-- Only the keys of the list matter among those already seen. -/
lemma firstWinsFrom_congr {seen' : Finset κ} (h : ∀ a ∈ l, key a ∈ seen ↔ key a ∈ seen') :
    firstWinsFrom key seen l = firstWinsFrom key seen' l := by
  induction l generalizing seen seen' with
  | nil => rfl
  | cons a l ih =>
    have ha := h a List.mem_cons_self
    have hl : ∀ b ∈ l, key b ∈ seen ↔ key b ∈ seen' := fun b hb => h b (List.mem_cons_of_mem _ hb)
    unfold firstWinsFrom
    by_cases hmem : key a ∈ seen
    · rw [if_pos hmem, if_pos (ha.mp hmem)]
      exact ih hl
    · rw [if_neg hmem, if_neg (mt ha.mpr hmem)]
      congr 1
      refine ih fun b hb => ?_
      simp only [Finset.mem_insert, hl b hb]

/-- Selecting keys before the filter or after it keeps the same elements. -/
lemma filter_firstWinsFrom (q : κ → Bool) (seen : Finset κ) (l : List α) :
    (firstWinsFrom key seen l).filter (fun a => q (key a)) =
      firstWinsFrom key seen (l.filter fun a => q (key a)) := by
  induction l generalizing seen with
  | nil => rfl
  | cons a l ih =>
    rw [firstWinsFrom, List.filter_cons]
    by_cases hq : q (key a) = true
    · rw [if_pos hq, firstWinsFrom]
      split_ifs
      · exact ih seen
      · rw [List.filter_cons, if_pos hq, ih]
    · rw [if_neg hq]
      split_ifs
      · exact ih seen
      · rw [List.filter_cons, if_neg hq, ih]
        -- the selected elements have other keys than the one that was seen
        refine firstWinsFrom_congr fun b hb => ?_
        have hne : key b ≠ key a := by
          intro hkey
          exact hq (hkey ▸ (List.mem_filter.mp hb).2)
        simp [hne]

/-- The kept elements and the dropped ones are the elements of the list. -/
lemma firstWinsFrom_append_repeatsFrom (seen : Finset κ) (l : List α) :
    (firstWinsFrom key seen l ++ repeatsFrom key seen l).Perm l := by
  induction l generalizing seen with
  | nil => rfl
  | cons a l ih =>
    unfold firstWinsFrom repeatsFrom
    split_ifs with h
    · exact List.perm_middle.trans ((ih seen).cons a)
    · exact (ih _).cons a

variable (key)

/-- **No element is lost.** Every element is either kept or dropped as a repeat. -/
lemma firstWins_append_repeats (l : List α) : (firstWins key l ++ repeats key l).Perm l :=
  firstWinsFrom_append_repeatsFrom ∅ l

/-- **Selection.** Selecting keys before the filter or after it keeps the same elements. -/
lemma filter_firstWins (q : κ → Bool) (l : List α) :
    (firstWins key l).filter (fun a => q (key a)) =
      firstWins key (l.filter fun a => q (key a)) :=
  filter_firstWinsFrom q ∅ l

/-- Where the elements are their own keys, the filter erases the repeats of each element. -/
lemma firstWinsFrom_id (seen : Finset κ) (l : List κ) :
    firstWinsFrom id seen l = (l.filter fun a => a ∉ seen).eraseDups := by
  induction l generalizing seen with
  | nil => rfl
  | cons a l ih =>
    rw [firstWinsFrom, id_eq]
    by_cases hseen : a ∈ seen
    · rw [if_pos hseen, List.filter_cons_of_neg (by simpa using hseen), ih]
    · rw [if_neg hseen, List.filter_cons_of_pos (by simpa using hseen), List.eraseDups_cons, ih,
        List.filter_filter]
      congr 3
      funext b
      simp [beq_eq_decide]

/-- First-wins filtering by the elements themselves keeps the first occurrence of each. -/
lemma firstWins_id (l : List κ) : firstWins id l = l.eraseDups := by
  rw [firstWins, firstWinsFrom_id]
  simp

/-- First-wins filtering keeps elements of the list, in the order of the list. -/
lemma firstWins_sublist (l : List α) : (firstWins key l).Sublist l :=
  firstWinsFrom_sublist ∅ l

/-- **Distinct keys.** No key occurs twice after first-wins filtering. -/
lemma nodup_map_firstWins (l : List α) : ((firstWins key l).map key).Nodup :=
  nodup_map_firstWinsFrom ∅ l

/-- **No key is lost.** Every element has a kept element of its key. -/
lemma exists_mem_firstWins {a : α} (ha : a ∈ l) : ∃ b ∈ firstWins key l, key b = key a :=
  exists_mem_firstWinsFrom ha (Finset.notMem_empty _)

/-- First-wins filtering empties only the empty list. -/
lemma firstWins_eq_nil_iff {l : List α} : firstWins key l = [] ↔ l = [] := by
  constructor
  · intro h
    refine List.eq_nil_iff_forall_not_mem.mpr fun a ha => ?_
    obtain ⟨b, hb, -⟩ := exists_mem_firstWins key ha
    rw [h] at hb
    cases hb
  · rintro rfl
    rfl

/-- The first-wins filter of a concatenation drops from the second part the keys of the first. -/
lemma firstWins_append (l l' : List α) :
    firstWins key (l ++ l') = firstWins key l ++ firstWinsFrom key (l.map key).toFinset l' := by
  rw [firstWins, firstWinsFrom_append, firstWins, Finset.empty_union]

variable {key}

/-- The first element of its key is kept. -/
lemma mem_firstWinsFrom_of_first {a : α} {pre post : List α} (hseen : key a ∉ seen)
    (hpre : ∀ b ∈ pre, key b ≠ key a) : a ∈ firstWinsFrom key seen (pre ++ a :: post) := by
  rw [firstWinsFrom_append]
  refine List.mem_append_right _ ?_
  rw [firstWinsFrom, if_neg]
  · exact List.mem_cons_self
  · simp only [Finset.mem_union, List.mem_toFinset, List.mem_map, not_or]
    exact ⟨hseen, fun ⟨b, hb, hkey⟩ => hpre b hb hkey⟩

/-- **First wins.** An element is kept exactly where it occurs in the list before every other
element of its key. -/
lemma mem_firstWins_iff {a : α} :
    a ∈ firstWins key l ↔ ∃ pre post, l = pre ++ a :: post ∧ ∀ b ∈ pre, key b ≠ key a := by
  constructor
  · intro ha
    obtain ⟨pre, post, rfl, hpre⟩ :=
      List.eq_append_cons_of_mem ((firstWins_sublist key l).subset ha)
    refine ⟨pre, post, rfl, fun b hb hkey => ?_⟩
    rw [firstWins_append, List.mem_append] at ha
    rcases ha with ha | ha
    · exact hpre ((firstWins_sublist key pre).subset ha)
    · refine key_notMem_of_mem_firstWinsFrom ha ?_
      exact List.mem_toFinset.mpr (hkey ▸ List.mem_map_of_mem hb)
  · intro h
    obtain ⟨pre, post, rfl, hpre⟩ := h
    exact mem_firstWinsFrom_of_first (Finset.notMem_empty _) hpre

/-- The kept element of a key is the first one of the list with that key. -/
lemma mem_firstWins_iff_find? {a : α} :
    a ∈ firstWins key l ↔ l.find? (fun b => key b == key a) = some a := by
  rw [mem_firstWins_iff, List.find?_eq_some_iff_append]
  simp

/-! ## First indices -/

section

variable {β : Type v} {γ : Type u} (f : α → Option β) (keyOf : β → γ)

/-- An index selects `b`, and no earlier index selects an element of its key. -/
def FirstOf (l : List α) (i : ℕ) (b : β) : Prop :=
  l[i]?.bind f = some b ∧ ∀ j < i, ∀ c, l[j]?.bind f = some c → keyOf c ≠ keyOf b

variable {f keyOf}

/-- The keys that a list selects are the keys that its indices select. -/
lemma mem_map_filterMap_iff {l : List α} {k : γ} :
    k ∈ (l.filterMap f).map keyOf ↔
      ∃ j < l.length, ∃ c, l[j]?.bind f = some c ∧ keyOf c = k := by
  simp only [List.mem_map, List.mem_filterMap]
  constructor
  · intro h
    obtain ⟨c, ⟨a, ha, hc⟩, hkey⟩ := h
    obtain ⟨j, hj, rfl⟩ := List.getElem_of_mem ha
    refine ⟨j, hj, c, ?_, hkey⟩
    rw [List.getElem?_eq_getElem hj, Option.bind_some, hc]
  · intro h
    obtain ⟨j, hj, c, hc, hkey⟩ := h
    rw [List.getElem?_eq_getElem hj, Option.bind_some] at hc
    exact ⟨c, ⟨l[j], List.getElem_mem hj, hc⟩, hkey⟩

/-- An index that selects an element is an index of the list. -/
lemma FirstOf.lt_length {l : List α} {i : ℕ} {b : β} (h : FirstOf f keyOf l i b) :
    i < l.length := by
  by_contra hlt
  obtain ⟨hb, -⟩ := h
  rw [List.getElem?_eq_none (Nat.le_of_not_lt hlt)] at hb
  cases hb

/-- One more element at the end adds its index, where its key is new.

**Proof sketch.** By the place of the index. One of the list sees only the list. The last one is the
new element, which is the first of its key where no element of the list has this key. There is no
index beyond. -/
lemma firstOf_concat {l : List α} {a : α} {i : ℕ} {b : β} :
    FirstOf f keyOf (l ++ [a]) i b ↔ FirstOf f keyOf l i b ∨
      (i = l.length ∧ f a = some b ∧ keyOf b ∉ (l.filterMap f).map keyOf) := by
  have hfront : ∀ j < l.length, (l ++ [a])[j]? = l[j]? := fun j hj =>
    List.getElem?_append_left hj
  rw [mem_map_filterMap_iff]
  obtain hlt | rfl | hgt := Nat.lt_trichotomy i l.length
  · -- an index of the list sees only the list
    have hsame : FirstOf f keyOf (l ++ [a]) i b ↔ FirstOf f keyOf l i b := by
      unfold FirstOf
      rw [hfront i hlt]
      refine and_congr_right fun _ => forall₂_congr fun j hj => ?_
      rw [hfront j (Nat.lt_trans hj hlt)]
    rw [hsame]
    constructor
    · exact Or.inl
    · intro h
      obtain h | ⟨rfl, -⟩ := h
      · exact h
      · omega
  · have hlast : (l ++ [a])[l.length]? = some a := by simp
    constructor
    · intro h
      obtain ⟨hb, hfirst⟩ := h
      rw [hlast, Option.bind_some] at hb
      refine Or.inr ⟨rfl, hb, ?_⟩
      rintro ⟨j, hj, c, hc, hkey⟩
      refine hfirst j hj c ?_ hkey
      rw [hfront j hj, hc]
    · intro h
      obtain h | ⟨-, hb, hnew⟩ := h
      · exact absurd h.lt_length (Nat.lt_irrefl _)
      · refine ⟨by rw [hlast, Option.bind_some, hb], fun j hj c hc hkey => ?_⟩
        rw [hfront j hj] at hc
        exact hnew ⟨j, hj, c, hc, hkey⟩
  · constructor
    · intro h
      have hlen := h.lt_length
      rw [List.length_append, List.length_singleton] at hlen
      omega
    · intro h
      obtain h | ⟨rfl, -⟩ := h
      · exact absurd h.lt_length (by omega)
      · omega

variable [DecidableEq γ]

/-- One more element at the end is filtered by the keys in front of it. -/
lemma firstWins_concat (l : List β) (b : β) :
    firstWins keyOf (l ++ [b]) =
      firstWins keyOf l ++ if keyOf b ∈ l.map keyOf then [] else [b] := by
  rw [firstWins_append, firstWinsFrom]
  congr 1
  simp only [List.mem_toFinset, firstWinsFrom]

/-- **First indices.** First-wins filtering after a selection keeps, in the order of the list,
what the first index of each key selects.

**Proof sketch.** By induction on the list from its end: one more element adds its index and its
selection together, or neither. -/
theorem forall₂_firstWins_filterMap (l : List α) :
    ∃ indices : List ℕ, indices.Pairwise (· < ·) ∧
      (∀ i, i ∈ indices ↔ ∃ b, FirstOf f keyOf l i b) ∧
      List.Forall₂ (FirstOf f keyOf l) indices (firstWins keyOf (l.filterMap f)) := by
  induction l using List.reverseRecOn with
  | nil =>
    refine ⟨[], List.Pairwise.nil, fun i => ?_, List.Forall₂.nil⟩
    constructor
    · intro h
      cases h
    · intro h
      obtain ⟨b, hb, -⟩ := h
      cases hb
  | append_singleton l a ih =>
    obtain ⟨indices, hincreasing, hmem, hkept⟩ := ih
    have hold : List.Forall₂ (FirstOf f keyOf (l ++ [a])) indices
        (firstWins keyOf (l.filterMap f)) :=
      hkept.imp fun i b h => firstOf_concat.mpr (Or.inl h)
    have hbelow : ∀ i ∈ indices, i < l.length := by
      intro i hi
      obtain ⟨b, hb⟩ := (hmem i).mp hi
      exact hb.lt_length
    by_cases hnew : ∃ b, f a = some b ∧ keyOf b ∉ (l.filterMap f).map keyOf
    · obtain ⟨b, hb, hkey⟩ := hnew
      have hresult : firstWins keyOf ((l ++ [a]).filterMap f) =
          firstWins keyOf (l.filterMap f) ++ [b] := by
        rw [List.filterMap_append, List.filterMap_cons_some hb, List.filterMap_nil,
          firstWins_concat, if_neg hkey]
      refine ⟨indices ++ [l.length], ?_, fun i => ?_, ?_⟩
      · refine List.pairwise_append.mpr ⟨hincreasing, List.pairwise_singleton _ _, ?_⟩
        intro i hi j hj
        rw [List.mem_singleton.mp hj]
        exact hbelow i hi
      · simp only [List.mem_append, List.mem_singleton, hmem, firstOf_concat, exists_or]
        refine or_congr_right ⟨fun h => ⟨b, h, hb, hkey⟩, fun h => ?_⟩
        obtain ⟨c, hi, -⟩ := h
        exact hi
      · rw [hresult]
        exact List.rel_append hold
          (List.Forall₂.cons (firstOf_concat.mpr (Or.inr ⟨rfl, hb, hkey⟩)) List.Forall₂.nil)
    · have hresult : firstWins keyOf ((l ++ [a]).filterMap f) =
          firstWins keyOf (l.filterMap f) := by
        rw [List.filterMap_append]
        cases hb : f a with
        | none => rw [List.filterMap_cons_none hb, List.filterMap_nil, List.append_nil]
        | some b =>
          have hkey : keyOf b ∈ (l.filterMap f).map keyOf := by
            by_contra hkey
            exact hnew ⟨b, hb, hkey⟩
          rw [List.filterMap_cons_some hb, List.filterMap_nil, firstWins_concat, if_pos hkey,
            List.append_nil]
      refine ⟨indices, hincreasing, fun i => ?_, ?_⟩
      · simp only [hmem, firstOf_concat, exists_or]
        constructor
        · exact Or.inl
        · intro h
          obtain h | ⟨b, -, hb, hkey⟩ := h
          · exact h
          · exact absurd ⟨b, hb, hkey⟩ hnew
      · rw [hresult]
        exact hold

end

/-! ## First elements -/

/-- The second list has the elements of the first one whose key no earlier element has, in their
order, and the number counts the other elements. -/
inductive FirstOfKey (key : α → κ) : List α → List α → ℕ → Prop
  | nil : FirstOfKey key [] [] 0
  | first {l kept : List α} {a : α} {repeated : ℕ} (h : ∀ b ∈ l, key b ≠ key a)
      (front : FirstOfKey key l kept repeated) : FirstOfKey key (l ++ [a]) (kept ++ [a]) repeated
  | again {l kept : List α} {a : α} {repeated : ℕ} (h : ∃ b ∈ l, key b = key a)
      (front : FirstOfKey key l kept repeated) : FirstOfKey key (l ++ [a]) kept (repeated + 1)

/-- **First elements.** First-wins filtering keeps the first elements of each key.

**Proof sketch.** By induction on the list from its end: the last element is kept exactly where its
key is new, and the lengths of the kept and the dropped elements add up to the length of the
list. -/
theorem firstOfKey_firstWins (l : List α) :
    FirstOfKey key l (firstWins key l) (repeats key l).length := by
  have hlength : ∀ l : List α, (repeats key l).length = l.length - (firstWins key l).length := by
    intro l
    have hsum := (firstWins_append_repeats key l).length_eq
    rw [List.length_append] at hsum
    omega
  induction l using List.reverseRecOn with
  | nil => exact .nil
  | append_singleton l a ih =>
    rw [hlength, firstWins_concat]
    rw [hlength] at ih
    by_cases hkey : key a ∈ l.map key
    · obtain ⟨b, hb, hsame⟩ := List.mem_map.mp hkey
      have hle := (firstWins_sublist key l).length_le
      rw [if_pos hkey, List.append_nil, List.length_append, List.length_singleton,
        Nat.sub_add_comm hle]
      exact .again ⟨b, hb, hsame⟩ ih
    · rw [if_neg hkey, List.length_append, List.length_append, List.length_singleton,
        Nat.add_sub_add_right]
      exact .first (fun b hb hsame => hkey (List.mem_map.mpr ⟨b, hb, hsame⟩)) ih
