import Mathlib.Data.List.Induction
import Mathlib.Data.List.Nodup

set_option relaxedAutoImplicit false
set_option autoImplicit false

/-!
# Maps in insertion order

A finite map whose entries stand in the order in which their keys were first set. Setting a present
key replaces its value and keeps its place, so a map built from a list of entries holds, for each
key, the value of the last entry of the list with that key.

## Main definitions

* `InsertionMap` — the entries, with distinct keys.
* `InsertionMap.set`, `InsertionMap.get`, `InsertionMap.has` — the operations.
* `InsertionMap.ofEntries` — the map of a list of entries.
* `IsLastOfKey`, `IsFollowedInKey` — the places of an element among those of its key.

## Main results

* `InsertionMap.mem_entries_iff` — the entries are the values of the keys.
* `InsertionMap.get_set` — setting changes the value of one key.
* `InsertionMap.get_ofKeyed_eq_some_iff` — the last element of a key wins.
-/

universe u v

variable {κ : Type u} {α : Type v}

/-! ## Places in a list -/

/-- No element of the same key follows `a` in the list. -/
def IsLastOfKey (key : α → κ) (l : List α) (a : α) : Prop :=
  ∃ pre post, l = pre ++ a :: post ∧ ∀ b ∈ post, key b ≠ key a

/-- An element of the same key follows `a` in the list. -/
def IsFollowedInKey (key : α → κ) (l : List α) (a : α) : Prop :=
  ∃ pre post, l = pre ++ a :: post ∧ ∃ b ∈ post, key b = key a

/-- The last element of a key is in the list. -/
lemma IsLastOfKey.mem {key : α → κ} {l : List α} {a : α} (h : IsLastOfKey key l a) : a ∈ l := by
  obtain ⟨pre, post, rfl, -⟩ := h
  simp

/-- An element that another one follows is in the list. -/
lemma IsFollowedInKey.mem {key : α → κ} {l : List α} {a : α} (h : IsFollowedInKey key l a) :
    a ∈ l := by
  obtain ⟨pre, post, rfl, -⟩ := h
  simp

/-- An element of the list is the last of its key or followed by another one. -/
lemma isLastOfKey_or_isFollowedInKey (key : α → κ) {l : List α} {a : α} (ha : a ∈ l) :
    IsLastOfKey key l a ∨ IsFollowedInKey key l a := by
  obtain ⟨pre, post, rfl⟩ := List.append_of_mem ha
  by_cases h : ∃ b ∈ post, key b = key a
  · exact Or.inr ⟨pre, post, rfl, h⟩
  · refine Or.inl ⟨pre, post, rfl, fun b hb hkey => ?_⟩
    exact h ⟨b, hb, hkey⟩

/-- In a list without repetition an element has one place, so it is not both. -/
lemma IsFollowedInKey.not_isLastOfKey {key : α → κ} {l : List α} {a : α} (hl : l.Nodup)
    (h : IsFollowedInKey key l a) : ¬ IsLastOfKey key l a := by
  obtain ⟨pre, post, rfl, b, hb, hkey⟩ := h
  rintro ⟨pre', post', heq, hlast⟩
  have hnot : a ∉ pre ++ post := (List.nodup_cons.mp (List.nodup_middle.mp hl)).1
  rw [List.mem_append, not_or] at hnot
  obtain ⟨-, -, hpost⟩ := (List.append_cons_inj_of_notMem hnot.1 hnot.2).mp heq
  exact hlast b (hpost ▸ hb) hkey

/-- Every element outside `l'` is the last of its key exactly where `l'` has the others. -/
lemma forall_isLastOfKey_iff {key : α → κ} {l l' : List α} (hl : l.Nodup) :
    (∀ a ∈ l, a ∉ l' → IsLastOfKey key l a) ↔ ∀ a, IsFollowedInKey key l a → a ∈ l' := by
  constructor
  · intro h a hfollowed
    by_contra hnot
    exact hfollowed.not_isLastOfKey hl (h a hfollowed.mem hnot)
  · intro h a ha hnot
    exact (isLastOfKey_or_isFollowedInKey key ha).resolve_right
      fun hfollowed => hnot (h a hfollowed)

/-! ## The map -/

variable [DecidableEq κ]

/-- A finite map whose entries stand in insertion order. -/
structure InsertionMap (κ : Type u) (α : Type v) where
  /-- The entries, in the order in which their keys were first set. -/
  entries : List (κ × α)
  /-- No key has two entries. -/
  nodup_keys : (entries.map Prod.fst).Nodup

namespace InsertionMap

/-- The entries after a key is set: its value is replaced in its place, or added at the end. -/
def setEntry (key : κ) (value : α) : List (κ × α) → List (κ × α)
  | [] => [(key, value)]
  | entry :: rest =>
    if entry.1 = key then (key, value) :: rest else entry :: setEntry key value rest

variable {key : κ} {value : α} {l : List (κ × α)}

/-- Setting a key adds at most this key. -/
lemma mem_keys_setEntry {k : κ} :
    k ∈ (setEntry key value l).map Prod.fst ↔ k = key ∨ k ∈ l.map Prod.fst := by
  induction l with
  | nil => simp [setEntry]
  | cons entry rest ih =>
    unfold setEntry
    split_ifs with h
    · subst h
      simp
    · simp only [List.map_cons, List.mem_cons, ih]
      exact or_left_comm

/-- Setting a key keeps the keys distinct. -/
lemma nodup_keys_setEntry (hl : (l.map Prod.fst).Nodup) :
    ((setEntry key value l).map Prod.fst).Nodup := by
  induction l with
  | nil => simp [setEntry]
  | cons entry rest ih =>
    rw [List.map_cons, List.nodup_cons] at hl
    unfold setEntry
    split_ifs with h
    · subst h
      exact List.nodup_cons.mpr hl
    · rw [List.map_cons, List.nodup_cons, mem_keys_setEntry, not_or]
      exact ⟨⟨h, hl.1⟩, ih hl.2⟩

/-- A key is looked up at the front first. -/
lemma lookup_cons_eq_ite (k : κ) (entry : κ × α) :
    (entry :: l).lookup k = if k = entry.1 then some entry.2 else l.lookup k := by
  obtain ⟨k', a⟩ := entry
  rw [List.lookup_cons]
  by_cases hk : k = k'
  · rw [if_pos hk, beq_iff_eq.mpr hk]
  · rw [if_neg hk, beq_eq_false_iff_ne.mpr hk]

/-- Setting a key changes what is looked up under this key only. -/
lemma lookup_setEntry (k : κ) :
    (setEntry key value l).lookup k = if k = key then some value else l.lookup k := by
  induction l with
  | nil => rw [setEntry, lookup_cons_eq_ite]
  | cons entry rest ih =>
    unfold setEntry
    by_cases hkey : entry.1 = key
    · rw [if_pos hkey, lookup_cons_eq_ite, lookup_cons_eq_ite, hkey]
      split_ifs <;> rfl
    · rw [if_neg hkey, lookup_cons_eq_ite, lookup_cons_eq_ite, ih]
      by_cases hk : k = key
      · have hne : k ≠ entry.1 := fun heq => hkey (heq.symm.trans hk)
        rw [if_neg hne, if_pos hk, if_pos hk]
      · rw [if_neg hk, if_neg hk]

/-- The map without entries. -/
def empty : InsertionMap κ α := ⟨[], by simp⟩

/-- Sets the value of a key. -/
def set (m : InsertionMap κ α) (key : κ) (value : α) : InsertionMap κ α :=
  ⟨setEntry key value m.entries, nodup_keys_setEntry m.nodup_keys⟩

/-- The value of a key. -/
def get (m : InsertionMap κ α) (key : κ) : Option α := m.entries.lookup key

/-- The key has a value. -/
def has (m : InsertionMap κ α) (key : κ) : Bool := (m.get key).isSome

/-- The map of a list of entries, set one after another. -/
def ofEntries (l : List (κ × α)) : InsertionMap κ α :=
  l.foldl (fun m entry => m.set entry.1 entry.2) empty

/-- **Setting** changes the value of one key. -/
lemma get_set (m : InsertionMap κ α) (key : κ) (value : α) (k : κ) :
    (m.set key value).get k = if k = key then some value else m.get k :=
  lookup_setEntry k

/-- Removes a key. -/
def erase (m : InsertionMap κ α) (key : κ) : InsertionMap κ α :=
  ⟨m.entries.filter fun entry => entry.1 ≠ key,
    m.nodup_keys.sublist ((List.filter_sublist).map Prod.fst)⟩

/-- Where the keys are distinct, a key looks up the value of its entry. -/
lemma lookup_eq_some_iff_of_nodup (hl : (l.map Prod.fst).Nodup) {k : κ} {a : α} :
    l.lookup k = some a ↔ (k, a) ∈ l := by
  rw [List.lookup_eq_some_iff]
  constructor
  · intro h
    obtain ⟨pre, post, rfl, -⟩ := h
    simp
  · intro hmem
    obtain ⟨pre, post, rfl⟩ := List.append_of_mem hmem
    refine ⟨pre, post, rfl, fun entry hentry => ?_⟩
    rw [List.map_append, List.map_cons] at hl
    have hnot := (List.nodup_cons.mp (List.nodup_middle.mp hl)).1
    rw [List.mem_append, not_or] at hnot
    rw [bne_iff_ne]
    rintro rfl
    exact hnot.1 (List.mem_map.mpr ⟨entry, hentry, rfl⟩)

/-- **The entries** of a map are the values of its keys. -/
lemma mem_entries_iff (m : InsertionMap κ α) {k : κ} {a : α} :
    (k, a) ∈ m.entries ↔ m.get k = some a :=
  (lookup_eq_some_iff_of_nodup m.nodup_keys).symm

/-- **Erasing** removes one key. -/
lemma get_erase (m : InsertionMap κ α) (key k : κ) :
    (m.erase key).get k = if k = key then none else m.get k := by
  apply Option.ext
  intro a
  rw [← mem_entries_iff]
  show (k, a) ∈ m.entries.filter _ ↔ _
  rw [List.mem_filter, mem_entries_iff, decide_eq_true_eq]
  split_ifs with hk
  · exact iff_of_false (fun h => h.2 hk) nofun
  · exact and_iff_left hk

/-- A key that is not there has no value. -/
lemma has_eq_false_iff (m : InsertionMap κ α) {k : κ} : m.has k = false ↔ m.get k = none := by
  rw [has, Option.isSome_eq_false_iff, Option.isNone_iff_eq_none]

/-- The last entry of a key wins. -/
lemma get_ofEntries (l : List (κ × α)) (k : κ) : (ofEntries l).get k = l.reverse.lookup k := by
  induction l using List.reverseRec with
  | nil => rfl
  | append_singleton l entry ih =>
    have hset : ofEntries (l ++ [entry]) = (ofEntries l).set entry.1 entry.2 := by
      rw [ofEntries, List.foldl_append]
      rfl
    rw [hset, get_set, ih, List.reverse_append, List.reverse_singleton, List.singleton_append,
      lookup_cons_eq_ite]

/-- A new key is added at the end. -/
lemma setEntry_of_not_mem (h : key ∉ l.map Prod.fst) :
    setEntry key value l = l ++ [(key, value)] := by
  induction l with
  | nil => rfl
  | cons entry rest ih =>
    rw [List.map_cons, List.mem_cons, not_or] at h
    unfold setEntry
    rw [if_neg (Ne.symm h.1), ih h.2, List.cons_append]

/-- **Distinct keys** keep their entries. -/
lemma entries_ofEntries {l : List (κ × α)} (h : (l.map Prod.fst).Nodup) :
    (ofEntries l).entries = l := by
  induction l using List.reverseRec with
  | nil => rfl
  | append_singleton l entry ih =>
    rw [List.map_append, List.map_singleton, List.nodup_append] at h
    obtain ⟨hl, -, hne⟩ := h
    have hnot : entry.1 ∉ l.map Prod.fst := by
      intro hmem
      exact hne _ hmem _ (List.mem_singleton_self _) rfl
    rw [ofEntries, List.foldl_append]
    show setEntry entry.1 entry.2 (ofEntries l).entries = _
    rw [ih hl, setEntry_of_not_mem hnot]

/-- **Collecting loops.** Where each step adds what one entry contributes, the loop adds what some
entry contributes. -/
lemma foldl_iff_exists {σ ε : Type*} {f : σ → ε → σ} {P : σ → Prop} {Q : ε → Prop}
    (hstep : ∀ s e, P (f s e) ↔ P s ∨ Q e) (s : σ) (l : List ε) :
    P (l.foldl f s) ↔ P s ∨ ∃ e ∈ l, Q e := by
  induction l generalizing s with
  | nil => simp
  | cons e l ih =>
    rw [List.foldl_cons, ih, hstep]
    simp [or_assoc]

/-! ## The map of the elements of a list under their keys -/

variable {keyOf : α → κ} {as : List α}

/-- The map of the elements of a list, each under its key. -/
def ofKeyed (keyOf : α → κ) (as : List α) : InsertionMap κ α :=
  ofEntries (as.map fun a => (keyOf a, a))

/-- Only the keys of the elements have a value. -/
lemma get_ofKeyed_eq_none_iff {k : κ} :
    (ofKeyed keyOf as).get k = none ↔ ∀ a ∈ as, keyOf a ≠ k := by
  rw [ofKeyed, get_ofEntries, List.lookup_eq_none_iff]
  constructor
  · intro h a ha hkey
    have hentry : (keyOf a, a) ∈ (as.map fun b => (keyOf b, b)).reverse :=
      List.mem_reverse.mpr (List.mem_map.mpr ⟨a, ha, rfl⟩)
    exact bne_iff_ne.mp (h _ hentry) hkey.symm
  · intro h entry hentry
    obtain ⟨a, ha, rfl⟩ := List.mem_map.mp (List.mem_reverse.mp hentry)
    exact bne_iff_ne.mpr (Ne.symm (h a ha))

/-- **The last one wins.** The value of a key is the last element of the list with this key. -/
lemma get_ofKeyed_eq_some_iff {k : κ} {a : α} :
    (ofKeyed keyOf as).get k = some a ↔ keyOf a = k ∧ IsLastOfKey keyOf as a := by
  rw [ofKeyed, get_ofEntries, List.lookup_eq_some_iff]
  constructor
  · intro h
    obtain ⟨later, earlier, heq, hlater⟩ := h
    -- the entries that the lookup passes are those after the last one of the key
    rw [List.reverse_eq_append_iff, List.reverse_cons, List.append_assoc,
      List.singleton_append] at heq
    obtain ⟨pre, rest, rfl, -, hrest⟩ := List.map_eq_append_iff.mp heq
    obtain ⟨b, post, rfl, hb, hpost⟩ := List.map_eq_cons_iff.mp hrest
    obtain ⟨rfl, rfl⟩ := Prod.mk.inj hb
    refine ⟨rfl, pre, post, rfl, fun c hc hkey => ?_⟩
    have hlater' : (keyOf c, c) ∈ later := by
      have hmem : (keyOf c, c) ∈ post.map fun b => (keyOf b, b) := List.mem_map.mpr ⟨c, hc, rfl⟩
      exact List.mem_reverse.mp (hpost ▸ hmem)
    exact bne_iff_ne.mp (hlater _ hlater') hkey.symm
  · intro h
    obtain ⟨rfl, pre, post, rfl, hlast⟩ := h
    refine ⟨(post.map fun b => (keyOf b, b)).reverse, (pre.map fun b => (keyOf b, b)).reverse,
      by simp, fun entry hentry => ?_⟩
    obtain ⟨b, hb, rfl⟩ := List.mem_map.mp (List.mem_reverse.mp hentry)
    exact bne_iff_ne.mpr (Ne.symm (hlast b hb))

/-- The entries are the last elements of their keys. -/
lemma exists_mem_entries_ofKeyed_iff {P : κ → α → Prop} :
    (∃ entry ∈ (ofKeyed keyOf as).entries, P entry.1 entry.2) ↔
      ∃ a, IsLastOfKey keyOf as a ∧ P (keyOf a) a := by
  constructor
  · intro h
    obtain ⟨⟨k, a⟩, hentry, hP⟩ := h
    obtain ⟨rfl, hlast⟩ := get_ofKeyed_eq_some_iff.mp ((mem_entries_iff _).mp hentry)
    exact ⟨a, hlast, hP⟩
  · intro h
    obtain ⟨a, hlast, hP⟩ := h
    have hget : (ofKeyed keyOf as).get (keyOf a) = some a :=
      get_ofKeyed_eq_some_iff.mpr ⟨rfl, hlast⟩
    exact ⟨(keyOf a, a), (mem_entries_iff _).mpr hget, hP⟩

/-- A key of some element has a last element. -/
lemma exists_isLastOfKey {a : α} (ha : a ∈ as) :
    ∃ b, IsLastOfKey keyOf as b ∧ keyOf b = keyOf a := by
  cases hget : (ofKeyed keyOf as).get (keyOf a) with
  | none => exact absurd rfl (get_ofKeyed_eq_none_iff.mp hget a ha)
  | some b =>
    obtain ⟨hkey, hlast⟩ := get_ofKeyed_eq_some_iff.mp hget
    exact ⟨b, hlast, hkey⟩

end InsertionMap
