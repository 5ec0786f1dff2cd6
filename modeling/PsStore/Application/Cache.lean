import Mathlib.Data.Finmap
import Mathlib.Data.Finset.Max

set_option relaxedAutoImplicit false
set_option autoImplicit false

/-!
# The entries of the lookup cache

The state that `TtlCache` keeps under its lock, and the functions that change it, as
`application/cache.rs` computes them. An entry names the lookup that fills it; the lookups
themselves, the callers and the clock are in `PsStore.Application.CacheRuns`.

The counter `next` is a natural number: the facts below assume that fewer than `2^64` uses are
numbered.

## Main definitions

* `Cache.State` — the entries by key, and the keys by recency number.
* `Cache.State.freshEntry`, `insert`, `removeKey`, `removeLookup`, `evictOver` — the functions of
  `impl State`; `Cache.State.startLookup`, `complete` — the parts of `TtlCache::start_lookup`
  and `Inner::complete` that run under the lock.
* `Cache.State.Mirrored` — the two maps are inverse to each other and no number is above the
  counter.

## Main results

* `Cache.State.Mirrored.freshEntry`, `Mirrored.startLookup`, `Mirrored.complete`,
  `Mirrored.removeLookup` — every function keeps the maps mirrored.
* `Cache.State.Mirrored.evictOver_spec` — an eviction keeps the most recently used entries, as many
  as the capacity allows.
-/

namespace PsStore.Cache

/-- A shared lookup, named by the number under which the cache started its task. -/
structure SharedLookup where
  /-- The number of the lookup task. -/
  task : ℕ
deriving DecidableEq, Repr

/-- A cache entry. Instants are clock readings in nanoseconds. -/
structure Entry where
  /-- The number of the lookup that filled the entry. -/
  id : ℕ
  /-- The recency number of the latest use. -/
  used : ℕ
  /-- The lookup that callers of the entry wait for. -/
  lookup : SharedLookup
  /-- `none` while the lookup runs, and for a time to live that the clock cannot represent. -/
  expiresAt : Option ℕ
deriving DecidableEq, Repr

/-- The entry has reached its expiry. -/
def Entry.expired (entry : Entry) (now : ℕ) : Bool :=
  entry.expiresAt.any fun expiry => decide (expiry ≤ now)

/-- An entry is expired exactly from its expiry on. -/
lemma Entry.expired_iff (entry : Entry) (now : ℕ) :
    entry.expired now = true ↔ ∃ expiry, entry.expiresAt = some expiry ∧ expiry ≤ now := by
  simp [Entry.expired, Option.any_eq_true]

/-- The state under the lock: the entries, the entry keys by recency number, and the counter. -/
structure State (K : Type) where
  /-- The entries by key. -/
  entries : Finmap fun _ : K => Entry
  /-- The keys by recency number, least recently used first. -/
  recency : Finmap fun _ : ℕ => K
  /-- The last number given out. -/
  next : ℕ

variable {K : Type} [DecidableEq K]

/-- `Instant::checked_add`: the sum, unless it lies beyond the last instant of the clock. -/
def checkedAdd (lastInstant now ttl : ℕ) : Option ℕ :=
  if now + ttl ≤ lastInstant then some (now + ttl) else none

namespace State

/-- The state of a new cache. -/
def empty : State K := ⟨∅, ∅, 0⟩

/-- The next number, and the state that counts it. -/
def bump (s : State K) : ℕ × State K := (s.next + 1, { s with next := s.next + 1 })

/-- Removes the entry of `key` and its recency number. -/
def removeKey (s : State K) (key : K) : State K :=
  match s.entries.lookup key with
  | some entry =>
    { s with entries := s.entries.erase key, recency := s.recency.erase entry.used }
  | none => s

/-- Removes the entry of `key` only when lookup `id` filled it. -/
def removeLookup (s : State K) (key : K) (id : ℕ) : State K :=
  if (s.entries.lookup key).any fun entry => entry.id == id then s.removeKey key else s

/-- Puts the entry of `key` in place of an earlier one. -/
def insert (s : State K) (key : K) (entry : Entry) : State K :=
  let s := s.removeKey key
  { s with
    recency := s.recency.insert entry.used key
    entries := s.entries.insert key entry }

/-- Moves the entry of `key` to the most recently used position. -/
def touch (s : State K) (key : K) (entry : Entry) : State K :=
  let (used, s) := s.bump
  { s with
    recency := (s.recency.erase entry.used).insert used key
    entries := s.entries.insert key { entry with used } }

/-- The shared lookup of a usable entry, marked as most recently used. An expired entry is
removed. -/
def freshEntry (s : State K) (key : K) (now : ℕ) : Option SharedLookup × State K :=
  match s.entries.lookup key with
  | none => (none, s)
  | some entry =>
    if entry.expired now then (none, s.removeKey key)
    else (some entry.lookup, s.touch key entry)

/-- `BTreeMap::pop_first`: the key of the least recency number, and the other numbers. -/
def popFirst (recency : Finmap fun _ : ℕ => K) : Option (K × Finmap fun _ : ℕ => K) :=
  if h : recency.keys.Nonempty then
    (recency.lookup (recency.keys.min' h)).map fun key =>
      (key, recency.erase (recency.keys.min' h))
  else none

/-- The rounds of the eviction loop, at most `fuel` of them. -/
def evictRounds (capacity : ℕ) : ℕ → State K → State K
  | 0, s => s
  | fuel + 1, s =>
    if capacity < s.entries.keys.card then
      match popFirst s.recency with
      | none => s
      | some (key, recency) =>
        evictRounds capacity fuel { s with recency, entries := s.entries.erase key }
    else s

/-- Drops the least recently used entries until the capacity holds the others. A round takes one
recency number away, so the loop ends after as many rounds as there are numbers. -/
def evictOver (s : State K) (capacity : ℕ) : State K :=
  evictRounds capacity s.recency.keys.card s

/-- The part of `start_lookup` under the lock: a new pending entry for `key`, filled by the
lookup of the new number, and the eviction over the capacity. -/
def startLookup (s : State K) (capacity : ℕ) (key : K) : SharedLookup × State K :=
  let (id, s) := s.bump
  let shared : SharedLookup := ⟨id⟩
  (shared,
    (s.insert key { id, used := id, lookup := shared, expiresAt := none }).evictOver capacity)

/-- The part of `complete` under the lock: the entry that lookup `id` filled gets its expiry,
and is dropped when the time to live is zero. -/
def complete (s : State K) (key : K) (id ttl now lastInstant : ℕ) : State K :=
  if ttl = 0 then s.removeLookup key id
  else
    match s.entries.lookup key with
    | some entry =>
      if entry.id = id then
        { s with
          entries :=
            s.entries.insert key { entry with expiresAt := checkedAdd lastInstant now ttl } }
      else s
    | none => s

/-! ## The two maps mirror each other -/

/-- The representation invariant: the recency map holds exactly the pairs of an entry's number
and its key, and no number is above the counter. -/
structure Mirrored (s : State K) : Prop where
  /-- The number of an entry leads back to its key. -/
  recency_of_entry : ∀ {key entry}, s.entries.lookup key = some entry →
    s.recency.lookup entry.used = some key
  /-- Every number belongs to the entry of its key. -/
  entry_of_recency : ∀ {used key}, s.recency.lookup used = some key →
    ∃ entry, s.entries.lookup key = some entry ∧ entry.used = used
  /-- No number is above the counter. -/
  used_le_next : ∀ {used key}, s.recency.lookup used = some key → used ≤ s.next

/-- Two entries with the same recency number have the same key. -/
lemma Mirrored.key_inj {s : State K} (hs : s.Mirrored) {k₁ k₂ : K} {e₁ e₂ : Entry}
    (h₁ : s.entries.lookup k₁ = some e₁) (h₂ : s.entries.lookup k₂ = some e₂)
    (hused : e₁.used = e₂.used) : k₁ = k₂ := by
  have h := hs.recency_of_entry h₁
  rw [hused, hs.recency_of_entry h₂] at h
  exact (Option.some.inj h).symm

/-- The number of an entry is at most the counter. -/
lemma Mirrored.entry_used_le {s : State K} (hs : s.Mirrored) {key : K} {entry : Entry}
    (h : s.entries.lookup key = some entry) : entry.used ≤ s.next :=
  hs.used_le_next (hs.recency_of_entry h)

/-- A number above the counter is free. -/
lemma Mirrored.recency_eq_none {s : State K} (hs : s.Mirrored) {used : ℕ} (h : s.next < used) :
    s.recency.lookup used = none := by
  by_contra hne
  obtain ⟨key, hkey⟩ := Option.ne_none_iff_exists'.mp hne
  exact absurd (hs.used_le_next hkey) (by omega)

/-- A new cache is mirrored. -/
lemma Mirrored.empty : (State.empty : State K).Mirrored where
  recency_of_entry h := by simp [State.empty] at h
  entry_of_recency h := by simp [State.empty] at h
  used_le_next h := by simp [State.empty] at h

/-! ### Removing an entry -/

/-- A removal draws no number of recency. -/
@[simp] lemma next_removeKey (s : State K) (key : K) : (s.removeKey key).next = s.next := by
  unfold removeKey
  split <;> rfl

/-- After `removeKey` the key has no entry, and the other entries are unchanged. -/
lemma lookup_removeKey (s : State K) (key k : K) :
    (s.removeKey key).entries.lookup k = if k = key then none else s.entries.lookup k := by
  unfold removeKey
  split
  · split_ifs with h
    · rw [h, Finmap.lookup_erase]
    · exact Finmap.lookup_erase_ne h
  · split_ifs with h
    · rw [h]; assumption
    · rfl

/-- After `removeKey` the numbers of other keys are unchanged, and the key has no number. -/
lemma Mirrored.recency_removeKey {s : State K} (hs : s.Mirrored) (key : K) {used : ℕ} {k : K} :
    (s.removeKey key).recency.lookup used = some k ↔
      s.recency.lookup used = some k ∧ k ≠ key := by
  unfold removeKey
  split
  · rename_i entry hentry
    by_cases h : used = entry.used
    · rw [h, Finmap.lookup_erase, hs.recency_of_entry hentry]
      simp only [reduceCtorEq, Option.some.injEq, false_iff, not_and, not_not]
      exact Eq.symm
    · rw [Finmap.lookup_erase_ne h]
      refine ⟨fun hk => ⟨hk, fun hkey => h ?_⟩, And.left⟩
      obtain ⟨e, he, hused⟩ := hs.entry_of_recency hk
      rw [hkey, hentry] at he
      rw [← hused, Option.some.inj he]
  · rename_i hnone
    refine ⟨fun hk => ⟨hk, fun hkey => ?_⟩, And.left⟩
    obtain ⟨e, he, -⟩ := hs.entry_of_recency hk
    rw [hkey, hnone] at he
    simp at he

/-- `removeKey` keeps the maps mirrored. -/
lemma Mirrored.removeKey {s : State K} (hs : s.Mirrored) (key : K) :
    (s.removeKey key).Mirrored where
  recency_of_entry {k entry} h := by
    rw [lookup_removeKey] at h
    split_ifs at h with hk
    exact (hs.recency_removeKey key).mpr ⟨hs.recency_of_entry h, hk⟩
  entry_of_recency {used k} h := by
    obtain ⟨hk, hne⟩ := (hs.recency_removeKey key).mp h
    rw [lookup_removeKey, if_neg hne]
    exact hs.entry_of_recency hk
  used_le_next {used k} h := by
    rw [next_removeKey]
    exact hs.used_le_next ((hs.recency_removeKey key).mp h).1

/-- Every entry after `removeLookup` was there before, and an entry that another lookup filled
stays. -/
lemma lookup_removeLookup (s : State K) (key k : K) (id : ℕ) :
    (s.removeLookup key id).entries.lookup k =
      if k = key ∧ (s.entries.lookup k).any (fun entry => entry.id == id) then none
      else s.entries.lookup k := by
  unfold removeLookup
  by_cases hk : k = key
  · subst hk
    split_ifs with h₁ h₂ h₂
    · rw [lookup_removeKey, if_pos rfl]
    · exact absurd ⟨rfl, h₁⟩ h₂
    · exact absurd h₂.2 h₁
    · rfl
  · simp only [hk, false_and, if_false]
    split_ifs
    · rw [lookup_removeKey, if_neg hk]
    · rfl

/-- `removeLookup` keeps the maps mirrored. -/
lemma Mirrored.removeLookup {s : State K} (hs : s.Mirrored) (key : K) (id : ℕ) :
    (s.removeLookup key id).Mirrored := by
  unfold State.removeLookup
  split_ifs
  · exact hs.removeKey key
  · exact hs

/-- The removal of a lookup draws no number of recency. -/
@[simp] lemma next_removeLookup (s : State K) (key : K) (id : ℕ) :
    (s.removeLookup key id).next = s.next := by
  unfold removeLookup
  split_ifs <;> simp

/-! ### Inserting an entry -/

/-- An insertion draws no number. -/
@[simp] lemma next_insert (s : State K) (key : K) (entry : Entry) :
    (s.insert key entry).next = s.next := by
  simp [insert]

/-- After `insert` the key has the new entry, and the other entries are unchanged. -/
lemma lookup_insert (s : State K) (key k : K) (entry : Entry) :
    (s.insert key entry).entries.lookup k =
      if k = key then some entry else s.entries.lookup k := by
  simp only [insert]
  split_ifs with h
  · rw [h, Finmap.lookup_insert]
  · rw [Finmap.lookup_insert_of_ne _ h, lookup_removeKey, if_neg h]

/-- Inserting an entry with a free number up to the counter keeps the maps mirrored. -/
lemma Mirrored.insert {s : State K} (hs : s.Mirrored) (key : K) {entry : Entry}
    (hfree : s.recency.lookup entry.used = none) (hle : entry.used ≤ s.next) :
    (s.insert key entry).Mirrored := by
  have hfree' : ∀ k, (s.removeKey key).recency.lookup entry.used ≠ some k := fun k hk => by
    have := ((hs.recency_removeKey key).mp hk).1
    simp [hfree] at this
  refine ⟨fun {k e} h => ?_, fun {used k} h => ?_, fun {used k} h => ?_⟩
  · rw [lookup_insert] at h
    simp only [State.insert]
    split_ifs at h with hk
    · rw [hk, ← Option.some.inj h, Finmap.lookup_insert]
    · have hrec := (hs.recency_removeKey key).mpr ⟨hs.recency_of_entry h, hk⟩
      rw [Finmap.lookup_insert_of_ne _ (fun heq : e.used = entry.used => hfree' k (heq ▸ hrec))]
      exact hrec
  · simp only [State.insert] at h
    rw [lookup_insert]
    by_cases hu : used = entry.used
    · rw [hu, Finmap.lookup_insert, Option.some.injEq] at h
      exact ⟨entry, by rw [if_pos h.symm], hu.symm⟩
    · rw [Finmap.lookup_insert_of_ne _ hu] at h
      obtain ⟨hk, hne⟩ := (hs.recency_removeKey key).mp h
      rw [if_neg hne]
      exact hs.entry_of_recency hk
  · simp only [State.insert] at h
    rw [next_insert]
    by_cases hu : used = entry.used
    · exact hu ▸ hle
    · rw [Finmap.lookup_insert_of_ne _ hu] at h
      exact hs.used_le_next ((hs.recency_removeKey key).mp h).1

/-! ### Using an entry -/

/-- A use of an entry draws one number. -/
@[simp] lemma next_touch (s : State K) (key : K) (entry : Entry) :
    (s.touch key entry).next = s.next + 1 := rfl

/-- After `touch` the entry has the new number, and the other entries are unchanged. -/
lemma lookup_touch (s : State K) (key k : K) (entry : Entry) :
    (s.touch key entry).entries.lookup k =
      if k = key then some { entry with used := s.next + 1 } else s.entries.lookup k := by
  simp only [touch, bump]
  split_ifs with h
  · rw [h, Finmap.lookup_insert]
  · rw [Finmap.lookup_insert_of_ne _ h]

/-- Using an entry keeps the maps mirrored.

**Proof sketch.** The new number is above the counter, so it is free; the old number of the
entry leaves the recency map, and no other key has it. -/
lemma Mirrored.touch {s : State K} (hs : s.Mirrored) {key : K} {entry : Entry}
    (hentry : s.entries.lookup key = some entry) : (s.touch key entry).Mirrored := by
  have hfree := hs.recency_eq_none (Nat.lt_succ_self s.next)
  refine ⟨fun {k e} h => ?_, fun {used k} h => ?_, fun {used k} h => ?_⟩
  · rw [lookup_touch] at h
    simp only [State.touch, bump]
    split_ifs at h with hk
    · rw [hk, ← Option.some.inj h, Finmap.lookup_insert]
    · have hrec := hs.recency_of_entry h
      have hne : e.used ≠ s.next + 1 := fun heq => by simp [heq ▸ hrec] at hfree
      have hne' : e.used ≠ entry.used := fun heq => hk (hs.key_inj h hentry heq)
      rw [Finmap.lookup_insert_of_ne _ hne, Finmap.lookup_erase_ne hne']
      exact hrec
  · simp only [State.touch, bump] at h
    rw [lookup_touch]
    by_cases hu : used = s.next + 1
    · rw [hu, Finmap.lookup_insert, Option.some.injEq] at h
      exact ⟨_, by rw [if_pos h.symm], hu.symm⟩
    · rw [Finmap.lookup_insert_of_ne _ hu] at h
      by_cases hold : used = entry.used
      · rw [hold, Finmap.lookup_erase] at h
        exact absurd h (by simp)
      · rw [Finmap.lookup_erase_ne hold] at h
        obtain ⟨e, he, hused⟩ := hs.entry_of_recency h
        have hk : k ≠ key := fun hk => by
          rw [hk, hentry] at he
          exact hold (hused ▸ congrArg Entry.used (Option.some.inj he).symm)
        exact ⟨e, by rw [if_neg hk, he], hused⟩
  · simp only [State.touch, bump] at h ⊢
    by_cases hu : used = s.next + 1
    · exact hu.le
    · rw [Finmap.lookup_insert_of_ne _ hu] at h
      by_cases hold : used = entry.used
      · rw [hold, Finmap.lookup_erase] at h
        exact absurd h (by simp)
      · rw [Finmap.lookup_erase_ne hold] at h
        exact (hs.used_le_next h).trans (Nat.le_succ _)

/-- A key without an entry is unchanged by its removal. -/
lemma removeKey_of_lookup_eq_none {s : State K} {key : K} (h : s.entries.lookup key = none) :
    s.removeKey key = s := by
  unfold removeKey
  rw [h]

/-- The two outcomes of `freshEntry`: a hit uses the entry, and a miss leaves no entry of the
key. -/
lemma freshEntry_cases (s : State K) (key : K) (now : ℕ) :
    (∃ entry, s.entries.lookup key = some entry ∧ entry.expired now = false ∧
      s.freshEntry key now = (some entry.lookup, s.touch key entry)) ∨
    ((∀ entry, s.entries.lookup key = some entry → entry.expired now = true) ∧
      s.freshEntry key now = (none, s.removeKey key)) := by
  unfold freshEntry
  cases h : s.entries.lookup key with
  | none =>
    refine Or.inr ⟨fun entry he => by simp at he, ?_⟩
    rw [removeKey_of_lookup_eq_none h]
  | some entry =>
    cases hexp : entry.expired now with
    | true =>
      refine Or.inr ⟨fun e he => ?_, by simp [hexp]⟩
      rw [← Option.some.inj he, hexp]
    | false => exact Or.inl ⟨entry, rfl, hexp, by simp [hexp]⟩

/-- A read keeps the maps mirrored. -/
lemma Mirrored.freshEntry {s : State K} (hs : s.Mirrored) (key : K) (now : ℕ) :
    (s.freshEntry key now).2.Mirrored := by
  rcases freshEntry_cases s key now with ⟨entry, hentry, -, h⟩ | ⟨-, h⟩
  · rw [h]; exact hs.touch hentry
  · rw [h]; exact hs.removeKey key

/-! ### Eviction -/

/-- What an eviction from `s` to `s'` does. -/
structure Evicted (capacity : ℕ) (s s' : State K) : Prop where
  /-- The counter is unchanged. -/
  next_eq : s'.next = s.next
  /-- The entries that stay are unchanged. -/
  kept : ∀ {key entry}, s'.entries.lookup key = some entry → s.entries.lookup key = some entry
  /-- Every entry that stays was used after every entry that goes. -/
  used_lt : ∀ {key entry key' entry'}, s'.entries.lookup key = some entry →
    s.entries.lookup key' = some entry' → s'.entries.lookup key' = none → entry'.used < entry.used
  /-- As many entries stay as the capacity allows. -/
  card_eq : s'.entries.keys.card = min s.entries.keys.card capacity

omit [DecidableEq K] in
/-- Popping from an empty recency map gives nothing, and only from an empty one. -/
lemma popFirst_eq_none {recency : Finmap fun _ : ℕ => K} :
    popFirst recency = none ↔ recency.keys = ∅ := by
  unfold popFirst
  split_ifs with h
  · obtain ⟨key, hkey⟩ := Finmap.mem_iff.mp (Finmap.mem_keys.mp (Finset.min'_mem _ h))
    simp [hkey, h.ne_empty]
  · simpa [Finset.not_nonempty_iff_eq_empty] using h

/-- The popped key is the least recently used one, and taking it out of both maps removes its
entry. -/
lemma Mirrored.popFirst_eq_some {s : State K} (hs : s.Mirrored) {key : K}
    {recency : Finmap fun _ : ℕ => K} (h : popFirst s.recency = some (key, recency)) :
    { s with recency, entries := s.entries.erase key } = s.removeKey key ∧
    ∃ entry, s.entries.lookup key = some entry ∧
      ∀ k e, s.entries.lookup k = some e → entry.used ≤ e.used := by
  unfold popFirst at h
  split_ifs at h with hne
  obtain ⟨k, hk, hpair⟩ := Option.map_eq_some_iff.mp h
  obtain ⟨rfl, rfl⟩ := Prod.mk.inj hpair
  obtain ⟨entry, hentry, hused⟩ := hs.entry_of_recency hk
  refine ⟨?_, entry, hentry, fun k e he => ?_⟩
  · unfold State.removeKey
    rw [hentry]
    simp only [hused]
  · rw [hused]
    refine Finset.min'_le _ _ (Finmap.mem_keys.mpr ?_)
    exact Finmap.mem_of_lookup_eq_some (hs.recency_of_entry he)

/-- Removing a key that has an entry takes one entry away. -/
lemma card_keys_removeKey {s : State K} {key : K} {entry : Entry}
    (h : s.entries.lookup key = some entry) :
    (s.removeKey key).entries.keys.card = s.entries.keys.card - 1 := by
  unfold removeKey
  rw [h, Finmap.keys_erase, Finset.card_erase_of_mem]
  exact Finmap.mem_keys.mpr (Finmap.mem_of_lookup_eq_some h)

/-- Removing a key that has an entry takes one number away. -/
lemma Mirrored.card_recency_removeKey {s : State K} (hs : s.Mirrored) {key : K} {entry : Entry}
    (h : s.entries.lookup key = some entry) :
    (s.removeKey key).recency.keys.card = s.recency.keys.card - 1 := by
  unfold State.removeKey
  rw [h, Finmap.keys_erase, Finset.card_erase_of_mem]
  exact Finmap.mem_keys.mpr (Finmap.mem_of_lookup_eq_some (hs.recency_of_entry h))

/-- A mirrored state without a recency number has no entry. -/
lemma Mirrored.entries_eq_empty {s : State K} (hs : s.Mirrored) (h : s.recency.keys = ∅) :
    s.entries.keys = ∅ := by
  refine Finset.eq_empty_of_forall_notMem fun key hkey => ?_
  obtain ⟨entry, hentry⟩ := Finmap.mem_iff.mp (Finmap.mem_keys.mp hkey)
  have hmem := Finmap.mem_of_lookup_eq_some (hs.recency_of_entry hentry)
  rw [← Finmap.mem_keys, h] at hmem
  exact Finset.notMem_empty _ hmem

/-- Nothing is evicted while the capacity holds the entries. -/
lemma Evicted.refl {capacity : ℕ} {s : State K} (h : s.entries.keys.card ≤ capacity) :
    Evicted capacity s s where
  next_eq := rfl
  kept := id
  used_lt _ h₁ h₂ := by simp [h₁] at h₂
  card_eq := (min_eq_left h).symm

/-- **The eviction loop.** With at least as many rounds as recency numbers, the loop keeps the
maps mirrored and evicts the least recently used entries over the capacity.

**Proof sketch.** Induction on the rounds. A round over the capacity pops the least number and
removes the entry of its key (`popFirst_eq_some`), which every remaining entry was used after;
the remaining rounds suffice for the remaining numbers. An empty recency map means that there
is no entry, so the loop never stops over the capacity. -/
lemma evictRounds_spec (capacity : ℕ) :
    ∀ (fuel : ℕ) (s : State K), s.Mirrored → s.recency.keys.card ≤ fuel →
      (evictRounds capacity fuel s).Mirrored ∧
        Evicted capacity s (evictRounds capacity fuel s) := by
  intro fuel
  induction fuel with
  | zero =>
    intro s hs hfuel
    have hempty := hs.entries_eq_empty (Finset.card_eq_zero.mp (Nat.le_zero.mp hfuel))
    exact ⟨hs, Evicted.refl (by simp [hempty])⟩
  | succ fuel ih =>
    intro s hs hfuel
    unfold evictRounds
    split_ifs with hover
    · cases hpop : popFirst s.recency with
      | none =>
        have hempty := hs.entries_eq_empty (popFirst_eq_none.mp hpop)
        simp [hempty] at hover
      | some popped =>
        obtain ⟨key, recency⟩ := popped
        obtain ⟨hremove, entry, hentry, hleast⟩ := hs.popFirst_eq_some hpop
        simp only [hremove]
        obtain ⟨hmirror, hev⟩ := ih (s.removeKey key) (hs.removeKey key)
          (by rw [hs.card_recency_removeKey hentry]; omega)
        refine ⟨hmirror, ?_, fun {k e} h => ?_, fun {k e k' e'} h h' hgone => ?_, ?_⟩
        · rw [hev.next_eq, next_removeKey]
        · have hk := hev.kept h
          rw [lookup_removeKey] at hk
          split_ifs at hk
          exact hk
        · have hk := hev.kept h
          rw [lookup_removeKey] at hk
          split_ifs at hk with hkey
          by_cases hk' : k' = key
          · -- the popped entry: every other entry has a larger number
            rw [hk', hentry] at h'
            obtain rfl := Option.some.inj h'
            refine lt_of_le_of_ne (hleast k e hk) fun heq => hkey ?_
            exact hs.key_inj hk hentry heq.symm
          · exact hev.used_lt h (by rw [lookup_removeKey, if_neg hk']; exact h') hgone
        · rw [hev.card_eq, card_keys_removeKey hentry]
          omega
    · exact ⟨hs, Evicted.refl (by omega)⟩

/-- **Eviction.** `evictOver` keeps the maps mirrored and evicts exactly the least recently used
entries over the capacity. -/
theorem Mirrored.evictOver_spec {s : State K} (hs : s.Mirrored) (capacity : ℕ) :
    (s.evictOver capacity).Mirrored ∧ Evicted capacity s (s.evictOver capacity) :=
  evictRounds_spec capacity _ s hs le_rfl

/-! ### Starting and completing a lookup -/

/-- The state between the insertion and the eviction of `start_lookup`. -/
def inserted (s : State K) (key : K) : State K :=
  (s.bump).2.insert key
    { id := s.next + 1, used := s.next + 1, lookup := ⟨s.next + 1⟩, expiresAt := none }

/-- `start_lookup` names its lookup by the new number, inserts its entry and evicts. -/
lemma startLookup_eq (s : State K) (capacity : ℕ) (key : K) :
    s.startLookup capacity key = (⟨s.next + 1⟩, (s.inserted key).evictOver capacity) := rfl

/-- A started lookup draws one number. -/
@[simp] lemma next_inserted (s : State K) (key : K) : (s.inserted key).next = s.next + 1 := by
  simp [inserted, bump]

/-- The insertion gives the key a pending entry and keeps the other entries. -/
lemma lookup_inserted (s : State K) (key k : K) :
    (s.inserted key).entries.lookup k =
      if k = key then some
        { id := s.next + 1, used := s.next + 1, lookup := ⟨s.next + 1⟩, expiresAt := none }
      else s.entries.lookup k := by
  rw [inserted, lookup_insert]
  rfl

/-- The insertion of a new lookup keeps the maps mirrored. -/
lemma Mirrored.inserted {s : State K} (hs : s.Mirrored) (key : K) : (s.inserted key).Mirrored := by
  have hbump : (s.bump).2.Mirrored :=
    ⟨hs.recency_of_entry, hs.entry_of_recency, fun h => (hs.used_le_next h).trans (Nat.le_succ _)⟩
  exact hbump.insert key (hs.recency_eq_none (Nat.lt_succ_self _)) le_rfl

/-- Starting a lookup keeps the maps mirrored. -/
lemma Mirrored.startLookup {s : State K} (hs : s.Mirrored) (capacity : ℕ) (key : K) :
    (s.startLookup capacity key).2.Mirrored :=
  ((hs.inserted key).evictOver_spec capacity).1

/-- Every entry after `start_lookup` is the new one or was there before. -/
lemma Mirrored.lookup_startLookup {s : State K} (hs : s.Mirrored) (capacity : ℕ) (key : K) {k : K}
    {entry : Entry} (h : (s.startLookup capacity key).2.entries.lookup k = some entry) :
    (k = key ∧ entry =
        { id := s.next + 1, used := s.next + 1, lookup := ⟨s.next + 1⟩, expiresAt := none }) ∨
      (k ≠ key ∧ s.entries.lookup k = some entry) := by
  have hk := ((hs.inserted key).evictOver_spec capacity).2.kept h
  rw [lookup_inserted] at hk
  split_ifs at hk with hkey
  · exact Or.inl ⟨hkey, (Option.some.inj hk).symm⟩
  · exact Or.inr ⟨hkey, hk⟩

/-- Starting a lookup moves the counter on by one. -/
lemma Mirrored.next_startLookup {s : State K} (hs : s.Mirrored) (capacity : ℕ) (key : K) :
    (s.startLookup capacity key).2.next = s.next + 1 := by
  rw [startLookup_eq, ((hs.inserted key).evictOver_spec capacity).2.next_eq, next_inserted]

/-- A completion with a zero time to live removes the entry that its lookup filled. -/
lemma complete_zero (s : State K) (key : K) (id now lastInstant : ℕ) :
    s.complete key id 0 now lastInstant = s.removeLookup key id := by
  simp [complete]

/-- A completion with a positive time to live sets the expiry of the entry that its lookup filled
and changes no other entry. -/
lemma lookup_complete_of_pos (s : State K) (key k : K) {id ttl : ℕ} (now lastInstant : ℕ)
    (httl : ttl ≠ 0) :
    (s.complete key id ttl now lastInstant).entries.lookup k =
      (s.entries.lookup k).map fun entry =>
        if k = key ∧ entry.id = id then
          { entry with expiresAt := checkedAdd lastInstant now ttl }
        else entry := by
  simp only [complete, if_neg httl]
  by_cases hk : k = key
  · subst hk
    cases hentry : s.entries.lookup k with
    | none => simp [hentry]
    | some entry =>
      by_cases hid : entry.id = id
      · simp [hid]
      · simp [hid, hentry]
  · have hother : ∀ e : Entry, (s.entries.insert key e).lookup k = s.entries.lookup k := fun e =>
      Finmap.lookup_insert_of_ne _ hk
    simp only [hk, false_and, if_false, Option.map_id']
    split
    · split_ifs
      · exact hother _
      · rfl
    · rfl

/-- A completion keeps the recency map and the counter when the time to live is positive. -/
lemma recency_complete_of_pos (s : State K) (key : K) (id now lastInstant : ℕ) {ttl : ℕ}
    (httl : ttl ≠ 0) :
    (s.complete key id ttl now lastInstant).recency = s.recency ∧
      (s.complete key id ttl now lastInstant).next = s.next := by
  simp only [complete, if_neg httl]
  split
  · split_ifs <;> exact ⟨rfl, rfl⟩
  · exact ⟨rfl, rfl⟩

/-- The end of a lookup draws no number. -/
@[simp] lemma next_complete (s : State K) (key : K) (id ttl now lastInstant : ℕ) :
    (s.complete key id ttl now lastInstant).next = s.next := by
  by_cases httl : ttl = 0
  · rw [httl, complete_zero, next_removeLookup]
  · exact (recency_complete_of_pos s key id now lastInstant httl).2

/-- Every entry after a completion was there before, with the same recency number. -/
lemma used_of_lookup_complete {s : State K} {key k : K} {id ttl now lastInstant : ℕ} {entry : Entry}
    (h : (s.complete key id ttl now lastInstant).entries.lookup k = some entry) :
    ∃ e, s.entries.lookup k = some e ∧ e.used = entry.used := by
  by_cases httl : ttl = 0
  · rw [httl, complete_zero, lookup_removeLookup] at h
    split_ifs at h
    exact ⟨entry, h, rfl⟩
  · rw [lookup_complete_of_pos s key k now lastInstant httl] at h
    obtain ⟨e, he, rfl⟩ := Option.map_eq_some_iff.mp h
    exact ⟨e, he, by split_ifs <;> rfl⟩

/-- A completion keeps the maps mirrored. -/
lemma Mirrored.complete {s : State K} (hs : s.Mirrored) (key : K) (id ttl now lastInstant : ℕ) :
    (s.complete key id ttl now lastInstant).Mirrored := by
  by_cases httl : ttl = 0
  · rw [httl, complete_zero]
    exact hs.removeLookup key id
  · obtain ⟨hrec, hnext⟩ := recency_complete_of_pos s key id now lastInstant httl
    -- a completion changes no recency number of an entry
    have hused : ∀ (k : K) (entry : Entry), (if k = key ∧ entry.id = id then
        { entry with expiresAt := checkedAdd lastInstant now ttl } else entry).used =
          entry.used := fun k entry => by split_ifs <;> rfl
    refine ⟨fun {k e} h => ?_, fun {used k} h => ?_, fun {used k} h => ?_⟩
    · rw [lookup_complete_of_pos s key k now lastInstant httl] at h
      obtain ⟨entry, hentry, rfl⟩ := Option.map_eq_some_iff.mp h
      rw [hrec, hused]
      exact hs.recency_of_entry hentry
    · rw [hrec] at h
      obtain ⟨entry, hentry, hnumber⟩ := hs.entry_of_recency h
      exact ⟨_, by rw [lookup_complete_of_pos s key k now lastInstant httl, hentry]; rfl,
        (hused k entry).trans hnumber⟩
    · rw [hrec] at h
      rw [hnext]
      exact hs.used_le_next h

end State

end PsStore.Cache
