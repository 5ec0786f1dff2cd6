import Mathlib.Data.List.Perm.Basic
import Mathlib.Data.List.Sort

set_option relaxedAutoImplicit false
set_option autoImplicit false

/-!
# Bounded unordered lookups

A buffer starts the lookups of its items in order, as long as fewer than `limit` of them run, and
hands over the outputs in the order in which the lookups end. Which running lookup ends next is
arbitrary: a function `pick` chooses it by its place among the running ones. Sorting the outputs
by the index of their item restores the order of the items.

The lookup takes the index of its item too, so two lookups of one item may end differently.

## Main definitions

* `Buffer`, `Buffer.fill`, `Buffer.finish` — the buffer, and its two moves.
* `unorderedBounded` — the outputs in the order in which the lookups end.
* `inOrderBounded` — the outputs in the order of the items.

## Main results

* `unorderedBounded_perm` — every item is looked up exactly once.
* `inOrderBounded_eq` — the outputs in order do not depend on the limit nor on the order in which
  the lookups end.
-/

universe u v

variable {α : Type u} {β : Type v}

/-- The state of a buffered stream: the items that wait with their indices, the running lookups,
and the outputs so far. -/
structure Buffer (α : Type u) (β : Type v) where
  waiting : List (ℕ × α)
  running : List (ℕ × α)
  ended : List (ℕ × β)

namespace Buffer

variable (limit : ℕ) (lookup : ℕ → α → β) (pick : ℕ → ℕ)

/-- Starts waiting lookups, in order, up to the limit. -/
def fill (b : Buffer α β) : Buffer α β :=
  let room := limit - b.running.length
  { b with
    waiting := b.waiting.drop room
    running := b.running ++ b.waiting.take room }

/-- Ends the running lookup at the chosen place, counted around. -/
def finish (choice : ℕ) (b : Buffer α β) : Buffer α β :=
  match b.running[choice % b.running.length]? with
  | none => b
  | some (index, item) =>
    { b with
      running := b.running.eraseIdx (choice % b.running.length)
      ended := b.ended ++ [(index, lookup index item)] }

/-- Rounds of the stream: each fills the buffer and hands over one output. -/
def rounds : ℕ → Buffer α β → Buffer α β
  | 0, b => b
  | n + 1, b => rounds n ((b.fill limit).finish lookup (pick b.ended.length))

/-- The outputs of the stream, those of the lookups to come included. -/
def outputs (b : Buffer α β) : List (ℕ × β) :=
  b.ended ++ (b.running ++ b.waiting).map fun p => (p.1, lookup p.1 p.2)

/-- The lookups that have not ended. -/
def remaining (b : Buffer α β) : ℕ := b.running.length + b.waiting.length

variable {limit pick}

/-- Starting lookups changes no output. -/
lemma outputs_fill (b : Buffer α β) : (b.fill limit).outputs lookup = b.outputs lookup := by
  simp [outputs, fill, List.append_assoc]

/-- Starting lookups leaves as many to end. -/
lemma remaining_fill (limit : ℕ) (b : Buffer α β) : (b.fill limit).remaining = b.remaining := by
  simp only [remaining, fill, List.length_append, List.length_take, List.length_drop]
  omega

/-- Where a lookup remains, one runs after the fill. -/
lemma running_fill (hlimit : 1 ≤ limit) (b : Buffer α β) (h : 0 < b.remaining) :
    0 < (b.fill limit).running.length := by
  simp only [remaining] at h
  simp only [fill, List.length_append, List.length_take]
  omega

/-- **One lookup ends.** Where a lookup runs, exactly one ends, and the outputs stay the same up
to their order. -/
lemma finish_spec (choice : ℕ) {b : Buffer α β} (h : 0 < b.running.length) :
    ((b.finish lookup choice).outputs lookup).Perm (b.outputs lookup) ∧
      (b.finish lookup choice).remaining + 1 = b.remaining := by
  have hplace : choice % b.running.length < b.running.length := Nat.mod_lt _ h
  unfold finish
  generalize choice % b.running.length = place at hplace ⊢
  rw [List.getElem?_eq_getElem hplace]
  constructor
  · -- the output of the chosen lookup moves from the running ones to the ended ones
    have hrunning := (List.getElem_cons_eraseIdx_perm hplace).map fun p => (p.1, lookup p.1 p.2)
    simp only [outputs, List.map_append, List.append_assoc]
    refine List.Perm.append_left _ ?_
    rw [← List.append_assoc]
    exact List.Perm.append_right _ hrunning
  · have hlength := List.length_eraseIdx_of_lt hplace
    simp only [remaining]
    omega

/-- **All lookups end.** As many rounds as lookups remain hand over every output. -/
lemma rounds_spec (hlimit : 1 ≤ limit) (n : ℕ) (b : Buffer α β) (hn : b.remaining = n) :
    ((rounds limit lookup pick n b).ended).Perm (b.outputs lookup) := by
  induction n generalizing b with
  | zero =>
    have hrun : b.running = [] := List.eq_nil_of_length_eq_zero (by unfold remaining at hn; omega)
    have hwait : b.waiting = [] := List.eq_nil_of_length_eq_zero (by unfold remaining at hn; omega)
    simp [rounds, outputs, hrun, hwait]
  | succ n ih =>
    have hrunning := running_fill hlimit b (by omega)
    have hfilled := remaining_fill limit b
    obtain ⟨hperm, hremaining⟩ := finish_spec lookup (pick b.ended.length) hrunning
    rw [outputs_fill] at hperm
    exact (ih _ (by omega)).trans hperm

end Buffer

variable (pick : ℕ → ℕ) (limit : ℕ) (lookup : ℕ → α → β)

/-- The outputs of the lookups with the indices of their items, in the order in which the lookups
end. -/
def unorderedBounded (items : List α) : List (ℕ × β) :=
  (Buffer.rounds limit lookup pick items.length ⟨items.mapIdx Prod.mk, [], []⟩).ended

/-- The outputs of the lookups in the order of the items. -/
def inOrderBounded (items : List α) : List β :=
  ((unorderedBounded pick limit lookup items).insertionSort fun a b => a.1 ≤ b.1).map Prod.snd

variable {limit}

/-- **Every item is looked up exactly once.** -/
theorem unorderedBounded_perm (hlimit : 1 ≤ limit) (items : List α) :
    (unorderedBounded pick limit lookup items).Perm
      (items.mapIdx fun index item => (index, lookup index item)) := by
  refine (Buffer.rounds_spec lookup hlimit _ _ ?_).trans ?_
  · simp [Buffer.remaining]
  · simp [Buffer.outputs, List.mapIdx_eq_zipIdx_map, Function.comp_def]

/-- **The index restores the order.** Outputs that are those of the items in some order, sorted by
the index of their item, are those of looking up the items one after the other.

**Proof sketch.** The sorted outputs and the outputs in item order are permutations of each
other, both sorted by the index, and an index determines its output. -/
theorem map_snd_insertionSort_of_perm {items : List α} {outputs : List (ℕ × β)}
    (houtputs : outputs.Perm (items.mapIdx fun index item => (index, lookup index item))) :
    (outputs.insertionSort fun a b => a.1 ≤ b.1).map Prod.snd = items.mapIdx lookup := by
  set r : ℕ × β → ℕ × β → Prop := fun a b => a.1 ≤ b.1
  set inOrder := items.mapIdx fun index item => (index, lookup index item)
  have hperm : (outputs.insertionSort r).Perm inOrder :=
    (List.perm_insertionSort r _).trans houtputs
  have hsorted : inOrder.Pairwise r := by
    rw [List.pairwise_iff_getElem]
    intro i j hi hj hij
    simpa [inOrder, r] using hij.le
  have hunique : ∀ a b, a ∈ inOrder → b ∈ inOrder → a.1 = b.1 → a = b := by
    intro a b ha hb hab
    obtain ⟨i, hi, rfl⟩ := List.mem_mapIdx.mp ha
    obtain ⟨j, hj, rfl⟩ := List.mem_mapIdx.mp hb
    obtain rfl : i = j := hab
    rfl
  have heq : outputs.insertionSort r = inOrder := by
    have : Std.Total r := ⟨fun a b => le_total a.1 b.1⟩
    have : IsTrans (ℕ × β) r := ⟨fun _ _ _ => le_trans⟩
    refine List.Perm.eq_of_pairwise ?_ (List.pairwise_insertionSort r _) hsorted hperm
    intro a b ha hb hab hba
    exact hunique a b (hperm.mem_iff.mp ha) hb (le_antisymm hab hba)
  rw [heq]
  simp only [inOrder, List.mapIdx_eq_zipIdx_map, List.map_map]
  rfl

/-- **The order is restored.** The outputs are those of looking up the items one after the
other: neither the limit nor the order in which the lookups end shows. -/
theorem inOrderBounded_eq (hlimit : 1 ≤ limit) (items : List α) :
    inOrderBounded pick limit lookup items = items.mapIdx lookup :=
  map_snd_insertionSort_of_perm lookup (unorderedBounded_perm pick lookup hlimit items)
