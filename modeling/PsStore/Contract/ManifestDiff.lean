import Mathlib.Data.List.Lex
import Mathlib.Data.List.Sort
import PsStore.Lib.FirstWins
import PsStore.Lib.InsertionMap

set_option relaxedAutoImplicit false
set_option autoImplicit false

/-!
# Drift between two contract manifests

`normalizeOperations` of `contract/normalizer.ts` and `diffManifests` of `contract/diff.ts`, in the
contract bot of the repository. The normaliser keeps one operation for each feature, name and
hash; the comparison keeps one for each feature and name. Of several operations that differ in
the hash only, the comparison reads the last one.

The order that `localeCompare` gives two texts is not in the repository, and it is a parameter.

## Main definitions

* `ContractOperation`, `SonyContractManifest` — an operation of the contract; a manifest.
* `normalizeOperations` — the operations of a capture, as a manifest holds them.
* `diffManifests` — the operations that were added, removed or changed.
* `DriftSound` — no difference between two manifests is lost.

## Main results

* `nodup_normalizeOperations` — no operation occurs twice in a normalised list.
* `mem_added_iff`, `mem_removed_iff`, `mem_changed_iff` — what a comparison reports.
* `driftSound_iff` — the pairs of normalised manifests whose comparison loses nothing.
-/

namespace PsStore

namespace Contract

/-! ## Operations -/

/-- A feature of the store that the contract covers. -/
inductive ContractFeature where
  | new
  | upcoming
  | discounted
  | details
  | search
  | purchased
  | wishlist
deriving DecidableEq

/-- The text of a feature. -/
def ContractFeature.text : ContractFeature → String
  | new => "new"
  | upcoming => "upcoming"
  | discounted => "discounted"
  | details => "details"
  | search => "search"
  | purchased => "purchased"
  | wishlist => "wishlist"

/-- One operation of the contract. The variables are the texts that `JSON.stringify` writes for
them; nothing looks inside. -/
structure ContractOperation where
  /-- The feature that sends the operation. -/
  feature : ContractFeature
  /-- The name of the operation. -/
  operationName : String
  /-- The hash of the persisted query. -/
  persistedQueryHash : Option String
  /-- The headers that the request needs. -/
  requiredHeaders : List String
  /-- The types of the variables. -/
  variablesSchema : String
  /-- The variables of one request. -/
  sampleVariables : String
  /-- Where the answer stands in the response. -/
  responsePath : String
  /-- The statuses that were seen. -/
  observedStatusCodes : List ℤ
deriving DecidableEq

/-- A manifest, by the operations that a comparison reads. -/
structure SonyContractManifest where
  /-- The operations. -/
  operations : List ContractOperation

/-! ## The normaliser -/

/-- `operationIdentity`: the feature, the name and the hash, or an empty text for no hash. -/
def operationIdentity (operation : ContractOperation) : String :=
  operation.feature.text ++ ":" ++ operation.operationName ++ ":" ++
    operation.persistedQueryHash.getD ""

/-- The UTF-16 code units of a text, which the default `sort` compares. -/
def utf16 (text : String) : List ℕ :=
  text.toList.flatMap fun c =>
    if c.toNat < 0x10000 then [c.toNat]
    else [0xD800 + (c.toNat - 0x10000) / 0x400, 0xDC00 + (c.toNat - 0x10000) % 0x400]

/-- The operation with its headers and its statuses sorted and without repetition. -/
def normalizeRecord (operation : ContractOperation) : ContractOperation :=
  { operation with
    requiredHeaders :=
      (firstWins id operation.requiredHeaders).insertionSort fun a b => utf16 a ≤ utf16 b
    observedStatusCodes :=
      (firstWins id operation.observedStatusCodes).insertionSort fun a b => a ≤ b }

/-- The first operation of each identity, in the order of the identities. -/
def normalizeOperations (localeCompare : String → String → Ordering)
    (operations : List ContractOperation) : List ContractOperation :=
  (firstWins operationIdentity (operations.map normalizeRecord)).insertionSort fun a b =>
    localeCompare (operationIdentity a) (operationIdentity b) ≠ .gt

/-- No identity occurs twice in a normalised list. -/
lemma nodup_map_operationIdentity (localeCompare : String → String → Ordering)
    (operations : List ContractOperation) :
    ((normalizeOperations localeCompare operations).map operationIdentity).Nodup := by
  have hperm : (normalizeOperations localeCompare operations).Perm
      (firstWins operationIdentity (operations.map normalizeRecord)) :=
    List.perm_insertionSort _ _
  exact ((hperm.map operationIdentity).nodup_iff).mpr (nodup_map_firstWins _ _)

/-- No operation occurs twice in a normalised list. -/
lemma nodup_normalizeOperations (localeCompare : String → String → Ordering)
    (operations : List ContractOperation) :
    (normalizeOperations localeCompare operations).Nodup :=
  List.Nodup.of_map _ (nodup_map_operationIdentity localeCompare operations)

/-! ## The comparison -/

/-- `identity`: the feature and the name, without the hash. -/
def identity (operation : ContractOperation) : String :=
  operation.feature.text ++ ":" ++ operation.operationName

/-- The text of a feature has no colon. -/
lemma colon_notMem_text (feature : ContractFeature) : ':' ∉ feature.text.toList := by
  cases feature <;> decide +kernel

/-- No two features have one text. -/
lemma text_injective : Function.Injective ContractFeature.text := by
  intro f g h
  revert h
  cases f <;> cases g <;> decide +kernel

/-- Two operations have the same key exactly where they have the same feature and name. -/
lemma identity_eq_iff {a b : ContractOperation} :
    identity a = identity b ↔ a.feature = b.feature ∧ a.operationName = b.operationName := by
  constructor
  · intro h
    have hlist : a.feature.text.toList ++ ':' :: a.operationName.toList =
        b.feature.text.toList ++ ':' :: b.operationName.toList := by
      simpa [identity, String.toList_append] using congrArg String.toList h
    -- the feature ends at the first colon
    have htake := congrArg (List.takeWhile (· ≠ ':')) hlist
    have hpos : ∀ f : ContractFeature, ∀ c ∈ f.text.toList, decide (c ≠ ':') = true :=
      fun f c hc => decide_eq_true fun heq => colon_notMem_text f (heq ▸ hc)
    rw [List.takeWhile_append_of_pos (hpos _), List.takeWhile_append_of_pos (hpos _)] at htake
    have hfeature : a.feature = b.feature :=
      text_injective (String.toList_injective (by simpa using htake))
    rw [hfeature] at hlist
    exact ⟨hfeature, String.toList_injective (List.cons_inj_right _ |>.mp
      (List.append_cancel_left hlist))⟩
  · intro h
    obtain ⟨hfeature, hname⟩ := h
    rw [identity, identity, hfeature, hname]

/-- `equals`: the fields stand in one order in every operation, so two operations have the same
JSON text where all their fields agree. -/
def equals (left right : ContractOperation) : Bool := decide (left = right)

/-- A reported change. -/
structure Change where
  /-- The operation of the base. -/
  fromOperation : ContractOperation
  /-- The operation of the next manifest. -/
  toOperation : ContractOperation

/-- The result of a comparison. -/
structure ManifestDiff where
  /-- Something was reported. -/
  hasDrift : Bool
  /-- The operations whose key is new. -/
  added : List ContractOperation
  /-- The operations whose key is gone. -/
  removed : List ContractOperation
  /-- The operations that differ under one key. -/
  changed : List Change

/-- What the loops of a comparison have collected. -/
structure Collected where
  /-- The operations added so far. -/
  added : List ContractOperation
  /-- The operations removed so far. -/
  removed : List ContractOperation
  /-- The changes so far. -/
  changed : List Change

/-- The first loop: an operation of the next manifest is new, the same, or changed. -/
def visitNext (baseMap : InsertionMap String ContractOperation) (acc : Collected)
    (entry : String × ContractOperation) : Collected :=
  match baseMap.get entry.1 with
  | none => { acc with added := acc.added ++ [entry.2] }
  | some baseOperation =>
    if equals baseOperation entry.2 then acc
    else { acc with changed := acc.changed ++ [⟨baseOperation, entry.2⟩] }

/-- The second loop: an operation of the base is still there or gone. -/
def visitBase (nextMap : InsertionMap String ContractOperation) (acc : Collected)
    (entry : String × ContractOperation) : Collected :=
  if nextMap.has entry.1 then acc else { acc with removed := acc.removed ++ [entry.2] }

/-- Compares two manifests. -/
def diffManifests (base next : SonyContractManifest) : ManifestDiff :=
  let baseMap := InsertionMap.ofKeyed identity base.operations
  let nextMap := InsertionMap.ofKeyed identity next.operations
  let forward := nextMap.entries.foldl (visitNext baseMap) ⟨[], [], []⟩
  let collected := baseMap.entries.foldl (visitBase nextMap) forward
  { hasDrift := decide (0 < collected.added.length) || decide (0 < collected.removed.length) ||
      decide (0 < collected.changed.length)
    added := collected.added
    removed := collected.removed
    changed := collected.changed }

/-! ## What a comparison reports -/

section Reports

variable {baseMap nextMap : InsertionMap String ContractOperation} {acc : Collected}
  {entry : String × ContractOperation} {operation : ContractOperation} {change : Change}

/-- The visit of a new operation adds it where the base has none of its key. -/
lemma mem_added_visitNext : operation ∈ (visitNext baseMap acc entry).added ↔
    operation ∈ acc.added ∨ baseMap.get entry.1 = none ∧ operation = entry.2 := by
  unfold visitNext
  cases baseMap.get entry.1 with
  | none => simp
  | some baseOperation =>
    dsimp only
    split_ifs <;> simp

/-- The visit of a new operation reports a change where the base has another one of its key. -/
lemma mem_changed_visitNext : change ∈ (visitNext baseMap acc entry).changed ↔
    change ∈ acc.changed ∨ baseMap.get entry.1 = some change.fromOperation ∧
      change.toOperation = entry.2 ∧ change.fromOperation ≠ change.toOperation := by
  unfold visitNext
  obtain ⟨fromOperation, toOperation⟩ := change
  cases baseMap.get entry.1 with
  | none => simp
  | some baseOperation =>
    dsimp only
    split_ifs with h
    · have heq : baseOperation = entry.2 := of_decide_eq_true h
      simp only [Option.some.injEq, iff_self_or]
      rintro ⟨rfl, rfl, hne⟩
      exact absurd heq hne
    · have hne : baseOperation ≠ entry.2 := of_decide_eq_false (Bool.eq_false_iff.mpr h)
      simp only [List.mem_append, List.mem_singleton, Change.mk.injEq, Option.some.injEq]
      constructor
      · rintro (h | ⟨rfl, rfl⟩)
        · exact Or.inl h
        · exact Or.inr ⟨rfl, rfl, hne⟩
      · rintro (h | ⟨rfl, rfl, -⟩)
        · exact Or.inl h
        · exact Or.inr ⟨rfl, rfl⟩

/-- The visit of a new operation removes nothing. -/
lemma removed_visitNext : (visitNext baseMap acc entry).removed = acc.removed := by
  unfold visitNext
  cases baseMap.get entry.1 with
  | none => rfl
  | some baseOperation =>
    dsimp only
    split_ifs <;> rfl

/-- The visit of a base operation removes it where no new one has its key. -/
lemma mem_removed_visitBase : operation ∈ (visitBase nextMap acc entry).removed ↔
    operation ∈ acc.removed ∨ nextMap.get entry.1 = none ∧ operation = entry.2 := by
  unfold visitBase
  split_ifs with h
  · have hne : nextMap.get entry.1 ≠ none := Option.isSome_iff_ne_none.mp h
    simp [hne]
  · have hnone : nextMap.get entry.1 = none :=
      (InsertionMap.has_eq_false_iff _).mp (Bool.eq_false_iff.mpr h)
    simp [hnone]

/-- The visit of a base operation adds nothing. -/
lemma added_visitBase : (visitBase nextMap acc entry).added = acc.added := by
  unfold visitBase
  split_ifs <;> rfl

/-- The visit of a base operation changes nothing. -/
lemma changed_visitBase : (visitBase nextMap acc entry).changed = acc.changed := by
  unfold visitBase
  split_ifs <;> rfl

variable {l : List (String × ContractOperation)}

/-- The added operations are the new ones whose keys the base does not have. -/
lemma mem_added_foldl_visitNext : operation ∈ (l.foldl (visitNext baseMap) acc).added ↔
    operation ∈ acc.added ∨ ∃ entry ∈ l, baseMap.get entry.1 = none ∧ operation = entry.2 :=
  InsertionMap.foldl_iff_exists (f := visitNext baseMap)
    (P := fun acc : Collected => operation ∈ acc.added) (fun _ _ => mem_added_visitNext) acc l

/-- The changes are those between the operations of one key. -/
lemma mem_changed_foldl_visitNext : change ∈ (l.foldl (visitNext baseMap) acc).changed ↔
    change ∈ acc.changed ∨ ∃ entry ∈ l, baseMap.get entry.1 = some change.fromOperation ∧
      change.toOperation = entry.2 ∧ change.fromOperation ≠ change.toOperation :=
  InsertionMap.foldl_iff_exists (f := visitNext baseMap)
    (P := fun acc : Collected => change ∈ acc.changed) (fun _ _ => mem_changed_visitNext) acc l

/-- The removed operations are those of the base whose keys no new one has. -/
lemma mem_removed_foldl_visitBase : operation ∈ (l.foldl (visitBase nextMap) acc).removed ↔
    operation ∈ acc.removed ∨ ∃ entry ∈ l, nextMap.get entry.1 = none ∧ operation = entry.2 :=
  InsertionMap.foldl_iff_exists (f := visitBase nextMap)
    (P := fun acc : Collected => operation ∈ acc.removed) (fun _ _ => mem_removed_visitBase) acc l

/-- The new operations remove nothing. -/
lemma removed_foldl_visitNext : (l.foldl (visitNext baseMap) acc).removed = acc.removed := by
  induction l generalizing acc with
  | nil => rfl
  | cons entry l ih => rw [List.foldl_cons, ih, removed_visitNext]

/-- The base operations add and change nothing. -/
lemma foldl_visitBase : (l.foldl (visitBase nextMap) acc).added = acc.added ∧
    (l.foldl (visitBase nextMap) acc).changed = acc.changed := by
  induction l generalizing acc with
  | nil => exact ⟨rfl, rfl⟩
  | cons entry l ih =>
    rw [List.foldl_cons, ih.1, ih.2, added_visitBase, changed_visitBase]
    exact ⟨rfl, rfl⟩

end Reports

section Comparison

variable {base next : SonyContractManifest} {operation : ContractOperation} {change : Change}

/-- The operations of one manifest whose key the other one lacks. -/
lemma exists_lacking_iff {operations others : List ContractOperation} :
    (∃ entry ∈ (InsertionMap.ofKeyed identity operations).entries,
      (InsertionMap.ofKeyed identity others).get entry.1 = none ∧ operation = entry.2) ↔
      IsLastOfKey identity operations operation ∧
        ∀ b ∈ others, identity b ≠ identity operation := by
  rw [InsertionMap.exists_mem_entries_ofKeyed_iff (P := fun key a =>
    (InsertionMap.ofKeyed identity others).get key = none ∧ operation = a)]
  constructor
  · intro h
    obtain ⟨_, hlast, hnone, rfl⟩ := h
    exact ⟨hlast, InsertionMap.get_ofKeyed_eq_none_iff.mp hnone⟩
  · intro h
    obtain ⟨hlast, hnone⟩ := h
    exact ⟨operation, hlast, InsertionMap.get_ofKeyed_eq_none_iff.mpr hnone, rfl⟩

/-- An operation is reported as added where it is the last one of a key that the base lacks. -/
lemma mem_added_iff : operation ∈ (diffManifests base next).added ↔
    IsLastOfKey identity next.operations operation ∧
      ∀ b ∈ base.operations, identity b ≠ identity operation := by
  show operation ∈ Collected.added (List.foldl _ (List.foldl _ _ _) _) ↔ _
  rw [foldl_visitBase.1, mem_added_foldl_visitNext, exists_lacking_iff]
  exact or_iff_right List.not_mem_nil

/-- An operation is reported as removed where it is the last one of a key that the next manifest
lacks. -/
lemma mem_removed_iff : operation ∈ (diffManifests base next).removed ↔
    IsLastOfKey identity base.operations operation ∧
      ∀ b ∈ next.operations, identity b ≠ identity operation := by
  show operation ∈ Collected.removed (List.foldl _ (List.foldl _ _ _) _) ↔ _
  rw [mem_removed_foldl_visitBase, removed_foldl_visitNext, exists_lacking_iff]
  exact or_iff_right List.not_mem_nil

/-- A change is reported where the last operations of one key differ. -/
lemma mem_changed_iff : change ∈ (diffManifests base next).changed ↔
    IsLastOfKey identity base.operations change.fromOperation ∧
      IsLastOfKey identity next.operations change.toOperation ∧
      identity change.fromOperation = identity change.toOperation ∧
      change.fromOperation ≠ change.toOperation := by
  show change ∈ Collected.changed (List.foldl _ (List.foldl _ _ _) _) ↔ _
  rw [foldl_visitBase.2, mem_changed_foldl_visitNext,
    InsertionMap.exists_mem_entries_ofKeyed_iff (P := fun key a =>
      (InsertionMap.ofKeyed identity base.operations).get key = some change.fromOperation ∧
        change.toOperation = a ∧ change.fromOperation ≠ change.toOperation)]
  constructor
  · rintro (h | ⟨_, hlast, hget, rfl, hne⟩)
    · cases h
    · obtain ⟨hkey, hlast'⟩ := InsertionMap.get_ofKeyed_eq_some_iff.mp hget
      exact ⟨hlast', hlast, hkey, hne⟩
  · intro h
    obtain ⟨hlast, hlast', hkey, hne⟩ := h
    exact Or.inr ⟨change.toOperation, hlast',
      InsertionMap.get_ofKeyed_eq_some_iff.mpr ⟨hkey, hlast⟩, rfl, hne⟩

/-- A comparison reports no drift where it reports nothing. -/
lemma hasDrift_eq_false_iff : (diffManifests base next).hasDrift = false ↔
    (diffManifests base next).added = [] ∧ (diffManifests base next).removed = [] ∧
      (diffManifests base next).changed = [] := by
  show (decide (0 < (diffManifests base next).added.length) ||
    decide (0 < (diffManifests base next).removed.length) ||
    decide (0 < (diffManifests base next).changed.length)) = false ↔ _
  simp [and_assoc]

/-- An operation that the next manifest lacks is reported where it is the last one of its key. -/
lemma reported_base_iff (h : operation ∉ next.operations) :
    (operation ∈ (diffManifests base next).removed ∨
      ∃ change ∈ (diffManifests base next).changed, change.fromOperation = operation) ↔
    IsLastOfKey identity base.operations operation := by
  constructor
  · rintro (hremoved | ⟨change, hchanged, rfl⟩)
    · exact (mem_removed_iff.mp hremoved).1
    · exact (mem_changed_iff.mp hchanged).1
  · intro hlast
    by_cases hkey : ∃ b ∈ next.operations, identity b = identity operation
    · obtain ⟨b, hb, hbkey⟩ := hkey
      obtain ⟨c, hc, hckey⟩ := @InsertionMap.exists_isLastOfKey _ _ _ identity _ _ hb
      have hne : operation ≠ c := fun heq => h (heq ▸ hc.mem)
      exact Or.inr ⟨⟨operation, c⟩,
        mem_changed_iff.mpr ⟨hlast, hc, (hckey.trans hbkey).symm, hne⟩, rfl⟩
    · exact Or.inl (mem_removed_iff.mpr ⟨hlast, fun b hb hbkey => hkey ⟨b, hb, hbkey⟩⟩)

/-- An operation that the base lacks is reported where it is the last one of its key. -/
lemma reported_next_iff (h : operation ∉ base.operations) :
    (operation ∈ (diffManifests base next).added ∨
      ∃ change ∈ (diffManifests base next).changed, change.toOperation = operation) ↔
    IsLastOfKey identity next.operations operation := by
  constructor
  · rintro (hadded | ⟨change, hchanged, rfl⟩)
    · exact (mem_added_iff.mp hadded).1
    · exact (mem_changed_iff.mp hchanged).2.1
  · intro hlast
    by_cases hkey : ∃ b ∈ base.operations, identity b = identity operation
    · obtain ⟨b, hb, hbkey⟩ := hkey
      obtain ⟨c, hc, hckey⟩ := @InsertionMap.exists_isLastOfKey _ _ _ identity _ _ hb
      have hne : c ≠ operation := fun heq => h (heq ▸ hc.mem)
      exact Or.inr ⟨⟨c, operation⟩,
        mem_changed_iff.mpr ⟨hc, hlast, hckey.trans hbkey, hne⟩, rfl⟩
    · exact Or.inl (mem_added_iff.mpr ⟨hlast, fun b hb hbkey => hkey ⟨b, hb, hbkey⟩⟩)

end Comparison

/-! ## Sound comparisons -/

/-- **Soundness of a comparison.** No drift means the same operations, and every operation that
only one manifest has is reported. -/
structure DriftSound (base next : SonyContractManifest) : Prop where
  /-- Without drift the manifests have the same operations. -/
  same : (diffManifests base next).hasDrift = false →
    ∀ operation, operation ∈ base.operations ↔ operation ∈ next.operations
  /-- An operation of the base only is removed or changed. -/
  base_only : ∀ operation ∈ base.operations, operation ∉ next.operations →
    operation ∈ (diffManifests base next).removed ∨
      ∃ change ∈ (diffManifests base next).changed, change.fromOperation = operation
  /-- An operation of the next manifest only is added or changed. -/
  next_only : ∀ operation ∈ next.operations, operation ∉ base.operations →
    operation ∈ (diffManifests base next).added ∨
      ∃ change ∈ (diffManifests base next).changed, change.toOperation = operation

/-- A later operation of the list has the same feature and name. -/
def IsShadowed (operations : List ContractOperation) (operation : ContractOperation) : Prop :=
  ∃ earlier later, operations = earlier ++ operation :: later ∧
    ∃ other ∈ later, other.feature = operation.feature ∧
      other.operationName = operation.operationName

/-- An operation is shadowed where another one follows it under its key. -/
lemma isShadowed_iff {operations : List ContractOperation} {operation : ContractOperation} :
    IsShadowed operations operation ↔ IsFollowedInKey identity operations operation := by
  simp only [IsShadowed, IsFollowedInKey, identity_eq_iff]

section Soundness

variable {base next : SonyContractManifest}

/-- Every operation of the base only is reported exactly where no such operation is shadowed. -/
lemma forall_base_only_iff (hbase : base.operations.Nodup) :
    (∀ operation ∈ base.operations, operation ∉ next.operations →
      operation ∈ (diffManifests base next).removed ∨
        ∃ change ∈ (diffManifests base next).changed, change.fromOperation = operation) ↔
    ∀ operation, IsShadowed base.operations operation → operation ∈ next.operations := by
  simp only [isShadowed_iff, ← forall_isLastOfKey_iff hbase]
  exact forall_congr' fun operation => forall_congr' fun _ => forall_congr' reported_base_iff

/-- Every operation of the next manifest only is reported exactly where no such operation is
shadowed. -/
lemma forall_next_only_iff (hnext : next.operations.Nodup) :
    (∀ operation ∈ next.operations, operation ∉ base.operations →
      operation ∈ (diffManifests base next).added ∨
        ∃ change ∈ (diffManifests base next).changed, change.toOperation = operation) ↔
    ∀ operation, IsShadowed next.operations operation → operation ∈ base.operations := by
  simp only [isShadowed_iff, ← forall_isLastOfKey_iff hnext]
  exact forall_congr' fun operation => forall_congr' fun _ => forall_congr' reported_next_iff

/-- A comparison of manifests without repeated operations is sound exactly where each manifest has
the operations that are shadowed in the other. -/
lemma driftSound_iff_of_nodup (hbase : base.operations.Nodup) (hnext : next.operations.Nodup) :
    DriftSound base next ↔
      (∀ operation, IsShadowed base.operations operation → operation ∈ next.operations) ∧
        ∀ operation, IsShadowed next.operations operation → operation ∈ base.operations := by
  rw [← forall_base_only_iff hbase, ← forall_next_only_iff hnext]
  constructor
  · intro hsound
    exact ⟨hsound.base_only, hsound.next_only⟩
  · intro h
    obtain ⟨hbaseOnly, hnextOnly⟩ := h
    refine ⟨fun hdrift operation => ?_, hbaseOnly, hnextOnly⟩
    -- nothing is reported, so no operation is in one manifest only
    obtain ⟨hadded, hremoved, hchanged⟩ := hasDrift_eq_false_iff.mp hdrift
    constructor
    · intro hmem
      by_contra hnot
      have hreported := hbaseOnly operation hmem hnot
      simp [hremoved, hchanged] at hreported
    · intro hmem
      by_contra hnot
      have hreported := hnextOnly operation hmem hnot
      simp [hadded, hchanged] at hreported

end Soundness

/-- **Drift detection** between two normalised manifests loses nothing exactly where each manifest
has every operation of the other that is not the last one of its feature and name.

**Proof sketch.** The comparison folds over two maps from features and names to operations, and of
two operations under one key a map keeps the last one. So an operation is seen exactly where no
later one of its key follows it (`isShadowed_iff`), and an unseen one is lost unless the other
manifest has it too. -/
theorem driftSound_iff (localeCompare localeCompare' : String → String → Ordering)
    (captured captured' : List ContractOperation) :
    DriftSound ⟨normalizeOperations localeCompare captured⟩
        ⟨normalizeOperations localeCompare' captured'⟩ ↔
      (∀ operation, IsShadowed (normalizeOperations localeCompare captured) operation →
        operation ∈ normalizeOperations localeCompare' captured') ∧
      ∀ operation, IsShadowed (normalizeOperations localeCompare' captured') operation →
        operation ∈ normalizeOperations localeCompare captured :=
  driftSound_iff_of_nodup (nodup_normalizeOperations localeCompare captured)
    (nodup_normalizeOperations localeCompare' captured')

/-- The grid operation of the feature `new`, with a hash of one repeated digit. -/
def gridOperation (digit : Char) : ContractOperation where
  feature := .new
  operationName := "categoryGridRetrieve"
  persistedQueryHash := some (String.ofList (List.replicate 64 digit))
  requiredHeaders := ["x-apollo-operation-name"]
  variablesSchema := "\x7b\"id\":\"string\"\x7d"
  sampleVariables := "\x7b\"id\":\"x\"\x7d"
  responsePath := "data.categoryGridRetrieve.products"
  observedStatusCodes := [200]

/-- **An operation can vanish without drift.** The base has the grid operation with two hashes, the
next manifest with the second hash only. -/
theorem not_driftSound_gridOperation :
    ¬ ∀ (localeCompare : String → String → Ordering) (captured captured' : List ContractOperation),
      DriftSound ⟨normalizeOperations localeCompare captured⟩
        ⟨normalizeOperations localeCompare captured'⟩ := by
  intro h
  have hsound := h compare [gridOperation 'a', gridOperation 'b'] [gridOperation 'b']
  have hdrift : (diffManifests
      ⟨normalizeOperations compare [gridOperation 'a', gridOperation 'b']⟩
      ⟨normalizeOperations compare [gridOperation 'b']⟩).hasDrift = false := by decide +kernel
  have hmem : gridOperation 'a' ∈
      normalizeOperations compare [gridOperation 'a', gridOperation 'b'] := by decide +kernel
  have hnot : gridOperation 'a' ∉ normalizeOperations compare [gridOperation 'b'] := by
    decide +kernel
  exact hnot ((hsound.same hdrift _).mp hmem)

end Contract

end PsStore
