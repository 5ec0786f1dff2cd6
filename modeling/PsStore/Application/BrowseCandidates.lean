import PsStore.Application.Games
import PsStore.Domain.DateForm

set_option relaxedAutoImplicit false
set_option autoImplicit false

/-!
# The candidates of a BROWSE concept

Which products of a concept are tried, in which order they are looked up, and what the lookups that
were made say about the outcome. The choice is `browseCandidateIds`, the outcome
`Lookups.resolveBrowseConcept`; here the lookups are recorded too.

## Main definitions

* `validProductIds` — the valid product ids of a concept, in source order.
* `Lookups.lookUpCandidates` — the outcome with the lookups that were made.
* `Lookups.Resolves` — how the lookups decide the outcome.

## Main results

* `browseCandidateIds_eq` — the candidates as a stable partition of the distinct valid ids.
* `Lookups.resolves_lookUpCandidates` — the lookups stop at the first id that decides.
* `Lookups.browse_resolution` — the choice and the resolution.
-/

namespace PsStore

/-! ## The choice -/

/-- The valid product ids of a concept, in source order. -/
def validProductIds (concept : Concept) : List ProductId :=
  (concept.products.getD []).filterMap fun product => product.id.bind ProductId.parse

/-- **The candidates** are the first three of the distinct valid ids, the PS5 title ids first and
each part in source order. -/
theorem browseCandidateIds_eq (concept : Concept) :
    browseCandidateIds concept =
      ((validProductIds concept).eraseDups.filter isPs5TitleProductId ++
        (validProductIds concept).eraseDups.filter fun id => !isPs5TitleProductId id).take 3 := by
  simp only [browseCandidateIds, List.partition_eq_filter_filter, firstWins_id]
  rfl

/-! ## The resolution -/

/-- The instant of a detail's release date. -/
def releaseInstant (detail : ProductDetail) : Option ℤ := detail.releaseDate.bind parseDateMs

/-- The date of a BROWSE card is the normalised date of the detail. -/
lemma browseConceptToGame_date (concept : Concept) (id : ProductId) (detail : ProductDetail)
    (nowMs : ℤ) :
    (browseConceptToGame concept id (detail.releaseDate.getD "") detail.genres nowMs).date =
      toIsoOrDefault detail.releaseDate := by
  show ((parseDateMs (detail.releaseDate.getD "")).bind toIsoString).getD "" = _
  cases detail.releaseDate with
  | none => rfl
  | some text =>
    by_cases hempty : text = ""
    · rw [hempty]
      rfl
    · show _ = if text = "" then "" else ((parseDateMs text).bind toIsoString).getD ""
      rw [if_neg hempty]
      rfl

/-- A BROWSE card is a pre-order exactly where it has a date, and the detail's date is a later
instant. -/
lemma browseConceptToGame_preOrder (concept : Concept) (id : ProductId) (detail : ProductDetail)
    (nowMs : ℤ) :
    (browseConceptToGame concept id (detail.releaseDate.getD "") detail.genres nowMs).preOrder =
      (toIsoOrDefault detail.releaseDate != "" &&
        (releaseInstant detail).any fun ms => decide (nowMs < ms)) := by
  have hinstant : parseDateMs (detail.releaseDate.getD "") = releaseInstant detail := by
    unfold releaseInstant
    cases detail.releaseDate <;> rfl
  rw [← browseConceptToGame_date concept id detail nowMs, ← hinstant]
  rfl

namespace Lookups

variable (u : Lookups)

/-- The outcome for the candidates `ids`, with the lookups that were made. -/
def lookUpCandidates (concept : Concept) (nowMs : ℤ) :
    List ProductId → List ProductId × BrowseResolution
  | [] => ([], .dropped)
  | id :: rest =>
    match u.strictDetail id with
    | .error _ => ([id], .failed)
    | .ok detail =>
      if isPs5Game detail.platforms detail.storeDisplayClassification then
        ([id], .game (browseConceptToGame concept id (detail.releaseDate.getD "") detail.genres
          nowMs))
      else
        let (lookups, resolution) := lookUpCandidates concept nowMs rest
        (id :: lookups, resolution)

/-- The recorded outcome is that of the source. -/
lemma lookUpCandidates_snd (concept : Concept) (nowMs : ℤ) (ids : List ProductId) :
    (u.lookUpCandidates concept nowMs ids).2 = u.resolveCandidates concept nowMs ids := by
  induction ids with
  | nil => rfl
  | cons id ids ih =>
    rw [lookUpCandidates, resolveCandidates]
    cases u.strictDetail id with
    | error e => rfl
    | ok detail =>
      dsimp only
      split_ifs
      · rfl
      · exact ih

/-- The lookup of the id succeeds, and its detail is no PS5 game. -/
def Passes (id : ProductId) : Prop :=
  ∃ detail, u.strictDetail id = .ok detail ∧
    isPs5Game detail.platforms detail.storeDisplayClassification = false

/-- How the lookups of the candidates `ids` decide the outcome. -/
inductive Resolves (concept : Concept) (nowMs : ℤ) (ids : List ProductId) :
    List ProductId → BrowseResolution → Prop where
  /-- The last lookup fails. -/
  | failed {pre post : List ProductId} {id : ProductId} {e : UpstreamError}
      (hids : ids = pre ++ id :: post) (hpre : ∀ q ∈ pre, u.Passes q)
      (hfail : u.strictDetail id = .error e) : Resolves concept nowMs ids (pre ++ [id]) .failed
  /-- The last lookup finds a PS5 game. -/
  | game {pre post : List ProductId} {id : ProductId} {detail : ProductDetail} {card : Game}
      (hids : ids = pre ++ id :: post) (hpre : ∀ q ∈ pre, u.Passes q)
      (hdetail : u.strictDetail id = .ok detail)
      (hps5 : isPs5Game detail.platforms detail.storeDisplayClassification = true)
      (hid : card.id = id.toGameId)
      (hdate : card.date = toIsoOrDefault detail.releaseDate)
      (hpreOrder : card.preOrder = (toIsoOrDefault detail.releaseDate != "" &&
        (releaseInstant detail).any fun ms => decide (nowMs < ms)))
      (hgenres : card.genres = if detail.genres = [] then
        ((firstProduct concept).bind ConceptProductRef.genres).getD [] else detail.genres) :
      Resolves concept nowMs ids (pre ++ [id]) (.game card)
  /-- Every candidate is looked up, and none is a PS5 game. -/
  | dropped (h : ∀ q ∈ ids, u.Passes q) : Resolves concept nowMs ids ids .dropped

/-- A candidate that passes comes before the deciding one. -/
lemma Resolves.cons {u : Lookups} {concept : Concept} {nowMs : ℤ} {id : ProductId}
    {ids lookups : List ProductId} {resolution : BrowseResolution} (hid : u.Passes id)
    (h : u.Resolves concept nowMs ids lookups resolution) :
    u.Resolves concept nowMs (id :: ids) (id :: lookups) resolution := by
  cases h with
  | @failed pre post q e hids hpre hfail =>
    have hids' : id :: ids = (id :: pre) ++ q :: post := congrArg (id :: ·) hids
    exact .failed hids' (List.forall_mem_cons.mpr ⟨hid, hpre⟩) hfail
  | @game pre post q detail card hids hpre hdetail hps5 hcard hdate hpreOrder hgenres =>
    have hids' : id :: ids = (id :: pre) ++ q :: post := congrArg (id :: ·) hids
    exact .game hids' (List.forall_mem_cons.mpr ⟨hid, hpre⟩) hdetail hps5 hcard hdate hpreOrder
      hgenres
  | dropped hall => exact .dropped (List.forall_mem_cons.mpr ⟨hid, hall⟩)

/-- **The lookups stop at the first id that decides.**

**Proof sketch.** By induction on the candidates: a failed lookup ends them, a PS5 game ends them,
and every other detail goes on with the rest. -/
theorem resolves_lookUpCandidates (concept : Concept) (nowMs : ℤ) (ids : List ProductId) :
    u.Resolves concept nowMs ids (u.lookUpCandidates concept nowMs ids).1
      (u.lookUpCandidates concept nowMs ids).2 := by
  induction ids with
  | nil => exact .dropped (by simp)
  | cons id ids ih =>
    have hfirst : id :: ids = [] ++ id :: ids := rfl
    rw [lookUpCandidates]
    cases hdetail : u.strictDetail id with
    | error e => exact .failed hfirst (by simp) hdetail
    | ok detail =>
      dsimp only
      split_ifs with hps5
      · exact .game hfirst (by simp) hdetail hps5 rfl
          (browseConceptToGame_date concept id detail nowMs)
          (browseConceptToGame_preOrder concept id detail nowMs) rfl
      · exact ih.cons ⟨detail, hdetail, by simpa using hps5⟩

/-- The lookups are the first candidates. -/
lemma Resolves.lookups_first {u : Lookups} {concept : Concept} {nowMs : ℤ}
    {ids lookups : List ProductId} {resolution : BrowseResolution}
    (h : u.Resolves concept nowMs ids lookups resolution) : lookups <+: ids := by
  cases h with
  | @failed pre post q e hids => exact ⟨post, by rw [hids, List.append_assoc]; rfl⟩
  | @game pre post q detail card hids => exact ⟨post, by rw [hids, List.append_assoc]; rfl⟩
  | dropped => exact List.prefix_refl _

/-- **The choice and the resolution** of a BROWSE concept.

* The candidates are the first three of the distinct valid product ids, the PS5 title ids first and
  each part in source order.
* The lookups that are made are the first candidates, at most three, and no id twice.
* They decide the outcome: it is a failure where the last one fails, a card with the id and the data
  of the last one's detail where that is a PS5 game, and else there is none. The genres are those
  of the concept where the detail lists none.

**Proof sketch.** `resolves_lookUpCandidates` is by induction on the candidates: a failure or a PS5
game ends the lookups, and any other detail goes on with the rest. The candidates are a take of
three of a list without repetition, and the lookups are a front part of it. -/
theorem browse_resolution (concept : Concept) (nowMs : ℤ) :
    browseCandidateIds concept =
        ((validProductIds concept).eraseDups.filter isPs5TitleProductId ++
          (validProductIds concept).eraseDups.filter fun id => !isPs5TitleProductId id).take 3 ∧
      ∃ lookups, u.lookUpCandidates concept nowMs (browseCandidateIds concept) =
          (lookups, u.resolveBrowseConcept nowMs concept) ∧
        u.Resolves concept nowMs (browseCandidateIds concept) lookups
          (u.resolveBrowseConcept nowMs concept) ∧
        lookups <+: browseCandidateIds concept ∧ lookups.length ≤ 3 ∧ lookups.Nodup := by
  have houtcome : (u.lookUpCandidates concept nowMs (browseCandidateIds concept)).2 =
      u.resolveBrowseConcept nowMs concept := u.lookUpCandidates_snd concept nowMs _
  have hresolves := u.resolves_lookUpCandidates concept nowMs (browseCandidateIds concept)
  rw [houtcome] at hresolves
  have hfirst := hresolves.lookups_first
  have hlength : (browseCandidateIds concept).length ≤ 3 := by
    rw [browseCandidateIds_eq]
    exact List.length_take_le _ _
  exact ⟨browseCandidateIds_eq concept, _, Prod.ext rfl houtcome, hresolves, hfirst,
    hfirst.length_le.trans hlength, (nodup_browseCandidateIds concept).sublist hfirst.sublist⟩

end Lookups

/-- A concept whose product names a genre, while the detail of the product names none. -/
def genreConcept : Concept where
  name := some "Sample"
  products := some [{ id := some sampleProduct.text, genres := some ["Action"] }]

/-- A store whose details are PS5 games without a genre. -/
def genrelessStore : Catalog :=
  { Catalog.empty with
    productDetail := fun _ =>
      .ok { platforms := ["PS5"], storeDisplayClassification := some "FULL_GAME" } }

/-- **The genres of a card need not come from the detail.** -/
theorem browse_genres_of_concept :
    ¬∀ (u : Lookups) (concept : Concept) (nowMs : ℤ) (card : Game),
      u.resolveBrowseConcept nowMs concept = .game card →
        ∃ id ∈ browseCandidateIds concept, ∃ detail, u.strictDetail id = .ok detail ∧
          card.id = id.toGameId ∧ card.genres = detail.genres := by
  intro h
  obtain ⟨id, -, detail, hdetail, -, hgenres⟩ := h genrelessStore.lookups genreConcept 0 _ rfl
  cases hdetail
  exact absurd hgenres (by decide)

end PsStore
