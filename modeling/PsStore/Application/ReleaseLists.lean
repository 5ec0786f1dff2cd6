import PsStore.Application.Games

set_option relaxedAutoImplicit false
set_option autoImplicit false

/-!
# The release list

NEW and UPCOMING read one merged list of both release grids, whose cards take the dates of their
products from concurrent lookups. The list equals a sequential reference: the dated cards of the
New grid, then the cards of the Upcoming grid, the first card of an id first.

## Main definitions

* `Lookups.ownDate` — the normalised date of a product's own detail.
* `Lookups.datedReleased`, `datedUpcoming`, `releaseReference` — the sequential reference.

## Main results

* `Lookups.releaseGames_of_grids` — the release list of two grids is the reference.
* `Lookups.releaseGames_sequential` — with what follows for overlapping grids, failed grids,
  failed details, and the completion order.
-/

namespace PsStore.Lookups

variable (u : Lookups)

/-! ## The sequential reference -/

/-- The normalised date of the detail of the product at a place of the list: empty where the
detail has no date, where its lookup failed, and for an id that is no product id. -/
def ownDate (i : ℕ) (id : GameId) : String :=
  match id.productId with
  | none => ""
  | some p =>
    match u.detail i p with
    | .ok detail => toIsoOrDefault detail.releaseDate
    | .error _ => ""

/-- The product cards of the New grid with their own dates. -/
def ownDated (released : List Concept) : List Game :=
  (mapConceptsToGames released (u.clock .releaseGrids)).mapIdx fun i card =>
    { card with date := u.ownDate i card.id }

/-- Those of them whose date parses. -/
def datedReleased (released : List Concept) : List Game :=
  (u.ownDated released).filter fun card => (parseDateMs card.date).isSome

/-- The cards of the Upcoming grid, after `count` cards of the New grid: a product card has its
own date, a concept card keeps the data of the grid. -/
def datedUpcoming (count : ℕ) (upcoming : List Concept) : List Game :=
  (mapUpcomingConceptsToGames upcoming (u.clock .releaseGrids)).mapIdx fun i card =>
    if card.idKind = .product then { card with date := u.ownDate (count + i) card.id } else card

/-- The release list, one card after the other. -/
def releaseReference (released upcoming : List Concept) : List Game :=
  firstWins Game.id
    (u.datedReleased released ++ u.datedUpcoming (u.ownDated released).length upcoming)

/-! ## The release list of two grids -/

/-- The date of a card's meta is its own date. -/
lemma date_cardMeta (i : ℕ) (id : GameId) : (u.cardMeta i id).date = u.ownDate i id := by
  unfold cardMeta cardDetail ownDate lenientDetail
  cases id.productId with
  | none => rfl
  | some p =>
    dsimp only
    cases u.detail i p <;> rfl

/-- Enriching a card gives it its own date. -/
lemma enrichDate_eq (i : ℕ) (card : Game) :
    u.enrichDate i card = { card with date := u.ownDate i card.id } := by
  unfold enrichDate
  rw [date_cardMeta]

/-- A released card is enriched. -/
lemma enrichReleaseCard_released (i : ℕ) (card : Game) :
    u.enrichReleaseCard i (true, card) = { card with date := u.ownDate i card.id } :=
  u.enrichDate_eq i card

/-- An upcoming card is enriched where it is a product card. -/
lemma enrichReleaseCard_upcoming (i : ℕ) (card : Game) :
    u.enrichReleaseCard i (false, card) =
      if card.idKind = .product then { card with date := u.ownDate i card.id } else card := by
  unfold enrichReleaseCard
  simp only [Bool.false_or, beq_iff_eq, enrichDate_eq]

/-- Looking up both grids in one batch looks up the New grid first. -/
lemma mapIdx_release_cards (released upcoming : List Game) :
    (released.map (true, ·) ++ upcoming.map (false, ·)).mapIdx u.enrichReleaseCard =
      (released.mapIdx fun i card => { card with date := u.ownDate i card.id }) ++
      upcoming.mapIdx fun i card =>
        if card.idKind = .product then
          { card with date := u.ownDate (released.length + i) card.id }
        else card := by
  rw [List.mapIdx_append]
  congr 1
  · refine List.ext_getElem? fun i => ?_
    simp only [List.getElem?_mapIdx, List.getElem?_map, Option.map_map]
    congr 1
    funext card
    exact u.enrichReleaseCard_released i card
  · refine List.ext_getElem? fun i => ?_
    simp only [List.getElem?_mapIdx, List.getElem?_map, Option.map_map, List.length_map]
    congr 1
    funext card
    rw [Nat.add_comm released.length i]
    exact u.enrichReleaseCard_upcoming (i + released.length) card

/-- **The release list of two grids is the reference**, whatever the order in which the lookups
end. -/
theorem releaseGames_of_grids {released upcoming : List Concept}
    (hnew : u.concepts .new = .ok released) (hupcoming : u.concepts .upcoming = .ok upcoming) :
    u.releaseGames = .ok (u.releaseReference released upcoming) := by
  have hlimit : 1 ≤ listDetailConcurrency := by decide
  unfold releaseGames
  rw [hnew, hupcoming]
  simp only [tryJoin, bind, Except.bind, inOrderBounded_eq _ _ hlimit, mapIdx_release_cards]
  rw [List.take_left' (by simp), List.drop_left' (by simp)]
  simp only [releaseReference, ownDated, List.length_mapIdx]
  rfl

/-- A failure of either grid fails the release list, with a failure of one of the grids. -/
lemma releaseGames_of_failure
    (h : (∃ e, u.concepts .new = .error e) ∨ ∃ e, u.concepts .upcoming = .error e) :
    ∃ e, u.releaseGames = .error e ∧
      (u.concepts .new = .error e ∨ u.concepts .upcoming = .error e) := by
  unfold releaseGames
  cases hnew : u.concepts .new with
  | error e =>
    cases hupcoming : u.concepts .upcoming with
    | ok upcoming => exact ⟨e, rfl, Or.inl rfl⟩
    | error e' =>
      cases hfirst : u.upcomingFailsFirst with
      | true => exact ⟨e', rfl, Or.inr rfl⟩
      | false => exact ⟨e, rfl, Or.inl rfl⟩
  | ok released =>
    cases hupcoming : u.concepts .upcoming with
    | error e' => exact ⟨e', rfl, Or.inr rfl⟩
    | ok upcoming =>
      rcases h with ⟨e, he⟩ | ⟨e, he⟩
      · rw [hnew] at he
        cases he
      · rw [hupcoming] at he
        cases he

/-! ## Overlapping grids and failed details -/

/-- The upcoming cards keep the ids of the grid. -/
lemma map_id_datedUpcoming (count : ℕ) (upcoming : List Concept) :
    (u.datedUpcoming count upcoming).map Game.id =
      (mapUpcomingConceptsToGames upcoming (u.clock .releaseGrids)).map Game.id := by
  unfold datedUpcoming
  refine List.ext_getElem? fun i => ?_
  simp only [List.getElem?_map, List.getElem?_mapIdx, Option.map_map]
  congr 1
  funext card
  simp only [Function.comp_apply]
  split_ifs <;> rfl

/-- No id of the Upcoming grid is lost, whatever the details are. -/
lemma exists_of_mem_upcoming (released : List Concept) {upcoming : List Concept} {card : Game}
    (hcard : card ∈ mapUpcomingConceptsToGames upcoming (u.clock .releaseGrids)) :
    ∃ kept ∈ u.releaseReference released upcoming, kept.id = card.id := by
  have hid : card.id ∈ (u.datedUpcoming (u.ownDated released).length upcoming).map Game.id := by
    rw [map_id_datedUpcoming]
    exact List.mem_map_of_mem hcard
  obtain ⟨dated, hdated, hdatedId⟩ := List.mem_map.mp hid
  obtain ⟨kept, hkept, hkeptId⟩ :=
    exists_mem_firstWins Game.id (List.mem_append_right (u.datedReleased released) hdated)
  exact ⟨kept, hkept, hkeptId.trans hdatedId⟩

/-- A product of the Upcoming grid whose released cards all lack a date is shown by its upcoming
card. -/
lemma exists_upcoming_card {released upcoming : List Concept} {p : ProductId}
    (hgrid : ∃ concept ∈ upcoming, conceptProductId concept = p.text)
    (hundated : ∀ card ∈ u.ownDated released, card.id = p.toGameId → parseDateMs card.date = none) :
    ∃ card ∈ u.releaseReference released upcoming, card.id = p.toGameId ∧
      card ∈ u.datedUpcoming (u.ownDated released).length upcoming := by
  obtain ⟨concept, hconcept, hid⟩ := hgrid
  obtain ⟨kept, hkept, hkeptId⟩ := u.exists_of_mem_upcoming released
    (mem_mapUpcomingConceptsToGames_iff.mpr ⟨concept, hconcept, p.toGameId, hid.symm, rfl⟩)
  have hkeptId' : kept.id = p.toGameId := hkeptId
  refine ⟨kept, hkept, hkeptId', ?_⟩
  rcases List.mem_append.mp ((firstWins_sublist _ _).subset hkept) with hreleased | hupcoming
  · obtain ⟨hown, hdated⟩ := List.mem_filter.mp hreleased
    rw [hundated kept hown hkeptId'] at hdated
    exact absurd hdated (by decide)
  · exact hupcoming

/-- Two ways to fill a list keep the same elements with `P`, where they agree on these. -/
lemma filter_mapIdx_congr {α β : Type} {P : β → Bool} {f g : ℕ → α → β} {l : List α}
    (hP : ∀ i a, P (f i a) = P (g i a)) (hfg : ∀ i a, P (f i a) = true → f i a = g i a) :
    (l.mapIdx f).filter P = (l.mapIdx g).filter P := by
  induction l generalizing f g with
  | nil => rfl
  | cons a l ih =>
    rw [List.mapIdx_cons, List.mapIdx_cons, List.filter_cons, List.filter_cons, hP 0 a,
      ih (fun i b => hP (i + 1) b) (fun i b => hfg (i + 1) b)]
    split_ifs with h
    · rw [hfg 0 a ((hP 0 a).trans h)]
    · rfl

variable {u}

/-- The details of one product touch no date of another id. -/
lemma ownDate_of_other {v : Lookups} {p : ProductId}
    (hother : ∀ i q, q ≠ p → v.detail i q = u.detail i q) (i : ℕ) {id : GameId}
    (hid : id ≠ p.toGameId) : v.ownDate i id = u.ownDate i id := by
  unfold ownDate
  cases hq : id.productId with
  | none => rfl
  | some q =>
    have hne : q ≠ p := by
      rintro rfl
      exact hid (GameId.productId_eq_some_iff.mp hq)
    dsimp only
    rw [hother i q hne]

/-- **A product's details change no card of another id.** -/
lemma filter_releaseReference_of_other (u v : Lookups) {p : ProductId}
    (hother : ∀ i q, q ≠ p → v.detail i q = u.detail i q)
    (hclock : v.clock .releaseGrids = u.clock .releaseGrids) (released upcoming : List Concept) :
    (v.releaseReference released upcoming).filter (fun card => card.id ≠ p.toGameId) =
      (u.releaseReference released upcoming).filter (fun card => card.id ≠ p.toGameId) := by
  have hreleased : (v.datedReleased released).filter (fun card => card.id ≠ p.toGameId) =
      (u.datedReleased released).filter (fun card => card.id ≠ p.toGameId) := by
    have hown : (v.ownDated released).filter (fun card => card.id ≠ p.toGameId) =
        (u.ownDated released).filter (fun card => card.id ≠ p.toGameId) := by
      unfold ownDated
      rw [hclock]
      refine filter_mapIdx_congr (fun _ _ => rfl) fun i card hcard => ?_
      rw [ownDate_of_other hother i (by simpa using hcard)]
    unfold datedReleased
    rw [List.filter_comm, hown, List.filter_comm]
  have hupcoming : ∀ count,
      (v.datedUpcoming count upcoming).filter (fun card => card.id ≠ p.toGameId) =
        (u.datedUpcoming count upcoming).filter (fun card => card.id ≠ p.toGameId) := by
    intro count
    unfold datedUpcoming
    rw [hclock]
    refine filter_mapIdx_congr (fun i card => ?_) fun i card hcard => ?_
    · split_ifs <;> rfl
    · split_ifs at hcard ⊢ with hkind
      · rw [ownDate_of_other hother (count + i) (by simpa using hcard)]
      · rfl
  have hcount : (v.ownDated released).length = (u.ownDated released).length := by
    simp only [ownDated, List.length_mapIdx, hclock]
  unfold releaseReference
  rw [filter_firstWins Game.id (fun id => decide (id ≠ p.toGameId)),
    filter_firstWins Game.id (fun id => decide (id ≠ p.toGameId)), List.filter_append,
    List.filter_append, hreleased, hupcoming, hcount]

variable (u)

/-- **The release list, composed sequentially.** For all grids, all detail outcomes and every order
in which the lookups end:

* the release list of two grids is the sequential reference;
* a product of both grids whose released cards lack a date is shown by its upcoming card;
* no detail outcome drops an upcoming id, and other outcomes for one product change no card of
  another id;
* a failure of either grid fails both the NEW and the UPCOMING list, with a failure of a grid;
* the completion order of the lookups does not show.

**Proof sketch.** `releaseGames_of_grids` computes the lookups in item order whatever their order of
completion is, since each result is put at its place. A dated released card wins over the upcoming
card of its id, and first wins keeps one card of every id, so an upcoming id is kept by one card or
the other. The details of one product are read for the cards of that product only. -/
theorem releaseGames_sequential :
    (∀ released upcoming, u.concepts .new = .ok released → u.concepts .upcoming = .ok upcoming →
      u.releaseGames = .ok (u.releaseReference released upcoming) ∧
      (∀ p : ProductId, (∃ concept ∈ upcoming, conceptProductId concept = p.text) →
        (∀ card ∈ u.ownDated released, card.id = p.toGameId → parseDateMs card.date = none) →
        ∃ card ∈ u.releaseReference released upcoming, card.id = p.toGameId ∧
          card ∈ u.datedUpcoming (u.ownDated released).length upcoming) ∧
      (∀ card ∈ mapUpcomingConceptsToGames upcoming (u.clock .releaseGrids),
        ∃ kept ∈ u.releaseReference released upcoming, kept.id = card.id) ∧
      (∀ (p : ProductId) (detail : ℕ → ProductId → Except UpstreamError ProductDetail),
        (∀ i q, q ≠ p → detail i q = u.detail i q) →
        ∃ games, { u with detail }.releaseGames = .ok games ∧
          games.filter (fun card => card.id ≠ p.toGameId) =
            (u.releaseReference released upcoming).filter (fun card => card.id ≠ p.toGameId))) ∧
    (((∃ e, u.concepts .new = .error e) ∨ ∃ e, u.concepts .upcoming = .error e) →
      ∀ window page, ∃ e, u.releaseListing window page = .error e ∧
        (u.concepts .new = .error e ∨ u.concepts .upcoming = .error e)) ∧
    ∀ completion, { u with completion }.releaseGames = u.releaseGames := by
  refine ⟨?_, ?_, ?_⟩
  · intro released upcoming hnew hupcoming
    refine ⟨u.releaseGames_of_grids hnew hupcoming, ?_, ?_, ?_⟩
    · intro p hgrid hundated
      exact u.exists_upcoming_card hgrid hundated
    · intro card hcard
      exact u.exists_of_mem_upcoming released hcard
    · intro p detail hother
      refine ⟨_, releaseGames_of_grids { u with detail } hnew hupcoming, ?_⟩
      exact filter_releaseReference_of_other u { u with detail } hother rfl released upcoming
  · intro hfailure window page
    obtain ⟨e, he, hgrid⟩ := u.releaseGames_of_failure hfailure
    refine ⟨e, ?_, hgrid⟩
    unfold releaseListing
    rw [he]
    rfl
  · intro completion
    cases hnew : u.concepts .new with
    | ok released =>
      cases hupcoming : u.concepts .upcoming with
      | ok upcoming =>
        rw [u.releaseGames_of_grids hnew hupcoming,
          releaseGames_of_grids { u with completion } hnew hupcoming]
        rfl
      | error e =>
        unfold releaseGames
        rw [hnew, hupcoming]
        rfl
    | error e =>
      unfold releaseGames
      rw [hnew]
      cases u.concepts .upcoming <;> rfl

end PsStore.Lookups
