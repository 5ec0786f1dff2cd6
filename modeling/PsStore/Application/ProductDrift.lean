import PsStore.Application.StoreAnswers

set_option relaxedAutoImplicit false
set_option autoImplicit false

/-!
# Missing games and drifted products

What a missing game page proves about Sony's product answer. The documented rule is that only a
valid id that Sony proves is not a PS5 game is not found; the decode of the product node maps a node
with one field of the wrong type to the empty detail, and the game page reads that as a miss.

## Main definitions

* `ProvesMissing` — the answer has no product, or names a scope that is not a PS5 full game.
* `ReadsAsMeant` — the answers for which a missing game page is a proof.

## Main results

* `StoreAnswers.notFound_iff` — when the game page of a product that no list holds is missing.
* `StoreAnswers.notFound_proves_iff` — the answers for which a missing game page proves that the
  product is missing or no PS5 game.
-/

namespace PsStore

open Json

/-- The answer has no product, or its product names its platforms and its classification and is
not a PS5 full game. -/
def ProvesMissing (json : Value) : Prop :=
  NoProduct json ∨ ∃ platforms classification, NamesScope json platforms classification ∧
    isPs5Game platforms (some classification) = false

/-- The answer has no product, or its product names its platforms and its classification and,
where these make it a PS5 full game, every field of it has its declared type. -/
def ReadsAsMeant (json : Value) : Prop :=
  NoProduct json ∨ ∃ platforms classification, NamesScope json platforms classification ∧
    (isPs5Game platforms (some classification) = true → WellTyped json)

namespace StoreAnswers

variable {answers : StoreAnswers} {contract : SonyContract} {p : ProductId} {json : Value}

/-- **When the game page is missing.** A product that no list holds is not found exactly where its
detail does not prove a PS5 game.

**Proof sketch.** The id is one of a product and no list holds it, so the page is missing exactly
where the detail of the answer is that of no PS5 game (`Lookups.gameById_eq_notFound_iff`), which is
read off the JSON by `isPs5Game_extractProductDetail_iff`. -/
theorem notFound_iff (hanswer : answers.strictDetail p = .ok json)
    (haccepted : graphqlChecked contract.productOperation (.ok json) = .ok json)
    (hmissed : (answers.lookups contract).MissedByAll p.toGameId) :
    (answers.lookups contract).gameById p.toGameId = .error (.notFound p.toGameId) ↔
      ¬∃ platforms classification, NamesScope json platforms classification ∧
        isPs5Game platforms (some classification) = true ∧ WellTyped json := by
  have hdetail := strictDetail_eq hanswer haccepted
  rw [← isPs5Game_extractProductDetail_iff, Bool.not_eq_true,
    Lookups.gameById_eq_notFound_iff]
  constructor
  · intro h
    obtain ⟨-, -, hnone | ⟨q, detail, hq, hstrict, hps5⟩⟩ := h
    · rw [ProductId.productId_toGameId] at hnone
      cases hnone
    · rw [ProductId.productId_toGameId] at hq
      cases hq
      rw [hdetail] at hstrict
      cases hstrict
      exact hps5
  · intro hps5
    exact ⟨rfl, hmissed, Or.inr ⟨p, _, ProductId.productId_toGameId p, hdetail, hps5⟩⟩

/-- **A missing game page is a proof exactly for the answers that read as meant.** For every
accepted answer to the product request of an id that no list holds: that a missing game page proves
the product missing or no PS5 full game holds exactly where the answer has no product, or its
product names its platforms and its classification and, where these make it a PS5 full game, has no
other field of the wrong type.

**Proof sketch.** The game page of a missed id is missing exactly where no well-typed product names
a PS5 full game (`notFound_iff`). Such an answer proves nothing only where its product names one in
spite of that, or does not name its platforms and its classification. -/
theorem notFound_proves_iff (answers : StoreAnswers) (contract : SonyContract) (p : ProductId)
    (json : Value) (hanswer : answers.strictDetail p = .ok json)
    (haccepted : graphqlChecked contract.productOperation (.ok json) = .ok json)
    (hmissed : (answers.lookups contract).MissedByAll p.toGameId) :
    ((answers.lookups contract).gameById p.toGameId = .error (.notFound p.toGameId) →
      ProvesMissing json) ↔ ReadsAsMeant json := by
  rw [notFound_iff hanswer haccepted hmissed]
  constructor
  · intro h
    by_cases hgame : ∃ platforms classification, NamesScope json platforms classification ∧
        isPs5Game platforms (some classification) = true ∧ WellTyped json
    · obtain ⟨platforms, classification, hscope, -, htyped⟩ := hgame
      exact Or.inr ⟨platforms, classification, hscope, fun _ => htyped⟩
    · rcases h hgame with hnone | ⟨platforms, classification, hscope, hps5⟩
      · exact Or.inl hnone
      · refine Or.inr ⟨platforms, classification, hscope, fun hps5' => ?_⟩
        rw [hps5] at hps5'
        cases hps5'
  · rintro (hnone | ⟨platforms, classification, hscope, htyped⟩) hgame
    · exact Or.inl hnone
    · refine Or.inr ⟨platforms, classification, hscope, ?_⟩
      by_contra hps5
      rw [Bool.not_eq_false] at hps5
      exact hgame ⟨platforms, classification, hscope, hps5, htyped hps5⟩

end StoreAnswers

/-- The answer with a full game for one platform and with a release date. -/
def productBody (platform : String) (releaseDate : Value) : Value :=
  dataBody "productRetrieve" (.object [("name", .string "X"),
    ("platforms", .array [.string platform]),
    ("storeDisplayClassification", .string "FULL_GAME"), ("releaseDate", releaseDate)])

/-- A store with empty lists that answers every product request with one body. -/
def StoreAnswers.ofProduct (json : Value) : StoreAnswers :=
  { StoreAnswers.empty with strictDetail := fun _ => .ok json }

/-- The lists of a store with empty lists miss every id. -/
lemma StoreAnswers.missedByAll_ofProduct (json : Value) (id : GameId) :
    ((StoreAnswers.ofProduct json).lookups sampleContract).MissedByAll id := by
  have hlists : ((StoreAnswers.ofProduct json).lookups sampleContract).storeLists =
      [.ok [], .ok [], .ok [], .ok []] := rfl
  intro cards hcards
  rw [hlists] at hcards
  have hempty : cards = .ok [] := by simpa using hcards
  exact ⟨[], hempty, by simp⟩

/-- The scope that the sample product names. -/
lemma namesScope_productBody (platform : String) (releaseDate : Value) :
    NamesScope (productBody platform releaseDate) [platform] "FULL_GAME" :=
  ⟨_, rfl, rfl, by simp, rfl, by simp⟩

/-- A full game that is not for the PS5 is not found, and the answer proves it. -/
theorem StoreAnswers.notFound_proves_iff_ps4 :
    ((StoreAnswers.ofProduct (productBody "PS4" (.string "2020-01-01"))).lookups
        sampleContract).gameById sampleProduct.toGameId =
      .error (.notFound sampleProduct.toGameId) ∧
    ProvesMissing (productBody "PS4" (.string "2020-01-01")) := by
  have hmissing : ((StoreAnswers.ofProduct (productBody "PS4" (.string "2020-01-01"))).lookups
      sampleContract).gameById sampleProduct.toGameId =
      .error (.notFound sampleProduct.toGameId) := by
    decide
  have hmeant : ReadsAsMeant (productBody "PS4" (.string "2020-01-01")) := by
    refine Or.inr ⟨["PS4"], "FULL_GAME", namesScope_productBody _ _, fun hps5 => ?_⟩
    cases hps5
  refine ⟨hmissing, ?_⟩
  exact (StoreAnswers.notFound_proves_iff _ sampleContract sampleProduct _ rfl rfl
    (StoreAnswers.missedByAll_ofProduct _ _)).mpr hmeant hmissing

/-- **A drifted PS5 game reads as missing.** An accepted answer with a PS5 full game whose release
date is a number: no list holds the game, the answer does not prove it missing, and the game page is
not found. -/
theorem notFound_of_drifted :
    graphqlChecked sampleContract.productOperation (.ok (productBody "PS5" (.number (.posInt 5)))) =
        .ok (productBody "PS5" (.number (.posInt 5))) ∧
      ((StoreAnswers.ofProduct (productBody "PS5" (.number (.posInt 5)))).lookups
        sampleContract).MissedByAll sampleProduct.toGameId ∧
      NamesScope (productBody "PS5" (.number (.posInt 5))) ["PS5"] "FULL_GAME" ∧
      isPs5Game ["PS5"] (some "FULL_GAME") = true ∧
      ¬(((StoreAnswers.ofProduct (productBody "PS5" (.number (.posInt 5)))).lookups
          sampleContract).gameById sampleProduct.toGameId =
        .error (.notFound sampleProduct.toGameId) →
          ProvesMissing (productBody "PS5" (.number (.posInt 5)))) := by
  refine ⟨rfl, StoreAnswers.missedByAll_ofProduct _ _, namesScope_productBody _ _, by decide, ?_⟩
  intro hproves
  rcases hproves (by decide) with hnone | ⟨platforms, classification, hscope, hps5⟩
  · have hnull := hnone _ rfl
    cases hnull
  · obtain ⟨rfl, rfl⟩ := hscope.unique (namesScope_productBody _ _)
    cases hps5

end PsStore
