import PsStore.Domain.CriticMatch
import PsStore.Lib.JsonText
import PsStore.Sources.Sony.GenreMenu

set_option relaxedAutoImplicit false
set_option autoImplicit false

/-!
# The payloads of the public API

The JSON of the game cards and the list payloads of `domain/game.rs`: the names and the order of the
fields, and the fields that are `null` or absent.

## Main definitions

* `GameDetail` — the game page payload.
* `Game.toJson`, `PageResult.toJson`, `GameDetail.toJson`, `genreListToJson` — the payloads as JSON.

## Main results

* `PageResult.plain_toJson`, `GameDetail.plain_toJson`, `plain_genreListToJson` — a payload is read
  back from its text.
-/

namespace PsStore

open Json

/-- The game page payload: a game and an optional critic score. -/
structure GameDetail where
  game : Game
  criticScore : Option CriticScore
deriving DecidableEq

/-! ## JSON -/

/-- The kind of an id as text. -/
def IdKind.asStr : IdKind → String
  | .product => "product"
  | .concept => "concept"

/-- A value, or `null`. -/
def nullOr {α : Type} (toJson : α → Value) (value : Option α) : Value :=
  match value with
  | none => .null
  | some a => toJson a

/-- A list of texts. -/
def textsToJson (texts : List String) : Value := .array (texts.map .string)

/-- A natural number. -/
def natToJson (n : ℕ) : Value := .number (.posInt n)

/-- The PS Plus offer: its kind, and the price of a price. -/
def PlusOffer.toJson : PlusOffer → Value
  | .price text => .object [("kind", .string "price"), ("price", .string text)]
  | .included => .object [("kind", .string "included")]

/-- The fields of a card, in the order of the contract. -/
def Game.fields (game : Game) : List (String × Value) :=
  [("id", .string game.id.text), ("name", .string game.name), ("date", .string game.date),
    ("url", .string game.url), ("price", .string game.price),
    ("originalPrice", .string game.originalPrice), ("discountText", .string game.discountText),
    ("discountDate", .string game.discountDate), ("screenshots", textsToJson game.screenshots),
    ("videos", textsToJson game.videos), ("genres", textsToJson game.genres),
    ("description", .string game.description), ("studio", .string game.studio),
    ("preOrder", .bool game.preOrder), ("plusUpsellText", nullOr .string game.plusUpsellText),
    ("plusOffer", nullOr PlusOffer.toJson game.plusOffer),
    ("idKind", .string game.idKind.asStr)]

/-- A card. -/
def Game.toJson (game : Game) : Value := .object game.fields

/-- A page. The offset of the last page is `null`. -/
def PageResult.toJson (page : PageResult) : Value :=
  .object [("games", .array (page.games.map Game.toJson)),
    ("totalCount", natToJson page.totalCount), ("nextOffset", nullOr natToJson page.nextOffset)]

/-- A game page. Without a trusted score the key is absent. -/
def GameDetail.toJson (detail : GameDetail) : Value :=
  .object (detail.game.fields ++ detail.criticScore.toList.map fun score =>
    ("criticScore", natToJson score.value.toNat))

/-- A genre. -/
def Genre.toJson (genre : Genre) : Value :=
  .object [("key", .string genre.key), ("name", .string genre.name)]

/-- The genre menu. -/
def genreListToJson (genres : List Genre) : Value :=
  .object [("genres", .array (genres.map Genre.toJson))]

/-! ## Plain values -/

/-- A natural number is plain. -/
lemma plain_natToJson (n : ℕ) : Plain (natToJson n) := trivial

/-- A text is plain. -/
lemma plain_string (text : String) : Plain (.string text) := trivial

/-- A list of texts is plain. -/
lemma plain_textsToJson (texts : List String) : Plain (textsToJson texts) := by
  show PlainItems _
  rw [plainItems_iff]
  intro item hitem
  obtain ⟨text, -, rfl⟩ := List.mem_map.mp hitem
  exact trivial

/-- An optional plain value is plain. -/
lemma plain_nullOr {α : Type} {toJson : α → Value} (h : ∀ a, Plain (toJson a))
    (value : Option α) : Plain (nullOr toJson value) := by
  cases value with
  | none => exact trivial
  | some a => exact h a

/-- An offer is plain. -/
lemma PlusOffer.plain_toJson (offer : PlusOffer) : Plain offer.toJson := by
  cases offer with
  | price text => exact ⟨by simp, trivial, trivial, trivial⟩
  | included => exact ⟨by simp, trivial, trivial⟩

/-- The keys of a card, in their order. -/
lemma Game.keys_fields (game : Game) : game.fields.map Prod.fst =
    ["id", "name", "date", "url", "price", "originalPrice", "discountText", "discountDate",
      "screenshots", "videos", "genres", "description", "studio", "preOrder", "plusUpsellText",
      "plusOffer", "idKind"] := rfl

/-- The fields of a card are plain. -/
lemma Game.plainFields (game : Game) : PlainFields game.fields := by
  rw [plainFields_iff]
  unfold Game.fields
  simp only [List.forall_mem_cons, List.not_mem_nil, false_implies, implies_true, and_true]
  exact ⟨trivial, trivial, trivial, trivial, trivial, trivial, trivial, trivial,
    plain_textsToJson _, plain_textsToJson _, plain_textsToJson _, trivial, trivial, trivial,
    plain_nullOr plain_string _, plain_nullOr PlusOffer.plain_toJson _, trivial⟩

/-- A card is plain. -/
lemma Game.plain_toJson (game : Game) : Plain game.toJson := by
  refine ⟨?_, game.plainFields⟩
  rw [game.keys_fields]
  decide

/-- **A page is plain.** -/
lemma PageResult.plain_toJson (page : PageResult) : Plain page.toJson := by
  refine ⟨by simp, ?_, trivial, plain_nullOr plain_natToJson _, trivial⟩
  show PlainItems _
  rw [plainItems_iff]
  intro item hitem
  obtain ⟨game, -, rfl⟩ := List.mem_map.mp hitem
  exact game.plain_toJson

/-- **A game page is plain.** -/
lemma GameDetail.plain_toJson (detail : GameDetail) : Plain detail.toJson := by
  constructor
  · rw [List.map_append, detail.game.keys_fields]
    cases detail.criticScore <;> simp
  · rw [plainFields_iff]
    intro field hfield
    rcases List.mem_append.mp hfield with hgame | hscore
    · exact plainFields_iff.mp detail.game.plainFields field hgame
    · obtain ⟨score, -, rfl⟩ := List.mem_map.mp hscore
      exact trivial

/-- **A genre menu is plain.** -/
lemma plain_genreListToJson (genres : List Genre) : Plain (genreListToJson genres) := by
  refine ⟨by simp, ?_, trivial⟩
  show PlainItems _
  rw [plainItems_iff]
  intro item hitem
  obtain ⟨genre, -, rfl⟩ := List.mem_map.mp hitem
  exact ⟨by simp, trivial, trivial, trivial⟩

end PsStore
