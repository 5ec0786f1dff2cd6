import Mathlib.Data.List.Basic
import Mathlib.Logic.Basic
import PsStore.Domain.Payload
import PsStore.Http.Problem

set_option relaxedAutoImplicit false
set_option autoImplicit false

/-!
# The schemas of the client

The schemas of `generated/zod.gen.ts` that validate the answers of the API. A schema accepts a value
or not; here it also says what a value that it accepts holds under the keys that it names. An
integer is one that a JavaScript number holds exactly, however it is written: 1.0 and 1e2 are
integers.

## Main definitions

* `Schema` — the values that are valid, and what they hold.
* `safeInteger` — the integers of JavaScript.
* `zPageResult`, `zGameDetail`, `zGenreList`, `zProblem` — the schemas of the answers.

## Main results

* `zPageResult_toJson` — which pages of the server the client reads, and as what.
* `zGameDetail_toJson`, `zGenreList_toJson`, `zProblem_toJson` — the same for the other answers.
-/

namespace PsStore

open Json

namespace Client

/-- A schema: what a JSON value holds, or `none` where it is not valid. -/
abbrev Schema (α : Type) := Value → Option α

variable {α : Type}

/-! ## The parts of a schema -/

/-- The largest integer that a JavaScript number holds exactly. -/
def maxSafeInteger : ℕ := 2 ^ 53 - 1

/-- `z.string()`. -/
def zString : Schema String := Value.asString

/-- `z.boolean()`. -/
def zBoolean : Schema Bool := Value.asBool

/-- `z.void()`: no JSON value is `undefined`. -/
def zVoid : Schema Unit := fun _ => none

/-- The integer that a number is in JavaScript, where `Number.isSafeInteger` holds of it. An integer
beyond this range is rounded to another one beyond it. -/
def safeInteger (n : Number) : Option ℤ :=
  let integer : Option ℤ :=
    match n with
    | .posInt n => some n
    | .negInt n => some (-n)
    | .float integer => integer
  integer.filter fun n => decide (n.natAbs ≤ maxSafeInteger)

/-- `z.int().gte(0)`. -/
def zInt : Schema ℕ
  | .number n => (safeInteger n).bind Int.toNat?
  | _ => none

/-- `z.int().gte(0).max(max)`. -/
def zIntMax (max : ℕ) : Schema ℕ := fun value => (zInt value).filter (· ≤ max)

/-- `z.array(schema)`. -/
def zArray (schema : Schema α) : Schema (List α)
  | .array items => items.mapM schema
  | _ => none

/-- `schema.nullable()`. -/
def zNullable (schema : Schema α) : Schema (Option α)
  | .null => some none
  | value => (schema value).map some

/-- A key that has a value. -/
def required (obj : Object) (key : String) (schema : Schema α) : Option α :=
  (obj.get key).bind schema

/-- A key that may be absent. -/
def optional (obj : Object) (key : String) (schema : Schema α) : Option (Option α) :=
  match obj.get key with
  | none => some none
  | some value => (schema value).map some

/-! ## The answers -/

/-- `z.string().min(1)`. -/
def zGameId : Schema GameId := fun value => do
  let text ← zString value
  if h : text ≠ "" then some ⟨text, h⟩ else none

/-- `zIdKind`. -/
def zIdKind : Schema IdKind := fun value => do
  let text ← zString value
  [IdKind.product, .concept].find? fun kind => kind.asStr == text

/-- `zPlusOffer`: the first shape that fits. -/
def zPlusOffer : Schema PlusOffer := fun value => do
  let obj ← value.asObject
  match required obj "price" zString, required obj "kind" zString with
  | some price, some "price" => some (.price price)
  | _, some "included" => some .included
  | _, _ => none

/-- The fields of a card. -/
def zGameFields (obj : Object) : Option Game := do
  let id ← required obj "id" zGameId
  let name ← required obj "name" zString
  let date ← required obj "date" zString
  let url ← required obj "url" zString
  let price ← required obj "price" zString
  let originalPrice ← required obj "originalPrice" zString
  let discountText ← required obj "discountText" zString
  let discountDate ← required obj "discountDate" zString
  let screenshots ← required obj "screenshots" (zArray zString)
  let videos ← required obj "videos" (zArray zString)
  let genres ← required obj "genres" (zArray zString)
  let description ← required obj "description" zString
  let studio ← required obj "studio" zString
  let preOrder ← required obj "preOrder" zBoolean
  let plusUpsellText ← required obj "plusUpsellText" (zNullable zString)
  let plusOffer ← required obj "plusOffer" (zNullable zPlusOffer)
  let idKind ← required obj "idKind" zIdKind
  some ⟨id, name, date, url, price, originalPrice, discountText, discountDate, screenshots, videos,
    genres, description, studio, preOrder, plusUpsellText, plusOffer, idKind⟩

/-- `zGame`. -/
def zGame : Schema Game := fun value => value.asObject.bind zGameFields

/-- A critic score: `z.int().gte(0).lte(100)`. -/
def zCriticScore : Schema CriticScore := fun value => do
  let score ← zIntMax 100 value
  CriticScore.new (UInt8.ofNat score)

/-- `zGameDetail`. -/
def zGameDetail : Schema GameDetail := fun value => do
  let obj ← value.asObject
  let game ← zGameFields obj
  let criticScore ← optional obj "criticScore" zCriticScore
  some { game := game, criticScore }

/-- `zPageResult`. -/
def zPageResult : Schema PageResult := fun value => do
  let obj ← value.asObject
  let games ← required obj "games" (zArray zGame)
  let totalCount ← required obj "totalCount" zInt
  let nextOffset ← required obj "nextOffset" (zNullable zInt)
  some { games := games, totalCount, nextOffset }

/-- `zGenre`: the key has the format of a genre key. -/
def zGenre : Schema Genre := fun value => do
  let obj ← value.asObject
  let key ← (required obj "key" zString).filter isGenreKey
  let name ← required obj "name" zString
  some { key := key, name }

/-- `zGenreList`. -/
def zGenreList : Schema (List Genre) := fun value => do
  let obj ← value.asObject
  required obj "genres" (zArray zGenre)

/-- `zProblemCode`. -/
def zProblemCode : Schema ProblemCode := fun value => do
  let text ← zString value
  ProblemCode.all.find? fun code => code.asStr == text

/-- The largest `int32`. -/
def maxInt32 : ℕ := 2147483647

/-- `zProblem`. -/
def zProblem : Schema Problem := fun value => do
  let obj ← value.asObject
  let typeUri ← required obj "type" zString
  let title ← required obj "title" zString
  let status ← required obj "status" (zIntMax maxInt32)
  let detail ← required obj "detail" zString
  let code ← required obj "code" zProblemCode
  let retryAfterSeconds ← optional obj "retryAfterSeconds" (zIntMax maxInt32)
  some ⟨typeUri, title, status, detail, code, retryAfterSeconds⟩

/-! ## What the parts read -/

/-- A text is read back. -/
@[simp] lemma zString_string (text : String) : zString (.string text) = some text := rfl

/-- A truth value is read back. -/
@[simp] lemma zBoolean_bool (b : Bool) : zBoolean (.bool b) = some b := rfl

/-- `null` is read back. -/
@[simp] lemma zNullable_null (schema : Schema α) : zNullable schema .null = some none := rfl

/-- A list is read where each element is. -/
lemma mapM_eq_some_iff {β : Type} {f : α → Option β} {as : List α} {bs : List β} :
    as.mapM f = some bs ↔ as.map f = bs.map some := by
  induction as generalizing bs with
  | nil => cases bs <;> simp
  | cons a as ih =>
    rw [List.mapM_cons, List.map_cons]
    cases h : f a with
    | none => cases bs <;> simp
    | some b =>
      cases bs with
      | nil => cases as.mapM f <;> simp
      | cons b' bs =>
        rw [List.map_cons, List.cons.injEq, Option.some.injEq, ← ih]
        cases as.mapM f <;> simp

/-- The elements that are written are read back. -/
lemma zArray_map {schema : Schema α} {toJson : α → Value} {as : List α}
    (h : ∀ a ∈ as, schema (toJson a) = some a) :
    zArray schema (.array (as.map toJson)) = some as := by
  show (as.map toJson).mapM schema = some as
  rw [mapM_eq_some_iff, List.map_map]
  exact List.map_congr_left h

/-- The texts that are written are read back. -/
@[simp] lemma zArray_textsToJson (texts : List String) :
    zArray zString (textsToJson texts) = some texts :=
  zArray_map fun _ _ => rfl

/-- An optional value that is written is read back. -/
lemma zNullable_nullOr {schema : Schema α} {toJson : α → Value} {value : Option α}
    (hnull : ∀ a, toJson a ≠ .null) :
    zNullable schema (nullOr toJson value) =
      match value with
      | none => some none
      | some a => (schema (toJson a)).map some := by
  cases value with
  | none => rfl
  | some a =>
    show zNullable schema (toJson a) = _
    unfold zNullable
    split
    · next hvalue => exact absurd hvalue (hnull a)
    · rfl

/-- A natural number is read where it is exact. -/
lemma zInt_natToJson (n : ℕ) :
    zInt (natToJson n) = if n ≤ maxSafeInteger then some n else none := by
  show ((some (n : ℤ)).filter fun n => decide (n.natAbs ≤ maxSafeInteger)).bind Int.toNat? = _
  rw [Option.filter_some, Int.natAbs_natCast]
  by_cases hsafe : n ≤ maxSafeInteger
  · rw [if_pos (decide_eq_true hsafe), if_pos hsafe]
    rfl
  · rw [if_neg (by simpa using hsafe), if_neg hsafe]
    rfl

/-- A fraction of zero and an exponent do not matter: 1.0, 1e2 and -0 are read. -/
example : zInt (.number (.float (some 100))) = some 100 ∧ zInt (.number (.negInt 0)) = some 0 ∧
    zInt (.number (.float none)) = none := by decide

/-! ## What the client reads of the server -/

/-- The kind of an id is read back. -/
@[simp] lemma zIdKind_asStr (kind : IdKind) : zIdKind (.string kind.asStr) = some kind := by
  cases kind <;> decide

/-- An offer is read back. -/
lemma zPlusOffer_toJson (offer : PlusOffer) : zPlusOffer offer.toJson = some offer := by
  cases offer <;> rfl

/-- An id is read back. -/
@[simp] lemma zGameId_text (id : GameId) : zGameId (.string id.text) = some id := by
  show (if h : id.text ≠ "" then some (GameId.mk id.text h) else none) = some id
  rw [dif_pos id.nonempty]

/-- The fields of a card are read back, whatever follows them. -/
lemma zGameFields_append (game : Game) (more : List (String × Value)) :
    zGameFields (game.fields ++ more) = some game := by
  have hupsell : zNullable zString (nullOr .string game.plusUpsellText) =
      some game.plusUpsellText := by
    have hnull : ∀ text : String, Value.string text ≠ .null := nofun
    rw [zNullable_nullOr hnull]
    cases game.plusUpsellText <;> rfl
  have hoffer : zNullable zPlusOffer (nullOr PlusOffer.toJson game.plusOffer) =
      some game.plusOffer := by
    have hnull : ∀ offer : PlusOffer, offer.toJson ≠ .null := by
      intro offer h
      cases offer <;> cases h
    rw [zNullable_nullOr hnull]
    cases game.plusOffer with
    | none => rfl
    | some offer => simp [zPlusOffer_toJson]
  simp [zGameFields, required, Game.fields, Object.get, List.lookup_cons, hupsell, hoffer]

/-- **A card is read back.** -/
lemma zGame_toJson (game : Game) : zGame game.toJson = some game := by
  have hfields := zGameFields_append game []
  rwa [List.append_nil] at hfields

/-- A score is read back. -/
lemma zCriticScore_natToJson (score : CriticScore) :
    zCriticScore (natToJson score.value.toNat) = some score := by
  have hle : score.value.toNat ≤ 100 := score.le_hundred
  have hsafe : score.value.toNat ≤ maxSafeInteger := hle.trans (by decide)
  unfold zCriticScore zIntMax
  have hnew : CriticScore.new (UInt8.ofNat score.value.toNat) = some score := by
    unfold CriticScore.new
    rw [UInt8.ofNat_toNat, dif_pos score.le_hundred]
  have hfilter : (some score.value.toNat).filter (· ≤ 100) = some score.value.toNat := by
    simp [Option.filter, hle]
  rw [zInt_natToJson, if_pos hsafe, hfilter, Option.bind_eq_bind, Option.bind_some, hnew]

/-- **A game page is read back.** -/
theorem zGameDetail_toJson (detail : GameDetail) :
    zGameDetail detail.toJson = some detail := by
  obtain ⟨game, criticScore⟩ := detail
  unfold zGameDetail GameDetail.toJson
  show (zGameFields _).bind _ = _
  rw [zGameFields_append, Option.bind_some]
  cases criticScore with
  | none => simp [optional, Game.fields, Object.get, List.lookup_cons]
  | some score =>
    simp [optional, Game.fields, Object.get, List.lookup_cons, zCriticScore_natToJson]

/-- An element that is not read spoils the list. -/
lemma zArray_map_eq_none {schema : Schema α} {toJson : α → Value} {as : List α} {a : α}
    (ha : a ∈ as) (h : schema (toJson a) = none) :
    zArray schema (.array (as.map toJson)) = none := by
  show (as.map toJson).mapM schema = none
  cases hread : (as.map toJson).mapM schema with
  | none => rfl
  | some bs =>
    rw [mapM_eq_some_iff] at hread
    have hmem : schema (toJson a) ∈ bs.map some := by
      rw [← hread]
      exact List.mem_map_of_mem (List.mem_map_of_mem ha)
    rw [h] at hmem
    obtain ⟨b, -, ⟨⟩⟩ := List.mem_map.mp hmem

/-- **A page is read back** exactly where its numbers are exact integers of JavaScript. -/
theorem zPageResult_toJson (page : PageResult) :
    zPageResult page.toJson =
      if page.totalCount ≤ maxSafeInteger ∧ ∀ n ∈ page.nextOffset, n ≤ maxSafeInteger then
        some page
      else none := by
  obtain ⟨games, totalCount, nextOffset⟩ := page
  have hgames : zArray zGame (.array (games.map Game.toJson)) = some games :=
    zArray_map fun game _ => zGame_toJson game
  have hnull : ∀ n, natToJson n ≠ .null := nofun
  show ((zArray zGame (.array (games.map Game.toJson))).bind fun games =>
    (zInt (natToJson totalCount)).bind fun totalCount =>
      (zNullable zInt (nullOr natToJson nextOffset)).bind fun nextOffset =>
        some (PageResult.mk games totalCount nextOffset)) = _
  rw [hgames, Option.bind_some, zInt_natToJson, zNullable_nullOr hnull]
  cases nextOffset with
  | none => by_cases htotal : totalCount ≤ maxSafeInteger <;> simp [htotal]
  | some n =>
    dsimp only
    rw [zInt_natToJson]
    by_cases htotal : totalCount ≤ maxSafeInteger <;> by_cases hn : n ≤ maxSafeInteger <;>
      simp [htotal, hn]

/-- **A genre menu is read back** exactly where every key has the format of a key. -/
theorem zGenreList_toJson (genres : List Genre) :
    zGenreList (genreListToJson genres) =
      if ∀ genre ∈ genres, isGenreKey genre.key = true then some genres else none := by
  have hgenre : ∀ genre : Genre, zGenre genre.toJson =
      if isGenreKey genre.key = true then some genre else none := by
    intro genre
    show (((some genre.key).filter isGenreKey).bind fun key =>
      (some genre.name).bind fun name => some (Genre.mk key name)) = _
    by_cases hkey : isGenreKey genre.key = true <;> simp [Option.filter, hkey]
  show zArray zGenre (.array (genres.map Genre.toJson)) = _
  split_ifs with hall
  · apply zArray_map
    intro genre hmem
    rw [hgenre, if_pos (hall genre hmem)]
  · push Not at hall
    obtain ⟨genre, hmem, hkey⟩ := hall
    apply zArray_map_eq_none hmem
    rw [hgenre, if_neg hkey]

/-- **A failure is read back.**

**Proof sketch.** Each field of the JSON passes its check: the codes and the statuses by evaluation,
and a delay as it is at most the largest one, which is an `int32`. The delay is a field that may be
absent. -/
theorem zProblem_toJson {problem : Problem} (h : problem.IsPublic) :
    zProblem problem.toJson = some problem := by
  have hcode : ∀ code : ProblemCode, zProblemCode (.string code.asStr) = some code := by
    intro code
    cases code <;> decide
  have hstatus : ∀ code : ProblemCode,
      zIntMax maxInt32 (.number (.posInt code.status)) = some code.status := by
    intro code
    cases code <;> decide
  have hretry : ∀ seconds ≤ Problem.maxRetryAfterSeconds,
      zIntMax maxInt32 (.number (.posInt seconds)) = some seconds := by
    intro seconds hle
    have hint : seconds ≤ maxInt32 := hle
    have hsafe : seconds ≤ maxSafeInteger := hle.trans (by decide)
    show (zInt (natToJson seconds)).filter _ = _
    rw [zInt_natToJson, if_pos hsafe]
    simp [Option.filter, hint]
  obtain ⟨hnew, hle⟩ := h
  generalize problem.code = code, problem.retryAfterSeconds = retry at hnew hle
  subst hnew
  have hoptional : optional
      ([("type", .string "about:blank"), ("title", .string code.title),
        ("status", .number (.posInt code.status)), ("detail", .string code.detail),
        ("code", .string code.asStr)] ++
        retry.toList.map fun seconds => ("retryAfterSeconds", .number (.posInt seconds)))
      "retryAfterSeconds" (zIntMax maxInt32) = some retry := by
    cases retry with
    | none => rfl
    | some seconds =>
      show (zIntMax maxInt32 (.number (.posInt seconds))).map some = _
      rw [hretry seconds (hle seconds rfl).2, Option.map_some]
  show ((zIntMax maxInt32 (.number (.posInt code.status))).bind fun status =>
    (zProblemCode (.string code.asStr)).bind fun code' =>
      (optional _ "retryAfterSeconds" (zIntMax maxInt32)).bind fun retry =>
        some (Problem.mk "about:blank" code.title status code.detail code' retry)) = _
  rw [hstatus, Option.bind_some, hcode, Option.bind_some]
  exact congrArg (Option.bind · _) hoptional

end Client

end PsStore
