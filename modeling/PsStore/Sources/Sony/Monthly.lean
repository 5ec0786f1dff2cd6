import PsStore.Domain.Listing
import PsStore.Sources.Sony.Fields
import PsStore.Sources.Sony.Json

set_option relaxedAutoImplicit false
set_option autoImplicit false

/-!
# The PS Plus monthly feed

The feed as `sources/sony/catalog/monthly.rs` decodes it: a list of alphabetical buckets, each with
game entries. Buckets and entries decode one by one.

## Main definitions

* `monthlyField` — what the feed makes of one entry.
* `parsePlusMonthly` — the outcome of a feed answer.

## Main results

* `parsePlusMonthly_entries` — the entries of the feed: the first ones of their product ids, over
  all buckets that decode.
-/

namespace PsStore

open Json

/-- The outcome of a feed response. -/
inductive PlusMonthlyOutcome where
  /-- The body is not a list, or no element of a non-empty list is a bucket object. -/
  | drift
  | ok (entries : List PlusMonthlyEntry) (dropped outOfScope : ℕ)
deriving DecidableEq

/-- One entry before the scope check. -/
structure RawEntry where
  productId : Option String
  name : Option String
  imageUrl : Option String
  releaseDate : Option String
  genre : Option (List (Option String))
  device : Option (List (Option String))

/-- The decode of one entry. -/
def rawEntry (value : Value) : Except Invalid RawEntry := do
  let obj ← object value
  return {
    productId := ← optString obj "productId"
    name := ← optString obj "name"
    imageUrl := ← optString obj "imageUrl"
    releaseDate := ← optString obj "releaseDate"
    genre := ← optNullableStrings obj "genre"
    device := ← optNullableStrings obj "device" }

/-- The non-empty strings of a list. -/
def strings (values : Option (List (Option String))) : List String :=
  ((values.getD []).filterMap id).filter fun value => value != ""

/-- What the feed makes of one entry: it is kept when its `device` includes PS5 and its id is a
product id. -/
def monthlyField (raw : Value) : Field PlusMonthlyEntry :=
  match rawEntry raw with
  | .error _ => .dropped
  | .ok entry =>
    match entry.productId, entry.name with
    | some productId, some name =>
      if productId = "" ∨ name = "" then .dropped
      else
        let ps5 := (strings entry.device).any fun device => device == ps5Platform
        match if ps5 then ProductId.parse productId else none with
        | none => .outOfScope
        | some productId =>
          .kept {
            productId
            name
            imageUrl := entry.imageUrl.getD ""
            releaseDate := entry.releaseDate.getD ""
            genres := strings entry.genre }
    | _, _ => .dropped

/-- The games of a bucket, or `none` for an element that is no bucket object. -/
def bucketGames (bucket : Value) : Option (List Value) := do
  let games ← (optList (← bucket.asObject) "games").toOption
  return games.getD []

/-- The step of the outer loop: the tally of the entries, and the buckets that decoded. -/
def readBucket (state : Tally PlusMonthlyEntry ProductId × ℕ) (bucket : Value) :
    Tally PlusMonthlyEntry ProductId × ℕ :=
  match bucketGames bucket with
  | none => (state.1.add PlusMonthlyEntry.productId .dropped, state.2)
  | some games =>
    ((games.map monthlyField).foldl (Tally.add PlusMonthlyEntry.productId) state.1, state.2 + 1)

/-- Flattens the buckets and keeps the entries in scope. The first entry of a product id wins. -/
def parsePlusMonthly (json : Value) : PlusMonthlyOutcome :=
  match json.asArray with
  | none => .drift
  | some buckets =>
    let (tally, decodedBuckets) := buckets.foldl readBucket (Tally.empty, 0)
    if buckets ≠ [] ∧ decodedBuckets = 0 then .drift
    else .ok tally.entries tally.dropped tally.outOfScope

/-- What the feed makes of the elements of a bucket. An element that is no bucket is dropped. -/
def bucketFields (bucket : Value) : List (Field PlusMonthlyEntry) :=
  match bucketGames bucket with
  | none => [.dropped]
  | some games => games.map monthlyField

/-- What the feed makes of its elements, in its order. -/
def feedFields (buckets : List Value) : List (Field PlusMonthlyEntry) :=
  buckets.flatMap bucketFields

/-- The buckets are read as one list of elements. -/
lemma foldl_readBucket (buckets : List Value) (state : Tally PlusMonthlyEntry ProductId × ℕ) :
    (buckets.foldl readBucket state).1 =
      (feedFields buckets).foldl (Tally.add PlusMonthlyEntry.productId) state.1 := by
  induction buckets generalizing state with
  | nil => rfl
  | cons bucket buckets ih =>
    have hcons : feedFields (bucket :: buckets) = bucketFields bucket ++ feedFields buckets := by
      simp [feedFields]
    rw [List.foldl_cons, ih, hcons, List.foldl_append]
    unfold readBucket bucketFields
    cases bucketGames bucket <;> rfl

/-- **The entries of the feed** are the first kept ones of their product ids. -/
theorem parsePlusMonthly_entries {json : Value} {entries : List PlusMonthlyEntry}
    {dropped outOfScope : ℕ} (h : parsePlusMonthly json = .ok entries dropped outOfScope) :
    ∃ buckets, json.asArray = some buckets ∧
      entries = firstWins PlusMonthlyEntry.productId
        ((feedFields buckets).filterMap Field.entry?) := by
  unfold parsePlusMonthly at h
  cases hbuckets : json.asArray with
  | none => rw [hbuckets] at h; cases h
  | some buckets =>
    rw [hbuckets] at h
    dsimp only at h
    split_ifs at h
    cases h
    refine ⟨buckets, rfl, ?_⟩
    rw [foldl_readBucket, Tally.entries_foldl]

end PsStore
