import PsStore.Domain.Collation
import PsStore.Lib.FirstWins
import PsStore.Sources.Sony.Grid

set_option relaxedAutoImplicit false
set_option autoImplicit false

/-!
# The genre menu

`narrow_genres` of `domain/listing.rs`, and `extract_genres` of `sources/sony/catalog/grid.rs`: the
values of the genre facet, decoded one by one, with a valid key, sorted by display name.

## Main definitions

* `narrowGenres` — the genres with a valid key, the first of each key, sorted by name.
* `extractGenres` — the outcome of a genre list response.
* `GenreFacet`, `GenreReads` — the genre facet of an answer, and what its values say.

## Main results

* `mem_narrowGenres_iff` — the menu has each valid key with the first name given for it.
* `extractGenres_eq_ok_iff` — which answers give which menu.
* `collation_and_genres` — the collation, the menu, and the count of the dropped values.
-/

namespace PsStore

open Json

/-! ## The menu of a list of genres -/

/-- One value of the genre facet, before the key format check. -/
structure RawGenre where
  key : String
  name : String
deriving DecidableEq

/-- One genre: its facet key and its display name. -/
structure Genre where
  key : String
  name : String
deriving DecidableEq

/-- The genres with a valid key. The first entry of a repeated key wins. -/
def keptGenres (genres : List RawGenre) : List Genre :=
  (firstWins RawGenre.key (genres.filter fun genre => isGenreKey genre.key)).map fun genre =>
    { key := genre.key, name := genre.name }

/-- The kept genres, sorted by display name. -/
def narrowGenres (genres : List RawGenre) : List Genre :=
  stableSort (fun a b => localeCompareEn a.name b.name) (keptGenres genres)

/-- The sort loses and repeats no genre. -/
lemma perm_narrowGenres (genres : List RawGenre) :
    (narrowGenres genres).Perm (keptGenres genres) := perm_stableSort _

/-- The keys of the menu are distinct. -/
lemma nodup_narrowGenres (genres : List RawGenre) :
    ((narrowGenres genres).map Genre.key).Nodup := by
  rw [((perm_narrowGenres genres).map Genre.key).nodup_iff]
  unfold keptGenres
  rw [List.map_map]
  exact nodup_map_firstWins RawGenre.key _

/-- **The menu** has each valid key, with the first name given for it. -/
lemma mem_narrowGenres_iff {genres : List RawGenre} {genre : Genre} :
    genre ∈ narrowGenres genres ↔ isGenreKey genre.key = true ∧
      genres.find? (fun raw => raw.key == genre.key) = some ⟨genre.key, genre.name⟩ := by
  have hkept : genre ∈ keptGenres genres ↔
      (⟨genre.key, genre.name⟩ : RawGenre) ∈
        firstWins RawGenre.key (genres.filter fun raw => isGenreKey raw.key) := by
    unfold keptGenres
    rw [List.mem_map]
    constructor
    · intro h
      obtain ⟨raw, hraw, rfl⟩ := h
      exact hraw
    · intro h
      exact ⟨_, h, rfl⟩
  rw [(perm_narrowGenres genres).mem_iff, hkept, ← filter_firstWins, List.mem_filter,
    mem_firstWins_iff_find?, and_comm]

/-- The menu has no more genres than the facet. -/
lemma length_narrowGenres_le (genres : List RawGenre) :
    (narrowGenres genres).length ≤ genres.length := by
  rw [(perm_narrowGenres genres).length_eq]
  unfold keptGenres
  rw [List.length_map]
  exact ((firstWins_sublist RawGenre.key _).length_le).trans (List.length_filter_le _ _)

/-! ## The genre facet -/

/-- Sony's facet name of the concept genre. -/
def genreFacetName : String := "conceptGenres"

/-- A facet option: its name and its values. -/
def facetOption (option : Value) : Option (Option String × Option (List Value)) := do
  let facet ← option.asObject
  let name ← (optString facet "name").toOption
  let values ← (optList facet "values").toOption
  return (name, values)

/-- The raw values of the genre facet, or `none` when the node has no genre facet. -/
def genreFacetValues (node : Value) : Option (List Value) := do
  let obj ← node.asObject
  let options ← (optList obj "facetOptions").toOption
  let facet ← ((options.getD []).filterMap facetOption).find? fun facet =>
    facet.1 == some genreFacetName
  facet.2

/-- A facet value with a non-empty key and display name. -/
def genreValue (item : Value) : Option RawGenre := do
  let obj ← item.asObject
  let key ← (optString obj "key").toOption
  let name ← (optString obj "displayName").toOption
  match key, name with
  | some key, some name => if key ≠ "" ∧ name ≠ "" then some { key, name } else none
  | _, _ => none

/-- The genre facet decoded per element. -/
structure ParsedGenreFacet where
  genres : List RawGenre
  dropped : ℕ

/-- One value of the facet: kept where it decodes, and counted otherwise. -/
def ParsedGenreFacet.push (facet : ParsedGenreFacet) (item : Value) : ParsedGenreFacet :=
  match genreValue item with
  | some genre => { facet with genres := facet.genres ++ [genre] }
  | none => { facet with dropped := facet.dropped + 1 }

/-- The values of the genre facet, decoded per element. -/
def parseGenreFacet (node : Value) : Option ParsedGenreFacet :=
  (genreFacetValues node).map fun values => values.foldl ParsedGenreFacet.push ⟨[], 0⟩

/-- The outcome of a genre list response. -/
inductive GenresOutcome where
  /-- No genre facet, or a facet without one usable genre. -/
  | drift
  /-- The menu and the number of values that are not in it. -/
  | ok (genres : List Genre) (dropped : ℕ)
deriving DecidableEq

/-- The genre menu: the facet values with a valid key, sorted by name. -/
def extractGenres (json : Value) : GenresOutcome :=
  match (gridNode json).bind parseGenreFacet with
  | none => .drift
  | some facet =>
    let genres := narrowGenres facet.genres
    if genres = [] then .drift
    else .ok genres (facet.dropped + facet.genres.length - genres.length)

/-! ### What the answer says -/

/-- A facet with its name and its values. -/
def FacetReads (option : Value) (name : Option String) (values : Option (List Value)) : Prop :=
  ∃ obj, option = .object obj ∧ FieldReads TextReads obj "name" name ∧
    FieldReads (fun value items => value = .array items) obj "values" values

/-- The values of the genre facet of an answer: of the readable facets, those of the first one that
is called `conceptGenres`. -/
def GenreFacet (json : Value) (values : List Value) : Prop :=
  ∃ node before option after, ObjectAt json ["data", "categoryGridRetrieve"] node ∧
    node.get "facetOptions" = some (.array (before ++ option :: after)) ∧
    FacetReads option (some "conceptGenres") (some values) ∧
    ∀ other ∈ before, ∀ others, ¬ FacetReads other (some "conceptGenres") others

/-- A value of the facet: an object with a key and a display name that are not empty. -/
def GenreReads (value : Value) (genre : RawGenre) : Prop :=
  ∃ obj, value = .object obj ∧ FieldReads TextReads obj "key" (some genre.key) ∧ genre.key ≠ "" ∧
    FieldReads TextReads obj "displayName" (some genre.name) ∧ genre.name ≠ ""

/-- The decoder of a facet. -/
lemma facetOption_eq_some_iff {option : Value} {name : Option String}
    {values : Option (List Value)} :
    facetOption option = some (name, values) ↔ FacetReads option name values := by
  have hvalues : Decodes (fun value => orInvalid value.asArray) fun value items =>
      value = .array items := by
    intro value items
    cases value <;> simp [orInvalid, Value.asArray]
  unfold facetOption FacetReads optList
  simp only [Option.bind_eq_bind, Option.pure_def, Option.bind_eq_some_iff,
    Value.asObject_eq_some_iff, toOption_eq_some_iff, optString_eq_ok_iff,
    optional_eq_ok_iff hvalues, Option.some.injEq, Prod.mk.injEq]
  constructor
  · rintro ⟨obj, hobj, _, hname, _, hitems, rfl, rfl⟩
    exact ⟨obj, hobj, hname, hitems⟩
  · rintro ⟨obj, hobj, hname, hitems⟩
    exact ⟨obj, hobj, _, hname, _, hitems, rfl, rfl⟩

/-- The decoder of a value of the facet. -/
lemma genreValue_eq_some_iff {value : Value} {genre : RawGenre} :
    genreValue value = some genre ↔ GenreReads value genre := by
  obtain ⟨key, name⟩ := genre
  unfold genreValue GenreReads
  simp only [Option.bind_eq_bind, Option.bind_eq_some_iff, Value.asObject_eq_some_iff,
    toOption_eq_some_iff, optString_eq_ok_iff]
  constructor
  · rintro ⟨obj, hobj, key', hkey, name', hname, hgenre⟩
    split at hgenre
    · split_ifs at hgenre with hempty
      cases hgenre
      exact ⟨obj, hobj, hkey, hempty.1, hname, hempty.2⟩
    · cases hgenre
  · rintro ⟨obj, hobj, hkey, hkeyEmpty, hname, hnameEmpty⟩
    refine ⟨obj, hobj, some key, hkey, some name, hname, ?_⟩
    dsimp only
    rw [if_pos ⟨hkeyEmpty, hnameEmpty⟩]

/-- The values of the genre facet are read exactly where the answer has it.

**Proof sketch.** The facet is the first option with the name of the genre facet, and every option
before it has another name or reads as none (`facetOption_eq_some_iff`). The path to the options is
read key by key. -/
lemma genreFacetValues_eq_some_iff {json : Value} {values : List Value} :
    (gridNode json).bind genreFacetValues = some values ↔ GenreFacet json values := by
  have hfacets : ∀ options : List Value,
      ((options.filterMap facetOption).find? fun facet => facet.1 == some genreFacetName).bind
          Prod.snd = some values ↔
        ∃ before option after, options = before ++ option :: after ∧
          FacetReads option (some "conceptGenres") (some values) ∧
          ∀ other ∈ before, ∀ others, ¬ FacetReads other (some "conceptGenres") others := by
    intro options
    have hother : ∀ other, (!(facetOption other).any fun facet => facet.1 == some genreFacetName) =
        true ↔ ∀ others, ¬ FacetReads other (some "conceptGenres") others := by
      intro other
      simp only [← facetOption_eq_some_iff]
      cases facetOption other with
      | none => simp
      | some facet =>
        obtain ⟨name, others⟩ := facet
        simp [genreFacetName]
    rw [List.find?_filterMap]
    simp only [Option.bind_eq_some_iff, List.find?_eq_some_iff_append]
    constructor
    · rintro ⟨⟨name, _⟩, ⟨option, ⟨hname, before, after, hoptions, hbefore⟩, hoption⟩, rfl⟩
      have hread := facetOption_eq_some_iff.mp hoption
      rw [hoption, Option.any_some, beq_iff_eq] at hname
      obtain rfl : name = some genreFacetName := hname
      exact ⟨before, option, after, hoptions, hread,
        fun other hmem => (hother other).mp (hbefore other hmem)⟩
    · rintro ⟨before, option, after, hoptions, hread, hbefore⟩
      have hoption := facetOption_eq_some_iff.mpr hread
      refine ⟨(some "conceptGenres", some values), ⟨option, ⟨?_, before, after, hoptions,
        fun other hmem => (hother other).mpr (hbefore other hmem)⟩, hoption⟩, rfl⟩
      rw [hoption]
      rfl
  simp only [genreFacetValues, GenreFacet, Option.bind_eq_bind, Option.bind_eq_some_iff,
    Value.asObject_eq_some_iff, toOption_eq_some_iff]
  constructor
  · rintro ⟨_, hnode, node, rfl, options, hoptions, facet, hfacet, hvalues⟩
    have hfound := (hfacets (options.getD [])).mp (Option.bind_eq_some_iff.mpr ⟨_, hfacet, hvalues⟩)
    obtain ⟨before, option, after, hlist, hread, hbefore⟩ := hfound
    refine ⟨node, before, option, after, gridNode_iff.mp hnode, ?_, hread, hbefore⟩
    cases options with
    | none => simp at hlist
    | some options =>
      rw [Option.getD_some] at hlist
      rw [optList_eq_some_iff.mp hoptions, hlist]
  · rintro ⟨node, before, option, after, hnode, hoptions, hread, hbefore⟩
    obtain ⟨facet, hfacet, hvalues⟩ := Option.bind_eq_some_iff.mp
      ((hfacets _).mpr ⟨before, option, after, rfl, hread, hbefore⟩)
    exact ⟨_, gridNode_iff.mpr hnode, node, rfl, _, optList_eq_some_iff.mpr hoptions, facet,
      hfacet, hvalues⟩

/-- The values of the facet are read one by one. -/
lemma foldl_push (values : List Value) (facet : ParsedGenreFacet) :
    values.foldl ParsedGenreFacet.push facet =
      ⟨facet.genres ++ values.filterMap genreValue,
        facet.dropped + values.countP fun value => (genreValue value).isNone⟩ := by
  induction values generalizing facet with
  | nil => simp
  | cons value values ih =>
    rw [List.foldl_cons, ih, List.filterMap_cons, List.countP_cons]
    unfold ParsedGenreFacet.push
    cases genreValue value with
    | none => simp; omega
    | some genre => simp

/-- The menu is empty exactly where no genre has a valid key. -/
lemma narrowGenres_eq_nil_iff {genres : List RawGenre} :
    narrowGenres genres = [] ↔ ∀ genre ∈ genres, isGenreKey genre.key = false := by
  rw [← List.length_eq_zero_iff, (perm_narrowGenres genres).length_eq, List.length_eq_zero_iff]
  unfold keptGenres
  rw [List.map_eq_nil_iff, firstWins_eq_nil_iff, List.filter_eq_nil_iff]
  simp

/-- **The genres of an answer.** An answer gives a menu exactly where it has a genre facet with a
genre that has a valid key. The menu is that of the readable values of the facet, and the count is
the number of the values that are not in it.

**Proof sketch.** The code finds the facet (`genreFacetValues_eq_some_iff`), reads its values one by
one (`genreValue_eq_some_iff`), and reports drift where the menu is empty, which is where no read
key is valid (`narrowGenres_eq_nil_iff`). The read and the unread values are all values, so the two
counts add up. -/
theorem extractGenres_eq_ok_iff {json : Value} {genres : List Genre} {dropped : ℕ} :
    extractGenres json = .ok genres dropped ↔
      ∃ values raw unread, GenreFacet json values ∧ ElementsRead GenreReads values raw unread ∧
        (∃ genre ∈ raw, isGenreKey genre.key = true) ∧ genres = narrowGenres raw ∧
        genres.length ≤ values.length ∧ dropped = values.length - genres.length := by
  have hfacet : ∀ values, (gridNode json).bind genreFacetValues = some values →
      (gridNode json).bind parseGenreFacet =
        some ⟨values.filterMap genreValue,
          values.countP fun value => (genreValue value).isNone⟩ := by
    intro values hvalues
    obtain ⟨node, hnode, hvalues⟩ := Option.bind_eq_some_iff.mp hvalues
    rw [hnode, Option.bind_some, parseGenreFacet, hvalues, Option.map_some, foldl_push,
      List.nil_append, Nat.zero_add]
  have hreads : ∀ value genre, genreValue value = some genre ↔ GenreReads value genre :=
    fun value genre => genreValue_eq_some_iff
  have hvalid : ∀ raw : List RawGenre, narrowGenres raw ≠ [] ↔
      ∃ genre ∈ raw, isGenreKey genre.key = true := by
    intro raw
    rw [Ne, narrowGenres_eq_nil_iff]
    simp
  have hcount : ∀ values : List Value,
      (values.filterMap genreValue).length +
        values.countP (fun value => (genreValue value).isNone) = values.length :=
    length_filterMap_add_countP genreValue
  unfold extractGenres
  constructor
  · intro h
    cases hvalues : (gridNode json).bind genreFacetValues with
    | none =>
      have hnone : (gridNode json).bind parseGenreFacet = none := by
        simp only [Option.bind_eq_none_iff] at hvalues ⊢
        intro node hnode
        rw [parseGenreFacet, hvalues node hnode, Option.map_none]
      rw [hnone] at h
      cases h
    | some values =>
      rw [hfacet values hvalues] at h
      dsimp only at h
      have hle := length_narrowGenres_le (values.filterMap genreValue)
      have htotal := hcount values
      split_ifs at h with hempty
      obtain ⟨rfl, rfl⟩ := GenresOutcome.ok.inj h
      refine ⟨values, _, _, genreFacetValues_eq_some_iff.mp hvalues,
        reading_filterMap hreads values, (hvalid _).mp hempty, rfl, by omega, by omega⟩
  · rintro ⟨values, raw, unread, hvalues, hreading, hkey, rfl, -, rfl⟩
    rw [hfacet values (genreFacetValues_eq_some_iff.mpr hvalues)]
    obtain ⟨rfl, rfl⟩ := hreading.eq_filterMap hreads
    have htotal := hcount values
    dsimp only
    rw [if_neg ((hvalid _).mpr hkey)]
    congr 1
    omega

/-- **The collation and the genre menu.** The collation is a total preorder whose ties are the
texts with equal keys, and it compares level by level. The menu of a list of genres is sorted by
it, has distinct keys, all of them valid, and gives each key its first name. An answer gives a menu
exactly where its genre facet has a readable value with a valid key: the menu of the readable
values, with the count of the raw values that are not in it.

**Proof sketch.** The collation compares the keys of three levels in turn, and a lexicographic order
of preorders is a preorder. The menu is a stable sort of a list that first wins has made free of
repeated keys. For the answer, the facet and the values are described on the JSON, and the decode
agrees with that description (`extractGenres_eq_ok_iff`). -/
theorem collation_and_genres :
    (∀ a, localeCompareEn a a = .eq) ∧
    (∀ a b c, localeCompareEn a b ≠ .gt → localeCompareEn b c ≠ .gt →
      localeCompareEn a c ≠ .gt) ∧
    (∀ a b, localeCompareEn b a = (localeCompareEn a b).swap) ∧
    (∀ a b, localeCompareEn a b = .eq ↔ collationKeys a = collationKeys b) ∧
    (∀ a b, (compareLevel CollationKey.primary a b ≠ .eq →
        localeCompareEn a b = compareLevel CollationKey.primary a b) ∧
      (compareLevel CollationKey.primary a b = .eq →
        compareLevel CollationKey.secondary a b ≠ .eq →
        localeCompareEn a b = compareLevel CollationKey.secondary a b) ∧
      (compareLevel CollationKey.primary a b = .eq →
        compareLevel CollationKey.secondary a b = .eq →
        localeCompareEn a b = compareLevel CollationKey.tertiary a b)) ∧
    (∀ genres,
      ((narrowGenres genres).Pairwise fun a b => localeCompareEn a.name b.name ≠ .gt) ∧
      ((narrowGenres genres).map Genre.key).Nodup ∧
      ∀ genre, genre ∈ narrowGenres genres ↔ isGenreKey genre.key = true ∧
        genres.find? (fun raw => raw.key == genre.key) = some ⟨genre.key, genre.name⟩) ∧
    ∀ json genres dropped, extractGenres json = .ok genres dropped ↔
      ∃ values raw unread, GenreFacet json values ∧ ElementsRead GenreReads values raw unread ∧
        (∃ genre ∈ raw, isGenreKey genre.key = true) ∧ genres = narrowGenres raw ∧
        genres.length ≤ values.length ∧ dropped = values.length - genres.length := by
  refine ⟨?_, ?_, ?_, fun _ _ => localeCompareEn_eq_iff, localeCompareEn_levels, ?_, ?_⟩
  · intro a
    exact Std.ReflCmp.compare_self
  · intro a b c hab hbc
    rw [Ne, Ordering.ne_gt_iff_isLE] at hab hbc ⊢
    exact Std.TransCmp.isLE_trans hab hbc
  · intro a b
    exact Std.OrientedCmp.eq_swap
  · intro genres
    have hpreorder := transCmp_comp localeCompareEn Genre.name
    exact ⟨pairwise_stableSort _, nodup_narrowGenres genres, fun _ => mem_narrowGenres_iff⟩
  · intro json genres dropped
    exact extractGenres_eq_ok_iff

/-- The values of a facet: one genre and one value that is none. -/
def actionValues : List Value :=
  [.object [("key", .string "ACTION"), ("displayName", .string "Action")], .null]

/-- An answer with this genre facet. -/
def actionFacet : Value :=
  .object [("data", .object [("categoryGridRetrieve", .object [("facetOptions", .array [
    .object [("name", .string "conceptGenres"), ("values", .array actionValues)]])])])]

/-- The lower case `apple` is before `Mario` and `Zelda`, and a facet with one genre and one value
that is none gives that genre and counts the other value. -/
theorem collation_and_genres_actionFacet :
    localeCompareEn "apple" "Zelda" ≠ .gt ∧
      extractGenres actionFacet = .ok [⟨"ACTION", "Action"⟩] 1 := by
  have hspec := collation_and_genres
  refine ⟨hspec.2.1 "apple" "Mario" "Zelda" (by decide) (by decide),
    (hspec.2.2.2.2.2.2 _ _ _).mpr ⟨actionValues, [⟨"ACTION", "Action"⟩], 1, ?_, ?_, ?_⟩⟩
  · exact genreFacetValues_eq_some_iff.mp rfl
  · exact reading_filterMap (fun value genre => genreValue_eq_some_iff) _
  · exact ⟨⟨_, List.mem_singleton_self _, by decide⟩, by decide, by decide, by decide⟩

end PsStore
