import PsStore.Domain.Catalog
import PsStore.Http.IntegerText
import PsStore.Lib.FormUrlencoded

set_option relaxedAutoImplicit false
set_option autoImplicit false

/-!
# Query parameters

The query of the API routes in `http/params.rs`: the pairs, the page parameters and the search. A
`usize` has 64 bits, so every number up to 2^53 fits. The genre and the order of a browse request
and the path segment of a game are left out.

## Main definitions

* `Query`, `Query.parse`, `Query.single` — the decoded pairs, and the value of a key.
* `integerIn` — a parameter as an integer in bounds.
* `Query.offset`, `Query.size`, `pagination`, `search` — the parameters of the routes.

## Main results

* `integerIn_eq_ok_iff` — when a text that is written as an integer is accepted.
* `numeric_parameters` — the numbers and the integers of the query.
-/

namespace PsStore

/-- The page size of a list when the request has none. -/
def defaultPageSize : ℕ := 60

/-- The largest page size of a list. -/
def maxPageSize : ℕ := 120

/-- The largest page size of a search, and the one when the request has none. -/
def searchMaxPageSize : ℕ := 50

/-- The longest search term in UTF-16 code units. -/
def searchMaxTermLength : ℕ := 100

/-- `Invalid`: an invalid request. -/
inductive InvalidRequest where
  | invalid
deriving DecidableEq

/-- The decoded query pairs of one request. -/
structure Query where
  pairs : List (String × String)

/-- The largest integer that a JavaScript number holds exactly. -/
def maxSafeInteger : ℚ := 9007199254740991

/-- `text` as JavaScript `Number(text)`, where that is an integer from `min` to `max`. -/
def integerIn (text : List Char) (min : ℕ) (max : Option ℕ) : Except InvalidRequest ℕ :=
  match jsNumber text with
  | some (.finite value _) =>
    if value ≠ ⌊value⌋ ∨ |value| > maxSafeInteger then .error .invalid
    -- -0 is not below 0
    else if value < 0 then .error .invalid
    else
      let value := ⌊value⌋.toNat
      if value < min ∨ max.any (value > ·) then .error .invalid else .ok value
  | _ => .error .invalid

namespace Query

/-- The decoded pairs of a raw query. -/
def parse (raw : Option String) : Query where
  pairs := (raw.map fun query => FormUrlencoded.parse (toUtf8 query.toList)).getD []

/-- The values of a key. -/
def values (query : Query) (key : String) : List String :=
  (query.pairs.filter fun pair => pair.1 = key).map Prod.snd

/-- The value of a key. A repeated key is invalid. -/
def single (query : Query) (key : String) : Except InvalidRequest (Option String) :=
  match query.values key with
  | [] => .ok none
  | [value] => .ok (some value)
  | _ => .error .invalid

/-- `offset`, 0 when the query has none. -/
def offset (query : Query) : Except InvalidRequest ℕ := do
  match ← query.single "offset" with
  | none => .ok 0
  | some text => integerIn text.toList 0 none

/-- `size`, from 1. -/
def size (query : Query) (default max : ℕ) : Except InvalidRequest ℕ := do
  match ← query.single "size" with
  | none => .ok default
  | some text => integerIn text.toList 1 (some max)

/-- The page of a list. -/
def page (query : Query) : Except InvalidRequest Page := do
  let offset ← query.offset
  let size ← query.size defaultPageSize maxPageSize
  .ok { offset, size }

end Query

/-- `offset` (default 0) and `size` (1 to 120, default 60). -/
def pagination (raw : Option String) : Except InvalidRequest Page := (Query.parse raw).page

/-- The JavaScript `length` of a text: a character past U+FFFF is two code units. -/
def utf16Len (text : List Char) : ℕ := (text.map fun c => if c.toNat < 0x10000 then 1 else 2).sum

/-- `q` (trimmed, 1 to 100 code units), `offset`, and `size` (1 to 50, default 50). -/
def search (raw : Option String) : Except InvalidRequest (List Char × Page) := do
  let query := Query.parse raw
  match ← query.single "q" with
  | none => .error .invalid
  | some text =>
    let term := jsTrim text.toList
    let length := utf16Len term
    if length = 0 ∨ length > searchMaxTermLength then .error .invalid
    else
      let offset ← query.offset
      let size ← query.size searchMaxPageSize searchMaxPageSize
      .ok (term, { offset, size })

/-! ## Integers -/

/-- A number beyond the exact integers is invalid. -/
lemma integerIn_of_beyond {text : List Char} {value : Binary64} (h : jsNumber text = some value)
    (hbeyond : value.Beyond) (min : ℕ) (max : Option ℕ) :
    integerIn text min max = .error .invalid := by
  unfold integerIn
  rw [h]
  cases value with
  | finite value hvalue =>
    have hlarge : maxSafeInteger < |value| := by
      have hle : (2 : ℚ) ^ 53 ≤ |value| := hbeyond
      unfold maxSafeInteger
      linarith
    dsimp only
    rw [if_pos (Or.inr hlarge)]
  | infinite negative => rfl
  | nan => rfl

/-- An exact integer is accepted in its bounds.

**Proof sketch.** An exact integer is its own floor and passes the check against 2^53 - 1. A
negative one is refused, and no `value` is negative. Any other one is compared with the bounds as it
is. -/
lemma integerIn_of_finite {text : List Char} {n : ℤ} {hn : Binary64.Representable n}
    (h : jsNumber text = some (.finite n hn)) (hsafe : |n| ≤ 2 ^ 53 - 1) (min : ℕ)
    (max : Option ℕ) (value : ℕ) :
    integerIn text min max = .ok value ↔
      (value : ℤ) = n ∧ min ≤ value ∧ ∀ m ∈ max, value ≤ m := by
  have hle : ¬ |(n : ℚ)| > maxSafeInteger := by
    unfold maxSafeInteger
    rw [not_lt, ← Int.cast_abs]
    exact_mod_cast hsafe
  unfold integerIn
  rw [h]
  dsimp only
  rw [Int.floor_intCast, if_neg (by simp [hle])]
  by_cases hnegative : n < 0
  · rw [if_pos (by exact_mod_cast hnegative)]
    constructor
    · intro herror
      cases herror
    · intro hvalue
      omega
  · rw [if_neg (by exact_mod_cast hnegative)]
    have hnat : (n.toNat : ℤ) = n := Int.toNat_of_nonneg (by omega)
    by_cases hbounds : n.toNat < min ∨ max.any (n.toNat > ·) = true
    · rw [if_pos hbounds]
      constructor
      · intro herror
        cases herror
      · intro hvalue
        obtain ⟨heq, hmin, hmax⟩ := hvalue
        obtain rfl : value = n.toNat := by omega
        rcases hbounds with hlow | hhigh
        · omega
        · obtain ⟨m, hm, hgt⟩ := (Option.any_eq_true _ _).mp hhigh
          exact absurd (hmax m hm) (by simpa using hgt)
    · rw [if_neg hbounds, Except.ok.injEq]
      rw [not_or, not_lt] at hbounds
      constructor
      · intro heq
        subst heq
        refine ⟨hnat, hbounds.1, ?_⟩
        intro m hm
        by_contra hgt
        exact hbounds.2 ((Option.any_eq_true _ _).mpr ⟨m, hm, decide_eq_true (by omega)⟩)
      · intro hvalue
        omega

/-- **A text that is written as an integer** is accepted where its exact value is in bounds and at
most 2^53 - 1, with that value.

**Proof sketch.** The number of the text is the integer or lies beyond 2^53
(`jsNumber_integerText`). An integer of at most 2^53 - 1 is compared with the bounds as it is; a
number beyond is refused, and so is its integer on the right side. -/
theorem integerIn_eq_ok_iff {text : List Char} {n : ℤ} (h : IntegerText text n) (min : ℕ)
    (max : Option ℕ) (value : ℕ) :
    integerIn text min max = .ok value ↔
      (value : ℤ) = n ∧ min ≤ value ∧ (∀ m ∈ max, value ≤ m) ∧ n ≤ 2 ^ 53 - 1 := by
  obtain ⟨number, hnumber, hsmall, hlarge⟩ := jsNumber_integerText h
  by_cases hsafe : |n| ≤ 2 ^ 53 - 1
  · obtain ⟨hn, rfl⟩ := hsmall (by omega)
    rw [integerIn_of_finite hnumber hsafe]
    have hle : n ≤ 2 ^ 53 - 1 := (le_abs_self n).trans hsafe
    tauto
  · have hbeyond : number.Beyond := by
      rcases (show |n| = 2 ^ 53 ∨ 2 ^ 53 < |n| by omega) with heq | hlt
      · obtain ⟨hn, rfl⟩ := hsmall heq.le
        show (2 : ℚ) ^ 53 ≤ |(n : ℚ)|
        rw [← Int.cast_abs, heq]
        norm_num
      · exact hlarge hlt
    rw [integerIn_of_beyond hnumber hbeyond]
    constructor
    · intro herror
      cases herror
    · intro hvalue
      obtain ⟨heq, -, -, hle⟩ := hvalue
      rw [abs_of_nonneg (by omega)] at hsafe
      omega

/-! ## The parameters -/

namespace Query

/-- A repeated key is invalid. -/
lemma single_of_repeated {query : Query} {key : String} (h : 2 ≤ (query.values key).length) :
    query.single key = .error .invalid := by
  unfold single
  match hvalues : query.values key with
  | [] =>
    rw [hvalues] at h
    exact absurd h (by decide)
  | [value] =>
    rw [hvalues] at h
    exact absurd h (by simp)
  | _ :: _ :: _ => rfl

/-- A key with one value has it. -/
lemma single_of_values {query : Query} {key value : String} (h : query.values key = [value]) :
    query.single key = .ok (some value) := by
  unfold single
  rw [h]

/-- An offset with one value is read from it. -/
lemma offset_of_values {query : Query} {text : String} (h : query.values "offset" = [text]) :
    query.offset = integerIn text.toList 0 none := by
  unfold offset
  rw [single_of_values h]
  rfl

/-- A size with one value is read from it. -/
lemma size_of_values {query : Query} {text : String} (h : query.values "size" = [text])
    (default max : ℕ) : query.size default max = integerIn text.toList 1 (some max) := by
  unfold size
  rw [single_of_values h]
  rfl

/-- The digits of an offset are read back. -/
lemma offset_of_toDigits {query : Query} {n : ℕ}
    (h : query.values "offset" = [String.ofList (Nat.toDigits 10 n)]) (hsafe : n ≤ 2 ^ 53 - 1) :
    query.offset = .ok n := by
  rw [offset_of_values h, String.toList_ofList, integerIn_eq_ok_iff (integerText_toDigits n)]
  refine ⟨rfl, Nat.zero_le n, ?_, by omega⟩
  intro m hm
  cases hm

/-- The digits of a size in bounds are read back. -/
lemma size_of_toDigits {query : Query} {n max : ℕ}
    (h : query.values "size" = [String.ofList (Nat.toDigits 10 n)]) (default : ℕ) (hmin : 1 ≤ n)
    (hmax : n ≤ max) (hsafe : max ≤ 2 ^ 53 - 1) : query.size default max = .ok n := by
  rw [size_of_values h, String.toList_ofList, integerIn_eq_ok_iff (integerText_toDigits n)]
  refine ⟨rfl, hmin, ?_, by omega⟩
  intro m hm
  rwa [← Option.some.inj hm]

end Query

/-- A search with one term of 1 to 100 code units and a page. -/
lemma search_of_query {raw : Option String} {text : String} {page : Page}
    (hq : (Query.parse raw).values "q" = [text]) (hne : utf16Len (jsTrim text.toList) ≠ 0)
    (hle : utf16Len (jsTrim text.toList) ≤ searchMaxTermLength)
    (hoffset : (Query.parse raw).offset = .ok page.offset)
    (hsize : (Query.parse raw).size searchMaxPageSize searchMaxPageSize = .ok page.size) :
    search raw = .ok (jsTrim text.toList, page) := by
  have hlength : ¬(utf16Len (jsTrim text.toList) = 0 ∨
      utf16Len (jsTrim text.toList) > searchMaxTermLength) := by omega
  unfold search
  dsimp only
  rw [Query.single_of_values hq]
  show (if _ then _ else _) = _
  rw [if_neg hlength, hoffset, hsize]
  rfl

/-- **Numeric query parameters.** A text is a number exactly where it is a text of the grammar. A
repeated `offset` or `size` is invalid, and a single one that is written as an integer is accepted
exactly where its exact value is in bounds and at most 2^53 - 1, with that value.

**Proof sketch.** The code checks a text character by character before it parses it;
`jsNumber_isSome_iff` says that this is the grammar of a numeric literal. A repeated key has no
single value. For an integer text the parsed double is exact up to 2^53 and beyond 2^53 elsewhere,
so the bounds can be read on the integer (`integerIn_eq_ok_iff`). -/
theorem numeric_parameters :
    (∀ text : String, (jsNumber text.toList).isSome = true ↔ StringNumericLiteral text.toList) ∧
    ∀ raw : Option String,
      (2 ≤ ((Query.parse raw).values "offset").length →
        (Query.parse raw).offset = .error .invalid) ∧
      (2 ≤ ((Query.parse raw).values "size").length → ∀ default max,
        (Query.parse raw).size default max = .error .invalid) ∧
      (∀ text n, (Query.parse raw).values "offset" = [text] → IntegerText text.toList n →
        ∀ value, (Query.parse raw).offset = .ok value ↔
          (value : ℤ) = n ∧ 0 ≤ n ∧ n ≤ 2 ^ 53 - 1) ∧
      ∀ text n, (Query.parse raw).values "size" = [text] → IntegerText text.toList n →
        ∀ default max value, (Query.parse raw).size default max = .ok value ↔
          (value : ℤ) = n ∧ 1 ≤ n ∧ n ≤ max ∧ n ≤ 2 ^ 53 - 1 := by
  refine ⟨fun text => jsNumber_isSome_iff text.toList, ?_⟩
  intro raw
  generalize Query.parse raw = query
  refine ⟨?_, ?_, ?_, ?_⟩
  · intro hrepeated
    unfold Query.offset
    rw [Query.single_of_repeated hrepeated]
    rfl
  · intro hrepeated default max
    unfold Query.size
    rw [Query.single_of_repeated hrepeated]
    rfl
  · intro text n hvalues hinteger value
    rw [Query.offset_of_values hvalues, integerIn_eq_ok_iff hinteger]
    constructor
    · intro h
      exact ⟨h.1, by omega, h.2.2.2⟩
    · intro h
      refine ⟨h.1, by omega, ?_, h.2.2⟩
      intro m hm
      cases hm
  · intro text n hvalues hinteger default max value
    rw [Query.size_of_values hvalues, integerIn_eq_ok_iff hinteger]
    constructor
    · intro h
      obtain ⟨heq, hmin, hmax, hle⟩ := h
      have hvalue := hmax max rfl
      exact ⟨heq, by omega, by omega, hle⟩
    · intro h
      obtain ⟨heq, hmin, hmax, hle⟩ := h
      refine ⟨heq, by omega, ?_, hle⟩
      intro m hm
      obtain rfl := Option.some.inj hm
      omega

/-- A hexadecimal offset between blanks, a size with a leading zero, and a repeated offset. -/
theorem numeric_parameters_sample :
    (Query.parse (some "offset=+0x1F%09&size=0120")).offset = .ok 31 ∧
      (Query.parse (some "offset=+0x1F%09&size=0120")).size 60 120 = .ok 120 ∧
      (Query.parse (some "offset=1&offset=1")).offset = .error .invalid := by
  refine ⟨?_, ?_, ?_⟩
  · refine ((numeric_parameters.2 _).2.2.1 " 0x1F\t" 31 (by decide +kernel) ?_ 31).mpr (by decide)
    refine ⟨[' '], ['0', 'x', '1', 'F'], ['\t'], by decide, ?_, ?_, ?_⟩
    · unfold IsStrWhiteSpaceChar
      decide
    · unfold IsStrWhiteSpaceChar
      decide
    · exact @IntegerLiteral.radix ['0', 'x'] ['1', 'F'] 16 (by decide) (by decide) (by decide)
  · refine ((numeric_parameters.2 _).2.2.2 "0120" 120 (by decide +kernel) ?_ 60 120 120).mpr
      (by decide)
    refine ⟨[], ['0', '1', '2', '0'], [], by decide, ?_, ?_, ?_⟩
    · intro c hc
      cases hc
    · intro c hc
      cases hc
    · exact @IntegerLiteral.plain ['0', '1', '2', '0'] ⟨by decide, by decide⟩
  · exact (numeric_parameters.2 _).1 (by decide +kernel)

end PsStore
