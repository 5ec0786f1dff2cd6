import Mathlib.Algebra.Order.Group.Unbundled.Int
import Mathlib.Data.List.DropRight
import PsStore.Lib.Choice

set_option relaxedAutoImplicit false
set_option autoImplicit false

/-!
# The match of a critic score

`domain/critic_match.rs`: the title in its normal form, and the one candidate that is the same game.
A text is a list of characters. The Unicode data of the source is a parameter.

## Main definitions

* `UnicodeData` — the decomposition, the lower case and the categories.
* `collapse`, `stripEditionSuffixes`, `normalizeTitle` — the normal form of a title.
* `matchCriticScore` — the score of the one qualified candidate.

## Main results

* `isWithinOneYear_iff` — the distance of two years never overflows.
* `matchCriticScore_unambiguous` — only an unambiguous candidate gives its score.
-/

namespace PsStore

/-! ## The data -/

/-- The operations of ICU and of the standard library on characters. -/
structure UnicodeData where
  /-- The compatibility decomposition (NFKD). -/
  nfkd : List Char → List Char
  /-- The full lower case mapping, with the final sigma rule. -/
  toLowercase : List Char → List Char
  /-- The general category is one of the letters. -/
  isLetter : Char → Bool
  /-- The general category is one of the numbers. -/
  isNumber : Char → Bool

/-- An aggregated critic score in the range 0 to 100. -/
structure CriticScore where
  value : UInt8
  le_hundred : value ≤ 100
  deriving DecidableEq

/-- `none` for a value above 100. -/
def CriticScore.new (value : UInt8) : Option CriticScore :=
  if h : value ≤ 100 then some ⟨value, h⟩ else none

/-- One game from the critic score provider, decoded and narrowed. -/
structure CriticCandidate where
  name : String
  /-- The UTC calendar year of the first release. -/
  releaseYear : Option Int32
  /-- The critic score. -/
  rating : Option CriticScore
  /-- The number of critic reviews behind the score, 0 when unknown. -/
  ratingCount : UInt64

/-- A candidate needs at least this many critic reviews behind its score. -/
def minCriticCount : UInt64 := 3

/-- The normalised trailing phrases that name a store edition or a platform. -/
def editionSuffixes : List String :=
  ["ps5 edition",
    "playstation 5 edition",
    "ps5 version",
    "digital edition",
    "standard edition",
    "deluxe edition",
    "digital deluxe edition",
    "ultimate edition",
    "premium edition",
    "complete edition",
    "definitive edition",
    "special edition",
    "gold edition",
    "collectors edition",
    "game of the year edition",
    "goty edition",
    "ps4 ps5",
    "ps4 and ps5",
    "ps5",
    "playstation 5"]

/-! ## The letters of a title -/

/-- The symbols that go before the decomposition, which would turn `™` into `TM`. -/
def isRemovedSymbol (c : Char) : Bool :=
  c == '™' || c == '®' || c == '©' || c == '\x27' || c == '\u2019'

/-- The combining diacritical marks U+0300 to U+036F. -/
def isCombiningMark (c : Char) : Bool := '\u0300' ≤ c && c ≤ '\u036F'

/-- `&` becomes the word `and`. -/
def replaceAmpersand (text : List Char) : List Char :=
  text.flatMap fun c => if c == '&' then " and ".toList else [c]

namespace UnicodeData

/-- The data of ASCII text. -/
def ascii : UnicodeData where
  nfkd := id
  toLowercase := List.map Char.toLower
  isLetter := Char.isAlpha
  isNumber := Char.isDigit

variable (unicode : UnicodeData)

/-- A letter or a number. -/
def isWordChar (c : Char) : Bool := unicode.isLetter c || unicode.isNumber c

/-- The decomposed text in lower case, without combining marks. -/
def fold (text : List Char) : List Char :=
  unicode.toLowercase ((unicode.nfkd text).filter fun c => !isCombiningMark c)

/-- The text that is collapsed into words. -/
def lower (name : List Char) : List Char :=
  replaceAmpersand (unicode.fold (name.filter fun c => !isRemovedSymbol c))

/-- One character of the loop: the words so far, and whether a gap is open after them. -/
def collapseStep : List Char × Bool → Char → List Char × Bool
  | (words, gap), c =>
    if unicode.isWordChar c then
      ((if gap && !words.isEmpty then words ++ [' '] else words) ++ [c], false)
    else
      (words, true)

/-- Each run of other characters becomes one space, and the ends are trimmed. -/
def collapse (text : List Char) : List Char :=
  (text.foldl unicode.collapseStep ([], false)).1

end UnicodeData

/-! ## Edition suffixes -/

/-- The length of a suffix that ends the text after a space, and of the rest before them. The
suffixes are ASCII, so characters count as the bytes of the source. -/
def suffixMatch (current suffix : List Char) : Option (ℕ × ℕ) := do
  let beforeSuffix ← current.dropSuffix? suffix
  let rest ← beforeSuffix.dropSuffix? [' ']
  return (suffix.length, rest.length)

/-- The longest match of the suffixes. -/
def longestSuffix (suffixes : List (List Char)) (current : List Char) : Option (ℕ × ℕ) :=
  maxByKey Prod.fst (suffixes.filterMap (suffixMatch current))

/-- `truncate` to the rest, and `trim_end_matches(' ')`. -/
def truncateTrimmed (current : List Char) (restLength : ℕ) : List Char :=
  (current.take restLength).rdropWhile (· == ' ')

/-- The loop of `strip_edition_suffixes`, for at most `fuel` rounds; `none` when they run out. -/
def stripLoop (suffixes : List (List Char)) : ℕ → List Char → Option (List Char)
  | 0, _ => none
  | fuel + 1, current =>
    match longestSuffix suffixes current with
    | none => some current
    | some (_, restLength) => stripLoop suffixes fuel (truncateTrimmed current restLength)

/-- Removes edition suffixes from the end, the longest match first, until no suffix matches. Each
round removes a character or more. -/
def stripEditionSuffixes (current : List Char) : List Char :=
  (stripLoop (editionSuffixes.map String.toList) (current.length + 1) current).getD current

/-- The title in lower case, without accents, punctuation, and edition suffixes. -/
def normalizeTitle (unicode : UnicodeData) (name : String) : String :=
  String.ofList (stripEditionSuffixes (unicode.collapse (unicode.lower name.toList)))

/-! ## The candidate -/

/-- The release is within one year of the year of the game. -/
def isWithinOneYear (release year : Int32) : Bool :=
  decide ((release.toInt64 - year.toInt64).abs ≤ 1)

/-- The candidate is the game of that normalised title and year, with a trusted score. -/
def CriticCandidate.qualifies (unicode : UnicodeData) (name : String) (year : Int32)
    (candidate : CriticCandidate) : Bool :=
  candidate.releaseYear.any (isWithinOneYear · year) &&
    candidate.rating.isSome &&
    decide (minCriticCount ≤ candidate.ratingCount) &&
    normalizeTitle unicode candidate.name == name

/-- The critic score for a game: exactly one candidate must qualify, two are ambiguous. -/
def matchCriticScore (unicode : UnicodeData) (title : String) (year : Int32)
    (candidates : List CriticCandidate) : Option CriticScore :=
  let name := normalizeTitle unicode title
  if name.isEmpty then
    none
  else
    match candidates.filter (CriticCandidate.qualifies unicode name year) with
    | [] => none
    | [only] => only.rating
    | _ :: _ :: _ => none

/-! ## The distance of two years -/

/-- The absolute value of an integer is exact, except at the least one. -/
lemma toInt_abs {a : Int64} (h : -2 ^ 63 < a.toInt) : a.abs.toInt = |a.toInt| := by
  have hmin : a.toBitVec ≠ BitVec.intMin 64 := by
    intro heq
    have hleast : a.toInt = (BitVec.intMin 64).toInt := congrArg BitVec.toInt heq
    rw [hleast] at h
    exact absurd h (by decide)
  have habs : a.toBitVec.abs.toInt = a.toBitVec.toInt.natAbs :=
    BitVec.toInt_abs_eq_natAbs_of_ne_intMin hmin
  rw [Int.natCast_natAbs] at habs
  exact habs

/-- Two `i32` values widen to `i64` values whose difference does not wrap. -/
lemma toInt_sub_toInt64 (a b : Int32) : (a.toInt64 - b.toInt64).toInt = a.toInt - b.toInt := by
  have ha := a.toInt_lt
  have ha' := a.le_toInt
  have hb := b.toInt_lt
  have hb' := b.le_toInt
  rw [Int64.toInt_sub, Int32.toInt_toInt64, Int32.toInt_toInt64]
  apply Int.bmod_eq_of_le_mul_two
  · omega
  · omega

/-- **The year distance.** It is the distance of the two years as integers, for every two `i32`
values. -/
theorem isWithinOneYear_iff (release year : Int32) :
    isWithinOneYear release year = true ↔ |release.toInt - year.toInt| ≤ 1 := by
  have hdiff := toInt_sub_toInt64 release year
  have habs : (release.toInt64 - year.toInt64).abs.toInt = |release.toInt - year.toInt| := by
    rw [← hdiff]
    apply toInt_abs
    have hrelease := release.le_toInt
    have hyear := year.toInt_lt
    rw [hdiff]
    omega
  have hone : Int64.toInt 1 = 1 := by decide
  unfold isWithinOneYear
  rw [decide_eq_true_iff, Int64.le_iff_toInt_le, habs, hone]

/-! ## The qualified candidate -/

/-- The candidate is the game of that title and year, and its score is trustworthy. -/
structure CriticCandidate.Qualified (unicode : UnicodeData) (title : String) (year : Int32)
    (candidate : CriticCandidate) : Prop where
  /-- Something is left of the title in its normal form. -/
  titled : normalizeTitle unicode title ≠ ""
  /-- The name is the title, in the normal form. -/
  named : normalizeTitle unicode candidate.name = normalizeTitle unicode title
  /-- The release year is the year of the game, the one before or the one after. -/
  dated : ∃ release : Int32, candidate.releaseYear = some release ∧
    |release.toInt - year.toInt| ≤ 1
  /-- There is a score. -/
  rated : ∃ score, candidate.rating = some score
  /-- At least three critic reviews are behind the score. -/
  reviewed : 3 ≤ candidate.ratingCount.toNat

variable {unicode : UnicodeData} {title : String} {year : Int32}

/-- The test of the source, for a title that has a normal form. -/
lemma CriticCandidate.qualifies_iff (htitle : normalizeTitle unicode title ≠ "")
    (candidate : CriticCandidate) :
    candidate.qualifies unicode (normalizeTitle unicode title) year = true ↔
      candidate.Qualified unicode title year := by
  have hcount : minCriticCount ≤ candidate.ratingCount ↔ 3 ≤ candidate.ratingCount.toNat := by
    rw [UInt64.le_iff_toNat_le]
    rfl
  unfold CriticCandidate.qualifies
  rw [Bool.and_eq_true, Bool.and_eq_true, Bool.and_eq_true, Option.any_eq_true,
    Option.isSome_iff_exists, decide_eq_true_iff, beq_iff_eq, hcount]
  constructor
  · intro h
    obtain ⟨⟨⟨⟨release, hrelease, hyear⟩, hrated⟩, hreviewed⟩, hnamed⟩ := h
    have hdistance := (isWithinOneYear_iff release year).mp hyear
    exact ⟨htitle, hnamed, ⟨release, hrelease, hdistance⟩, hrated, hreviewed⟩
  · intro h
    obtain ⟨release, hrelease, hdistance⟩ := h.dated
    have hyear := (isWithinOneYear_iff release year).mpr hdistance
    exact ⟨⟨⟨⟨release, hrelease, hyear⟩, h.rated⟩, h.reviewed⟩, h.named⟩

/-- No candidate matches a title that normalises to nothing. -/
lemma matchCriticScore_of_empty (htitle : normalizeTitle unicode title = "")
    (candidates : List CriticCandidate) :
    matchCriticScore unicode title year candidates = none := by
  unfold matchCriticScore
  rw [htitle]
  rfl

/-- The score is the one of the sole candidate that the test accepts. -/
lemma matchCriticScore_eq_sole (htitle : normalizeTitle unicode title ≠ "")
    (candidates : List CriticCandidate) :
    matchCriticScore unicode title year candidates =
      (sole (candidates.filter
        (CriticCandidate.qualifies unicode (normalizeTitle unicode title) year))).bind
          CriticCandidate.rating := by
  have hne : (normalizeTitle unicode title).isEmpty = false := by
    rw [← Bool.not_eq_true, String.isEmpty_iff]
    exact htitle
  unfold matchCriticScore
  simp only [hne, Bool.false_eq_true, if_false]
  split
  · next hfilter => rw [hfilter]; rfl
  · next only hfilter => rw [hfilter]; rfl
  · next hfilter => rw [hfilter]; rfl

/-! ## The match -/

/-- **Only an unambiguous match.** For every title and year the candidates give the score of the
sole qualified one, and none where no candidate or more than one qualifies; neither their order nor
an unqualified candidate matters. A title that normalises to nothing matches no candidate, and the
year distance is right for every two `i32` values.

**Proof sketch.** The code filters the candidates and takes the element of a filtered list of one,
which is the sole qualified candidate (`choosesSole_filter`): a filter does not see the others, and
a permutation of the candidates permutes what it keeps. The year distance is computed in `i64`,
where it cannot overflow. -/
theorem matchCriticScore_unambiguous (unicode : UnicodeData) (title : String) (year : Int32) :
    ChoosesSole (CriticCandidate.Qualified unicode title year) CriticCandidate.rating
        (matchCriticScore unicode title year) ∧
      (normalizeTitle unicode title = "" →
        ∀ candidates, matchCriticScore unicode title year candidates = none) ∧
      ∀ release, isWithinOneYear release year = true ↔ |release.toInt - year.toInt| ≤ 1 := by
  refine ⟨?_, matchCriticScore_of_empty, fun release => isWithinOneYear_iff release year⟩
  by_cases htitle : normalizeTitle unicode title = ""
  · have hnone : matchCriticScore unicode title year = fun _ => none :=
      funext (matchCriticScore_of_empty htitle)
    rw [hnone]
    exact choosesSole_none fun candidate hqualified => hqualified.titled htitle
  · rw [funext (@matchCriticScore_eq_sole _ _ year htitle)]
    exact choosesSole_filter (CriticCandidate.qualifies_iff htitle) fun _ h => h.rated

/-- A title of symbols alone matches no candidate. -/
theorem matchCriticScore_unambiguous_symbols :
    normalizeTitle UnicodeData.ascii "™ ®" = "" ∧
      ∀ candidates, matchCriticScore UnicodeData.ascii "™ ®" 2023 candidates = none := by
  have hempty : normalizeTitle UnicodeData.ascii "™ ®" = "" := by decide +kernel
  exact ⟨hempty, (matchCriticScore_unambiguous UnicodeData.ascii "™ ®" 2023).2.1 hempty⟩

example : matchCriticScore UnicodeData.ascii "Synthetic Quest - PS5 Edition" 2024
    [⟨"Synthetic Quest", some 2023, CriticScore.new 84, 12⟩,
      ⟨"Synthetic Quest", some 2023, CriticScore.new 90, 2⟩] = CriticScore.new 84 := by
  decide +kernel

end PsStore
