import Mathlib.Tactic.Lemma
import PsStore.Domain.Id
import PsStore.Lib.KeyedSort

set_option relaxedAutoImplicit false
set_option autoImplicit false

/-!
# The English collation

`locale_compare_en` of `domain/js.rs`: texts compare by the primary weights of their characters,
then by accents, then by case.

## Main definitions

* `CollationKey`, `collationKey` — the weights of a character on three levels.
* `localeCompareEn` — the comparison of two texts, level by level.

## Main results

* `transCmp_localeCompareEn`, `localeCompareEn_eq_iff` — a total preorder, whose ties are the texts
  with equal keys.
* `localeCompareEn_levels` — a level counts only where the levels before it tie.
-/

namespace PsStore

/-! ## The keys of characters -/

/-- The printable ASCII characters other than digits and letters, in their primary order. -/
def asciiSymbolOrder : List Char :=
  " _-,;:!?.'\"()[]\x7b\x7d@*/\\&#%`^+<=>|~$".toList

/-- The primary weight of the first digit. Symbols come before it. -/
def digitBase : ℕ := 100

/-- The primary weight of `a`. Digits come before it. -/
def letterBase : ℕ := 200

/-- The primary weight base of every other character, after the letters. -/
def otherBase : ℕ := 1000

/-- The weights of a character. -/
structure CollationKey where
  primary : ℕ
  secondary : ℕ
  tertiary : ℕ
deriving DecidableEq

/-- The Latin-1 letters with an accent, each with its base letter and the rank of its accent. -/
def latinLetters : List (Char × Char × ℕ) :=
  let acute := 1
  let grave := 2
  let circumflex := 4
  let ring := 6
  let diaeresis := 7
  let tilde := 9
  let cedilla := 11
  [('À', 'A', grave), ('Á', 'A', acute), ('Â', 'A', circumflex), ('Ã', 'A', tilde),
    ('Ä', 'A', diaeresis), ('Å', 'A', ring), ('Ç', 'C', cedilla), ('È', 'E', grave),
    ('É', 'E', acute), ('Ê', 'E', circumflex), ('Ë', 'E', diaeresis), ('Ì', 'I', grave),
    ('Í', 'I', acute), ('Î', 'I', circumflex), ('Ï', 'I', diaeresis), ('Ñ', 'N', tilde),
    ('Ò', 'O', grave), ('Ó', 'O', acute), ('Ô', 'O', circumflex), ('Õ', 'O', tilde),
    ('Ö', 'O', diaeresis), ('Ù', 'U', grave), ('Ú', 'U', acute), ('Û', 'U', circumflex),
    ('Ü', 'U', diaeresis), ('Ý', 'Y', acute), ('à', 'a', grave), ('á', 'a', acute),
    ('â', 'a', circumflex), ('ã', 'a', tilde), ('ä', 'a', diaeresis), ('å', 'a', ring),
    ('ç', 'c', cedilla), ('è', 'e', grave), ('é', 'e', acute), ('ê', 'e', circumflex),
    ('ë', 'e', diaeresis), ('ì', 'i', grave), ('í', 'i', acute), ('î', 'i', circumflex),
    ('ï', 'i', diaeresis), ('ñ', 'n', tilde), ('ò', 'o', grave), ('ó', 'o', acute),
    ('ô', 'o', circumflex), ('õ', 'o', tilde), ('ö', 'o', diaeresis), ('ù', 'u', grave),
    ('ú', 'u', acute), ('û', 'u', circumflex), ('ü', 'u', diaeresis), ('ý', 'y', acute),
    ('ÿ', 'y', diaeresis)]

/-- The base letter and the accent rank of a Latin-1 letter; any other character is its own base. -/
def latinBase (c : Char) : Char × ℕ := (latinLetters.lookup c).getD (c, 0)

/-- `char::is_control`: the general category `Cc`. -/
def isControl (c : Char) : Bool :=
  decide (c.toNat < 0x20) || (decide (0x7f ≤ c.toNat) && decide (c.toNat ≤ 0x9f))

/-- The collation key of one character. Control characters are ignorable. -/
def collationKey (c : Char) : Option CollationKey :=
  if isControl c then none else
  match asciiSymbolOrder.findIdx? (· == c) with
  | some index => some ⟨index, 0, 0⟩
  | none =>
    if isDigit c then some ⟨digitBase + (c.toNat - '0'.toNat), 0, 0⟩ else
    let (base, accent) := latinBase c
    if base.isAlpha then
      let lower := base.toLower
      some ⟨letterBase + lower.toNat - 'a'.toNat, accent, if base.isUpper then 1 else 0⟩
    else some ⟨otherBase + c.toNat, 0, 0⟩

/-! ## The comparison of texts -/

/-- The keys of a text. -/
def collationKeys (text : String) : List CollationKey := text.toList.filterMap collationKey

/-- The comparison of two texts on one level. -/
def compareLevel (pick : CollationKey → ℕ) (a b : String) : Ordering :=
  compare ((collationKeys a).map pick) ((collationKeys b).map pick)

/-- `a.localeCompare(b, 'en')`: the primary weights of the whole texts first, then the accents, and
then case. -/
def localeCompareEn (a b : String) : Ordering :=
  ((compareLevel CollationKey.primary a b).then
    (compareLevel CollationKey.secondary a b)).then (compareLevel CollationKey.tertiary a b)

/-- A level is a total preorder. -/
instance transCmp_compareLevel (pick : CollationKey → ℕ) : Std.TransCmp (compareLevel pick) :=
  transCmp_comp compare fun text => (collationKeys text).map pick

/-- **The English collation is a total preorder.** -/
instance transCmp_localeCompareEn : Std.TransCmp localeCompareEn :=
  inferInstanceAs (Std.TransCmp (compareLex
    (compareLex (compareLevel CollationKey.primary) (compareLevel CollationKey.secondary))
    (compareLevel CollationKey.tertiary)))

/-- The ties of a level. -/
lemma compareLevel_eq_iff {pick : CollationKey → ℕ} {a b : String} :
    compareLevel pick a b = .eq ↔ (collationKeys a).map pick = (collationKeys b).map pick :=
  Std.LawfulEqOrd.compare_eq_iff_eq

/-- Keys with the same weights on every level are the same keys. -/
lemma eq_of_map_levels {ks ls : List CollationKey}
    (hprimary : ks.map CollationKey.primary = ls.map CollationKey.primary)
    (hsecondary : ks.map CollationKey.secondary = ls.map CollationKey.secondary)
    (htertiary : ks.map CollationKey.tertiary = ls.map CollationKey.tertiary) : ks = ls := by
  induction ks generalizing ls with
  | nil => exact (List.map_eq_nil_iff.mp hprimary.symm).symm
  | cons k ks ih =>
    cases ls with
    | nil => cases hprimary
    | cons l ls =>
      obtain ⟨h1, hprimary⟩ := List.cons.inj hprimary
      obtain ⟨h2, hsecondary⟩ := List.cons.inj hsecondary
      obtain ⟨h3, htertiary⟩ := List.cons.inj htertiary
      rw [ih hprimary hsecondary htertiary]
      cases k
      cases l
      simp_all

/-- **The ties of the collation** are the texts with equal keys. -/
theorem localeCompareEn_eq_iff {a b : String} :
    localeCompareEn a b = .eq ↔ collationKeys a = collationKeys b := by
  unfold localeCompareEn
  simp only [Ordering.then_eq_eq, compareLevel_eq_iff]
  constructor
  · intro h
    obtain ⟨⟨hprimary, hsecondary⟩, htertiary⟩ := h
    exact eq_of_map_levels hprimary hsecondary htertiary
  · intro h
    rw [h]
    exact ⟨⟨rfl, rfl⟩, rfl⟩

/-- **A level counts only where the levels before it tie.** -/
theorem localeCompareEn_levels (a b : String) :
    (compareLevel CollationKey.primary a b ≠ .eq →
      localeCompareEn a b = compareLevel CollationKey.primary a b) ∧
    (compareLevel CollationKey.primary a b = .eq →
      compareLevel CollationKey.secondary a b ≠ .eq →
      localeCompareEn a b = compareLevel CollationKey.secondary a b) ∧
    (compareLevel CollationKey.primary a b = .eq →
      compareLevel CollationKey.secondary a b = .eq →
      localeCompareEn a b = compareLevel CollationKey.tertiary a b) := by
  unfold localeCompareEn
  refine ⟨?_, ?_, ?_⟩
  · intro hprimary
    cases h : compareLevel CollationKey.primary a b with
    | eq => exact absurd h hprimary
    | lt => rfl
    | gt => rfl
  · intro hprimary hsecondary
    rw [hprimary]
    cases h : compareLevel CollationKey.secondary a b with
    | eq => exact absurd h hsecondary
    | lt => rfl
    | gt => rfl
  · intro hprimary hsecondary
    rw [hprimary, hsecondary]
    rfl

end PsStore
