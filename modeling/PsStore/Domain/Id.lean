import Mathlib.Data.Char
import Mathlib.Tactic.SplitIfs

set_option relaxedAutoImplicit false
set_option autoImplicit false

/-!
# The entity ids

The ids that cross the boundary of the store, as `domain/id.rs` and `domain/product_id.rs` check
them. Each id type carries its acceptance rule, so an id of another format cannot be built.

## Main definitions

* `isValidProductId` — the product SKU format.
* `ProductId`, `ConceptId`, `GameId` — the checked ids.
* `GameId.productId` — the product SKU id of a card id that is one.

## Main results

* `GameId.productId_eq_some_iff` — a card id is a product id exactly with the same text.
* `ProductId.toGameId_ne_conceptId` — no card id comes from a product and from a concept.
-/

namespace PsStore

/-- A property of every character of a text is decided along the text. -/
instance decidableForallMemText {p : Char → Prop} [DecidablePred p] (text : List Char) :
    Decidable (∀ c ∈ text, p c) :=
  List.decidableBAll p text

/-- `is_upper`. -/
def isUpper (c : Char) : Bool := decide ('A' ≤ c) && decide (c ≤ 'Z')

/-- `is_digit`: an ASCII digit. -/
def isDigit (c : Char) : Bool := decide ('0' ≤ c) && decide (c ≤ '9')

/-- The checks of the first twenty characters of a product SKU id: two upper-case letters, four
digits, a dash, four upper-case letters, five digits, and `_00-`. -/
def productIdPattern : List (Char → Bool) :=
  [isUpper, isUpper, isDigit, isDigit, isDigit, isDigit, (· == '-'),
    isUpper, isUpper, isUpper, isUpper, isDigit, isDigit, isDigit, isDigit, isDigit,
    (· == '_'), (· == '0'), (· == '0'), (· == '-')]

/-- The pattern accepts the first characters of the list, one check for each. -/
def matchesPattern : List (Char → Bool) → List Char → Bool
  | [], _ => true
  | _ :: _, [] => false
  | p :: ps, c :: cs => p c && matchesPattern ps cs

/-- True for a Sony product SKU id. The source reads bytes: every check accepts ASCII only, so
the first twenty bytes pass exactly where the first twenty characters do. -/
def isValidProductId (id : String) : Bool := matchesPattern productIdPattern id.toList

/-- A Sony product SKU id. -/
structure ProductId where
  /-- The text of the id. -/
  text : String
  /-- The text has the product SKU format. -/
  valid : isValidProductId text = true
deriving DecidableEq

/-- A Sony concept id: one or more ASCII digits. -/
structure ConceptId where
  /-- The text of the id. -/
  text : String
  /-- The text is not empty. -/
  nonempty : text ≠ ""
  /-- Every character is an ASCII digit. -/
  digits : text.toList.all isDigit = true
deriving DecidableEq

/-- The id of a game card: a product SKU id or another Sony id, never empty. -/
structure GameId where
  /-- The text of the id. -/
  text : String
  /-- The text is not empty. -/
  nonempty : text ≠ ""
deriving DecidableEq

/-- `ProductId::parse`. -/
def ProductId.parse (value : String) : Option ProductId :=
  if h : isValidProductId value = true then some ⟨value, h⟩ else none

/-- `ConceptId::parse`. -/
def ConceptId.parse (value : String) : Option ConceptId :=
  if h : value ≠ "" ∧ value.toList.all isDigit = true then some ⟨value, h.1, h.2⟩ else none

/-- `GameId::try_from`: only the empty string is invalid. -/
def GameId.tryFrom (value : String) : Option GameId :=
  if h : value ≠ "" then some ⟨value, h⟩ else none

/-- A product SKU id is not empty: the pattern reads its first character. -/
lemma ProductId.text_ne_empty (id : ProductId) : id.text ≠ "" := by
  intro h
  have hvalid := id.valid
  rw [h] at hvalid
  exact absurd hvalid (by decide)

/-- `From<ProductId> for GameId`. -/
def ProductId.toGameId (id : ProductId) : GameId := ⟨id.text, id.text_ne_empty⟩

/-- `From<ConceptId> for GameId`. -/
def ConceptId.toGameId (id : ConceptId) : GameId := ⟨id.text, id.nonempty⟩

/-- The product SKU id, when the card id is one. -/
def GameId.productId (id : GameId) : Option ProductId := ProductId.parse id.text

/-! ## Facts about the ids -/

/-- Two product ids of one text are one id. -/
lemma ProductId.eq_of_text {p q : ProductId} (h : p.text = q.text) : p = q := by
  cases p
  cases q
  simpa using h

/-- Two card ids of one text are one id. -/
lemma GameId.eq_of_text {a b : GameId} (h : a.text = b.text) : a = b := by
  cases a
  cases b
  simpa using h

/-- Parsing gives an id exactly of the same text. -/
lemma ProductId.parse_eq_some_iff {value : String} {p : ProductId} :
    ProductId.parse value = some p ↔ p.text = value := by
  unfold ProductId.parse
  constructor
  · intro h
    split_ifs at h
    cases h
    rfl
  · rintro rfl
    rw [dif_pos p.valid]

/-- Parsing the text of a product id gives the id back. -/
@[simp] lemma ProductId.parse_text (p : ProductId) : ProductId.parse p.text = some p :=
  ProductId.parse_eq_some_iff.mpr rfl

/-- Parsing gives a concept id exactly of the same text. -/
lemma ConceptId.parse_eq_some_iff {value : String} {c : ConceptId} :
    ConceptId.parse value = some c ↔ c.text = value := by
  unfold ConceptId.parse
  constructor
  · intro h
    split_ifs at h
    cases h
    rfl
  · rintro rfl
    rw [dif_pos ⟨c.nonempty, c.digits⟩]

/-- A card id parses exactly from its own text. -/
lemma GameId.tryFrom_eq_some_iff {value : String} {id : GameId} :
    GameId.tryFrom value = some id ↔ id.text = value := by
  unfold GameId.tryFrom
  constructor
  · intro h
    split_ifs at h
    cases h
    rfl
  · rintro rfl
    rw [dif_pos id.nonempty]

/-- **Product cards.** A card id is a product id exactly with the same text. -/
theorem GameId.productId_eq_some_iff {id : GameId} {p : ProductId} :
    id.productId = some p ↔ id = p.toGameId := by
  unfold GameId.productId
  rw [ProductId.parse_eq_some_iff]
  constructor
  · intro h
    exact GameId.eq_of_text h.symm
  · rintro rfl
    rfl

/-- The card id of a product is a product id. -/
@[simp] lemma ProductId.productId_toGameId (p : ProductId) : p.toGameId.productId = some p :=
  GameId.productId_eq_some_iff.mpr rfl

/-- Distinct products have distinct card ids. -/
lemma ProductId.toGameId_injective : Function.Injective ProductId.toGameId := by
  intro p q h
  exact ProductId.eq_of_text (congrArg GameId.text h)

/-- Distinct concepts have distinct card ids. -/
lemma ConceptId.toGameId_injective : Function.Injective ConceptId.toGameId := by
  rintro ⟨s, _, _⟩ ⟨t, _, _⟩ h
  obtain rfl : s = t := congrArg GameId.text h
  rfl

/-- A product SKU id starts with an upper-case letter. -/
lemma ProductId.exists_upper (p : ProductId) : ∃ c cs, p.text.toList = c :: cs ∧ isUpper c := by
  have hvalid := p.valid
  unfold isValidProductId productIdPattern at hvalid
  cases hcs : p.text.toList with
  | nil => rw [hcs] at hvalid; exact absurd hvalid (by simp [matchesPattern])
  | cons c cs =>
    rw [hcs, matchesPattern, Bool.and_eq_true] at hvalid
    exact ⟨c, cs, rfl, hvalid.1⟩

/-- The codes of the digits. -/
lemma toNat_of_isDigit {c : Char} (h : isDigit c = true) : 48 ≤ c.toNat ∧ c.toNat ≤ 57 := by
  unfold isDigit at h
  rw [Bool.and_eq_true, decide_eq_true_eq, decide_eq_true_eq] at h
  exact h

/-- No character is an upper-case letter and a digit. -/
lemma not_isUpper_of_isDigit {c : Char} (h : isDigit c = true) : isUpper c = false := by
  unfold isDigit at h
  unfold isUpper
  simp only [Bool.and_eq_true, decide_eq_true_eq] at h
  simp only [Bool.and_eq_false_iff, decide_eq_false_iff_not]
  left
  intro hA
  have hle : 'A' ≤ '9' := le_trans hA h.2
  exact absurd hle (by decide)

/-- **Products and concepts do not meet.** The card id of a product is never the card id of a
concept: the first character is a letter in one and a digit in the other. -/
theorem ProductId.toGameId_ne_conceptId (p : ProductId) (c : ConceptId) :
    p.toGameId ≠ c.toGameId := by
  intro h
  have htext : p.text = c.text := congrArg GameId.text h
  obtain ⟨ch, cs, hcs, hupper⟩ := p.exists_upper
  have hdigits := c.digits
  rw [← htext, hcs, List.all_cons, Bool.and_eq_true] at hdigits
  rw [not_isUpper_of_isDigit hdigits.1] at hupper
  exact absurd hupper (by decide)

example : isValidProductId "EP0006-PPSA04874_00-APEXLEGENDRSPWN1" = true := by decide

end PsStore
