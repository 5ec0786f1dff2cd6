import PsStore.Domain.Id
import PsStore.Domain.Js
import PsStore.Lib.Binary64

set_option relaxedAutoImplicit false
set_option autoImplicit false

/-!
# JavaScript numbers

`js_number` of `http/params.rs`: a text as JavaScript `Number(text)` reads it. The source reads
bytes; every byte that it compares is ASCII, so the model reads characters. The standard parser of
decimal literals rounds correctly.

## Main definitions

* `jsNumber`, `isDecimalLiteral`, `radixNumber` — the functions of the source.
* `StringNumericLiteral` — the grammar of JavaScript.

## Main results

* `jsNumber_isSome_iff` — the texts that are numbers are the texts of the grammar.
-/

namespace PsStore

/-! ## The reader -/

/-- `char::to_digit`. -/
def toDigit (radix : ℕ) (c : Char) : Option ℕ :=
  let value :=
    if '0' ≤ c ∧ c ≤ '9' then some (c.toNat - '0'.toNat)
    else if 'a' ≤ c ∧ c ≤ 'z' then some (c.toNat - 'a'.toNat + 10)
    else if 'A' ≤ c ∧ c ≤ 'Z' then some (c.toNat - 'A'.toNat + 10)
    else none
  value.filter (· < radix)

/-- One more digit behind a value. -/
def readDigit (radix : ℕ) (value : Binary64) (c : Char) : Option Binary64 :=
  (toDigit radix c).map fun digit : ℕ =>
    (value.mul (Binary64.round (radix : ℚ))).add (Binary64.round (digit : ℚ))

/-- Digits of one radix, at least one. The value can lose precision above 2^53. -/
def radixNumber (digits : List Char) (radix : ℕ) : Option Binary64 :=
  if digits = [] then none else digits.foldlM (readDigit radix) (Binary64.round 0)

/-- The prefixes of the literals that are not decimal. -/
def radixPrefixes : List (List Char × ℕ) :=
  [(['0', 'x'], 16), (['0', 'X'], 16), (['0', 'o'], 8), (['0', 'O'], 8), (['0', 'b'], 2),
    (['0', 'B'], 2)]

/-- The digits after the first prefix of the text, and their radix. -/
def radixDigits (text : List Char) : Option (List Char × ℕ) :=
  radixPrefixes.findSome? fun entry =>
    (entry.1.isPrefixOf? text).map fun digits => (digits, entry.2)

/-- The digits that come next, and what follows them. -/
def digitRun (text : List Char) : List Char × List Char :=
  (text.takeWhile isDigit, text.dropWhile isDigit)

/-- The digits before the point, those after it, and what follows the mantissa. -/
def mantissa (text : List Char) : List Char × List Char × List Char :=
  let (whole, rest) := digitRun text
  match rest with
  | '.' :: tail =>
    let (fraction, rest) := digitRun tail
    (whole, fraction, rest)
  | rest => (whole, [], rest)

/-- The text without a sign at its front. -/
def dropSign : List Char → List Char
  | '+' :: rest => rest
  | '-' :: rest => rest
  | rest => rest

/-- `digits [. digits] [e|E [+|-] digits]`, with at least one mantissa digit. -/
def isDecimalLiteral (text : List Char) : Bool :=
  let (whole, fraction, rest) := mantissa text
  if whole.length + fraction.length = 0 then false
  else match rest with
    | [] => true
    | c :: tail =>
      if c = 'e' ∨ c = 'E' then
        let (digits, rest) := digitRun (dropSign tail)
        if digits.length = 0 then false else decide (rest = [])
      else false

/-- The value of digits of a radix. -/
def radixValue (radix : ℕ) (digits : List Char) : ℕ :=
  digits.foldl (fun value c => value * radix + (toDigit radix c).getD 0) 0

/-- The value of an exponent part. -/
def exponentValue : List Char → ℤ
  | _ :: '-' :: digits => -radixValue 10 digits
  | _ :: '+' :: digits => radixValue 10 digits
  | _ :: digits => radixValue 10 digits
  | [] => 0

/-- `str::parse::<f64>` of a decimal literal: the exact value, rounded once. -/
def parseDecimal (text : List Char) : Binary64 :=
  let (whole, fraction, rest) := mantissa text
  Binary64.round
    ((radixValue 10 (whole ++ fraction) : ℚ) * 10 ^ (exponentValue rest - fraction.length))

/-- The sign of a text, and the text without it. -/
def splitSign : List Char → ℚ × List Char
  | '+' :: rest => (1, rest)
  | '-' :: rest => (-1, rest)
  | text => (1, text)

/-- The number of a trimmed text. -/
def trimmedNumber (text : List Char) : Option Binary64 :=
  if text = [] then some (Binary64.round 0)
  else match radixDigits text with
    | some (digits, radix) => radixNumber digits radix
    | none =>
      let (sign, unsigned) := splitSign text
      if unsigned = "Infinity".toList then
        some ((Binary64.round sign).mul (Binary64.infinite false))
      else if isDecimalLiteral unsigned then
        some ((Binary64.round sign).mul (parseDecimal unsigned))
      else none

/-- JavaScript `Number(text)`: `none` where JavaScript gives NaN. -/
def jsNumber (text : List Char) : Option Binary64 := trimmedNumber (jsTrim text)

/-! ## The grammar -/

/-- One or more decimal digits. -/
def DecimalDigits (text : List Char) : Prop := text ≠ [] ∧ ∀ c ∈ text, isDigit c = true

/-- `e` or `E`, an optional sign, and digits. -/
inductive ExponentPart : List Char → Prop
  | mk {mark : Char} {sign digits : List Char} (hmark : mark ∈ ['e', 'E'])
      (hsign : sign ∈ [[], ['+'], ['-']]) (hdigits : DecimalDigits digits) :
      ExponentPart (mark :: (sign ++ digits))

/-- A decimal literal without a sign. -/
inductive StrUnsignedDecimalLiteral : List Char → Prop
  | infinity : StrUnsignedDecimalLiteral "Infinity".toList
  | point {whole fraction exponent : List Char} (hwhole : DecimalDigits whole)
      (hfraction : fraction = [] ∨ DecimalDigits fraction)
      (hexponent : exponent = [] ∨ ExponentPart exponent) :
      StrUnsignedDecimalLiteral (whole ++ '.' :: (fraction ++ exponent))
  | fraction {fraction exponent : List Char} (hfraction : DecimalDigits fraction)
      (hexponent : exponent = [] ∨ ExponentPart exponent) :
      StrUnsignedDecimalLiteral ('.' :: (fraction ++ exponent))
  | whole {whole exponent : List Char} (hwhole : DecimalDigits whole)
      (hexponent : exponent = [] ∨ ExponentPart exponent) :
      StrUnsignedDecimalLiteral (whole ++ exponent)

/-- A decimal literal with an optional sign. -/
inductive StrDecimalLiteral : List Char → Prop
  | plain {text : List Char} (h : StrUnsignedDecimalLiteral text) : StrDecimalLiteral text
  | positive {text : List Char} (h : StrUnsignedDecimalLiteral text) :
      StrDecimalLiteral ('+' :: text)
  | negative {text : List Char} (h : StrUnsignedDecimalLiteral text) :
      StrDecimalLiteral ('-' :: text)

/-- The digits of a radix. -/
def radixDigitChars : ℕ → List Char
  | 16 => "0123456789abcdefABCDEF".toList
  | 8 => "01234567".toList
  | 2 => "01".toList
  | _ => []

/-- A prefix and one or more digits of its radix, without a sign. -/
inductive NonDecimalIntegerLiteral : List Char → Prop
  | mk {start digits : List Char} {radix : ℕ} (hradix : (start, radix) ∈ radixPrefixes)
      (hne : digits ≠ []) (hdigits : ∀ c ∈ digits, c ∈ radixDigitChars radix) :
      NonDecimalIntegerLiteral (start ++ digits)

/-- A character of `WhiteSpace` or `LineTerminator`. -/
def IsStrWhiteSpaceChar (c : Char) : Prop :=
  c ∈ ['\t', '\x0b', '\x0c', '\ufeff', '\n', '\r', '\u2028', '\u2029'] ∨
    isSpaceSeparator c = true

/-- **The grammar of `Number(text)`**: white space, and a literal in it or nothing. -/
inductive StringNumericLiteral : List Char → Prop
  | mk {front body back : List Char} (hfront : ∀ c ∈ front, IsStrWhiteSpaceChar c)
      (hback : ∀ c ∈ back, IsStrWhiteSpaceChar c)
      (hbody : body = [] ∨ StrDecimalLiteral body ∨ NonDecimalIntegerLiteral body) :
      StringNumericLiteral (front ++ body ++ back)

/-! ## Digits -/

/-- The digits that come next are the ones before another character. -/
lemma digitRun_append {digits rest : List Char} (hdigits : ∀ c ∈ digits, isDigit c = true)
    (hrest : ∀ c ∈ rest.head?, isDigit c = false) : digitRun (digits ++ rest) = (digits, rest) := by
  unfold digitRun
  rw [List.takeWhile_append_of_pos hdigits, List.dropWhile_append_of_pos hdigits]
  cases rest with
  | nil => simp
  | cons c tail =>
    have hc : ¬ isDigit c = true := by
      rw [hrest c rfl]
      decide
    rw [List.takeWhile_cons_of_neg hc, List.dropWhile_cons_of_neg hc, List.append_nil]

/-- The digits that come next and what follows them make the text. -/
lemma digitRun_spec (text : List Char) :
    text = (digitRun text).1 ++ (digitRun text).2 ∧ (∀ c ∈ (digitRun text).1, isDigit c = true) ∧
      ∀ c ∈ (digitRun text).2.head?, isDigit c = false := by
  refine ⟨List.takeWhile_append_dropWhile.symm, ?_, ?_⟩
  · intro c hc
    exact List.mem_takeWhile_imp hc
  · intro c hc
    have hnot := List.head?_dropWhile_not isDigit text
    unfold digitRun at hc
    rw [Option.mem_def.mp hc] at hnot
    simpa using hnot

/-- An exponent part starts with its mark. -/
lemma ExponentPart.head {text : List Char} (h : ExponentPart text) :
    ∃ c tail, text = c :: tail ∧ (c = 'e' ∨ c = 'E') := by
  obtain ⟨hmark, -, -⟩ := h
  exact ⟨_, _, rfl, List.mem_pair.mp hmark⟩

/-- What follows a mantissa is not read as a part of it. -/
lemma head_of_exponent {exponent : List Char} (h : exponent = [] ∨ ExponentPart exponent) :
    ∀ c ∈ exponent.head?, isDigit c = false ∧ c ≠ '.' := by
  intro c hc
  rcases h with rfl | h
  · cases hc
  · obtain ⟨mark, tail, rfl, rfl | rfl⟩ := h.head
    · obtain rfl := Option.some.inj hc
      decide
    · obtain rfl := Option.some.inj hc
      decide

/-- A mantissa with a point is read. -/
lemma mantissa_point {whole fraction rest : List Char} (hwhole : ∀ c ∈ whole, isDigit c = true)
    (hfraction : ∀ c ∈ fraction, isDigit c = true) (hrest : ∀ c ∈ rest.head?, isDigit c = false) :
    mantissa (whole ++ '.' :: (fraction ++ rest)) = (whole, fraction, rest) := by
  have hpoint : ∀ c ∈ ('.' :: (fraction ++ rest)).head?, isDigit c = false := by
    intro c hc
    obtain rfl := Option.some.inj hc
    decide
  unfold mantissa
  rw [digitRun_append hwhole hpoint]
  show (whole, (digitRun (fraction ++ rest)).1, (digitRun (fraction ++ rest)).2) = _
  rw [digitRun_append hfraction hrest]

/-- A mantissa without a point is read. -/
lemma mantissa_whole {whole rest : List Char} (hwhole : ∀ c ∈ whole, isDigit c = true)
    (hrest : ∀ c ∈ rest.head?, isDigit c = false ∧ c ≠ '.') :
    mantissa (whole ++ rest) = (whole, [], rest) := by
  unfold mantissa
  rw [digitRun_append hwhole fun c hc => (hrest c hc).1]
  dsimp only
  split
  · rename_i tail
    exact absurd rfl (hrest '.' rfl).2
  · rfl

/-- The parts of a mantissa make the text. -/
lemma mantissa_spec (text : List Char) :
    (∀ c ∈ (mantissa text).1, isDigit c = true) ∧ (∀ c ∈ (mantissa text).2.1, isDigit c = true) ∧
      (text = (mantissa text).1 ++ '.' :: ((mantissa text).2.1 ++ (mantissa text).2.2) ∨
        ((mantissa text).2.1 = [] ∧ text = (mantissa text).1 ++ (mantissa text).2.2)) := by
  obtain ⟨htext, hwhole, -⟩ := digitRun_spec text
  unfold mantissa
  generalize digitRun text = run at htext hwhole
  obtain ⟨whole, rest⟩ := run
  dsimp only at htext hwhole ⊢
  split
  · rename_i tail
    obtain ⟨htail, hfraction, -⟩ := digitRun_spec tail
    refine ⟨hwhole, hfraction, Or.inl ?_⟩
    dsimp only
    rw [← htail, htext]
  · exact ⟨hwhole, fun c hc => (List.not_mem_nil hc).elim, Or.inr ⟨rfl, htext⟩⟩

/-! ## Decimal literals -/

/-- The rest of a decimal literal after its mantissa. -/
def isExponent : List Char → Bool
  | [] => true
  | c :: tail =>
    if c = 'e' ∨ c = 'E' then
      if (digitRun (dropSign tail)).1.length = 0 then false
      else decide ((digitRun (dropSign tail)).2 = [])
    else false

/-- A decimal literal has a digit in its mantissa, and nothing but an exponent after it. -/
lemma isDecimalLiteral_eq (text : List Char) :
    isDecimalLiteral text = (decide (¬((mantissa text).1 = [] ∧ (mantissa text).2.1 = [])) &&
      isExponent (mantissa text).2.2) := by
  unfold isDecimalLiteral
  generalize mantissa text = parts
  obtain ⟨whole, fraction, rest⟩ := parts
  dsimp only
  by_cases h : whole.length + fraction.length = 0
  · rw [if_pos h]
    have hwhole : whole = [] := List.eq_nil_of_length_eq_zero (by omega)
    have hfraction : fraction = [] := List.eq_nil_of_length_eq_zero (by omega)
    simp [hwhole, hfraction]
  · rw [if_neg h]
    have hne : ¬(whole = [] ∧ fraction = []) := by
      rintro ⟨rfl, rfl⟩
      exact h rfl
    rw [decide_eq_true hne, Bool.true_and]
    cases rest <;> rfl

/-- A text starts with an optional sign. -/
lemma dropSign_spec (text : List Char) :
    ∃ sign ∈ [[], ['+'], ['-']], text = sign ++ dropSign text := by
  unfold dropSign
  split
  · exact ⟨['+'], by simp, rfl⟩
  · exact ⟨['-'], by simp, rfl⟩
  · exact ⟨[], by simp, rfl⟩

/-- A digit is no sign. -/
lemma dropSign_of_isDigit {c : Char} (h : isDigit c = true) (rest : List Char) :
    dropSign (c :: rest) = c :: rest := by
  unfold dropSign
  split
  · rename_i heq
    obtain ⟨rfl, -⟩ := List.cons.inj heq
    exact absurd h (by decide)
  · rename_i heq
    obtain ⟨rfl, -⟩ := List.cons.inj heq
    exact absurd h (by decide)
  · rfl

/-- The digits after an optional sign. -/
lemma dropSign_append {sign digits : List Char} (hsign : sign ∈ [[], ['+'], ['-']])
    (hdigits : DecimalDigits digits) : dropSign (sign ++ digits) = digits := by
  simp only [List.mem_cons, List.not_mem_nil, or_false] at hsign
  rcases hsign with rfl | rfl | rfl
  · obtain ⟨hne, hall⟩ := hdigits
    cases digits with
    | nil => exact absurd rfl hne
    | cons c digits => exact dropSign_of_isDigit (hall c List.mem_cons_self) digits
  · rfl
  · rfl

/-- A text of digits alone is one run of digits. -/
lemma digitRun_of_digits {digits : List Char} (hdigits : ∀ c ∈ digits, isDigit c = true) :
    digitRun digits = (digits, []) := by
  have hread := @digitRun_append digits [] hdigits (fun c hc => nomatch hc)
  rwa [List.append_nil] at hread

/-- The rest of a decimal literal is nothing or an exponent part. -/
lemma isExponent_iff (text : List Char) :
    isExponent text = true ↔ text = [] ∨ ExponentPart text := by
  constructor
  · intro h
    cases text with
    | nil => exact Or.inl rfl
    | cons c tail =>
      rw [isExponent] at h
      split_ifs at h with hmark hdigits
      obtain ⟨sign, hsign, htail⟩ := dropSign_spec tail
      obtain ⟨hsplit, hall, -⟩ := digitRun_spec (dropSign tail)
      rw [of_decide_eq_true h, List.append_nil] at hsplit
      rw [← hsplit] at hdigits hall
      rw [htail]
      exact Or.inr (.mk (List.mem_pair.mpr hmark) hsign
        ⟨fun hnil => hdigits (by rw [hnil, List.length_nil]), hall⟩)
  · intro h
    rcases h with rfl | h
    · rfl
    · obtain ⟨hmark, hsign, hdigits⟩ := h
      rw [isExponent, if_pos (List.mem_pair.mp hmark), dropSign_append hsign hdigits,
        digitRun_of_digits hdigits.2]
      rw [if_neg fun hlength => hdigits.1 (List.eq_nil_of_length_eq_zero hlength)]
      rfl

/-- **The decimal literals** are the unsigned literals of the grammar other than `Infinity`.

**Proof sketch.** The code takes the digits of the whole part, a point, the digits of the fraction
and an exponent in turn (`mantissa_spec`, `isExponent_iff`), and asks for a digit in one of the two
parts; the grammar has one rule for each of these shapes. The other way, the parts of a literal are
the ones that the code takes, as none of them goes on with a digit. -/
lemma isDecimalLiteral_iff (text : List Char) :
    isDecimalLiteral text = true ↔
      StrUnsignedDecimalLiteral text ∧ text ≠ "Infinity".toList := by
  constructor
  · intro h
    refine ⟨?_, ?_⟩
    · rw [isDecimalLiteral_eq, Bool.and_eq_true, decide_eq_true_eq, isExponent_iff] at h
      obtain ⟨hmantissa, hexponent⟩ := h
      obtain ⟨hwhole, hfraction, htext⟩ := mantissa_spec text
      generalize mantissa text = parts at *
      obtain ⟨whole, fraction, rest⟩ := parts
      dsimp only at *
      rcases htext with rfl | ⟨rfl, rfl⟩
      · by_cases hempty : whole = []
        · subst hempty
          exact .fraction ⟨fun hnil => hmantissa ⟨rfl, hnil⟩, hfraction⟩ hexponent
        · refine .point ⟨hempty, hwhole⟩ ?_ hexponent
          by_cases hnil : fraction = []
          · exact Or.inl hnil
          · exact Or.inr ⟨hnil, hfraction⟩
      · exact .whole ⟨fun hnil => hmantissa ⟨hnil, rfl⟩, hwhole⟩ hexponent
    · rintro rfl
      exact absurd h (by decide)
  · intro h
    obtain ⟨hliteral, hfinite⟩ := h
    rw [isDecimalLiteral_eq, Bool.and_eq_true, decide_eq_true_eq, isExponent_iff]
    cases hliteral with
    | infinity => exact absurd rfl hfinite
    | @point whole fraction exponent hwhole hfraction hexponent =>
      have hall : ∀ c ∈ fraction, isDigit c = true := by
        rcases hfraction with rfl | hfraction
        · intro c hc
          cases hc
        · exact hfraction.2
      rw [mantissa_point hwhole.2 hall fun c hc => (head_of_exponent hexponent c hc).1]
      exact ⟨fun hnil => hwhole.1 hnil.1, hexponent⟩
    | @fraction fraction exponent hfraction hexponent =>
      have hread := @mantissa_point [] fraction exponent (fun c hc => nomatch hc) hfraction.2
        fun c hc => (head_of_exponent hexponent c hc).1
      rw [List.nil_append] at hread
      rw [hread]
      exact ⟨fun hnil => hfraction.1 hnil.2, hexponent⟩
    | whole hwhole hexponent =>
      rw [mantissa_whole hwhole.2 (head_of_exponent hexponent)]
      exact ⟨fun hnil => hwhole.1 hnil.1, hexponent⟩

/-- The sign of a text is read where there is one. -/
lemma splitSign_cases (text : List Char) :
    (∃ rest, text = '+' :: rest ∧ splitSign text = (1, rest)) ∨
      (∃ rest, text = '-' :: rest ∧ splitSign text = (-1, rest)) ∨
        (text.head? ≠ some '+' ∧ text.head? ≠ some '-' ∧ splitSign text = (1, text)) := by
  unfold splitSign
  split
  · exact Or.inl ⟨_, rfl, rfl⟩
  · exact Or.inr (Or.inl ⟨_, rfl, rfl⟩)
  · rename_i hplus hminus
    refine Or.inr (Or.inr ⟨?_, ?_, rfl⟩)
    · intro h
      obtain ⟨rest, rfl⟩ := List.head?_eq_some_iff.mp h
      exact hplus rest rfl
    · intro h
      obtain ⟨rest, rfl⟩ := List.head?_eq_some_iff.mp h
      exact hminus rest rfl

/-- An unsigned literal starts with a digit, a point, or the `I` of `Infinity`. -/
lemma StrUnsignedDecimalLiteral.head {text : List Char} (h : StrUnsignedDecimalLiteral text) :
    ∃ c rest, text = c :: rest ∧ (isDigit c = true ∨ c = '.' ∨ c = 'I') := by
  have hdigits : ∀ {digits : List Char} (rest : List Char), DecimalDigits digits →
      ∃ c tail, digits ++ rest = c :: tail ∧ (isDigit c = true ∨ c = '.' ∨ c = 'I') := by
    intro digits rest hdigits
    obtain ⟨hne, hall⟩ := hdigits
    cases digits with
    | nil => exact absurd rfl hne
    | cons c digits => exact ⟨c, digits ++ rest, rfl, Or.inl (hall c List.mem_cons_self)⟩
  cases h with
  | infinity => exact ⟨'I', "nfinity".toList, by decide, Or.inr (Or.inr rfl)⟩
  | point hwhole => exact hdigits _ hwhole
  | fraction => exact ⟨'.', _, rfl, Or.inr (Or.inl rfl)⟩
  | whole hwhole => exact hdigits _ hwhole

/-- **The decimal literals with a sign** are read after their sign.

**Proof sketch.** No unsigned literal begins with a sign, so a text that does is a literal with this
sign, and any other one an unsigned literal. -/
lemma strDecimalLiteral_iff (text : List Char) :
    StrDecimalLiteral text ↔ StrUnsignedDecimalLiteral (splitSign text).2 := by
  have hsigned : ∀ {c : Char} {rest : List Char}, StrUnsignedDecimalLiteral (c :: rest) →
      c ≠ '+' ∧ c ≠ '-' := by
    intro c rest h
    obtain ⟨d, tail, heq, hd⟩ := h.head
    obtain ⟨rfl, -⟩ := List.cons.inj heq
    constructor
    · rintro rfl
      exact absurd hd (by decide)
    · rintro rfl
      exact absurd hd (by decide)
  rcases splitSign_cases text with
    ⟨rest, rfl, hsplit⟩ | ⟨rest, rfl, hsplit⟩ | ⟨hplus, hminus, hsplit⟩
  · rw [hsplit]
    constructor
    · intro h
      cases h with
      | plain h => exact absurd rfl (hsigned h).1
      | positive h => exact h
    · exact .positive
  · rw [hsplit]
    constructor
    · intro h
      cases h with
      | plain h => exact absurd rfl (hsigned h).2
      | negative h => exact h
    · exact .negative
  · rw [hsplit]
    constructor
    · intro h
      cases h with
      | plain h => exact h
      | positive => exact absurd rfl hplus
      | negative => exact absurd rfl hminus
    · exact .plain

/-! ## Literals of another radix -/

/-- The digits of the radixes in use. -/
lemma toDigit_isSome_iff {radix : ℕ} (hradix : radix ∈ [16, 8, 2]) (c : Char) :
    (toDigit radix c).isSome = true ↔ c ∈ radixDigitChars radix := by
  by_cases hascii : c.toNat < 128
  · have hall : ∀ n < 128, ∀ radix ∈ [16, 8, 2], (toDigit radix (Char.ofNat n)).isSome = true ↔
        Char.ofNat n ∈ radixDigitChars radix := by decide +kernel
    have hc := hall c.toNat hascii radix hradix
    rwa [Char.ofNat_toNat] at hc
  · have hnotRange : ∀ a b : Char, b.toNat < 128 → ¬(a ≤ c ∧ c ≤ b) := by
      intro a b hb h
      have hle : c.toNat ≤ b.toNat := h.2
      omega
    have hnone : toDigit radix c = none := by
      unfold toDigit
      rw [if_neg (hnotRange '0' '9' (by decide)), if_neg (hnotRange 'a' 'z' (by decide)),
        if_neg (hnotRange 'A' 'Z' (by decide))]
      rfl
    have hchars : ∀ radix ∈ [16, 8, 2], ∀ d ∈ radixDigitChars radix, d.toNat < 128 := by decide
    rw [hnone]
    constructor
    · intro h
      cases h
    · intro h
      exact absurd (hchars radix hradix c h) hascii

/-- Digits of a radix are a number where there is one, and all are digits. -/
lemma radixNumber_isSome_iff (digits : List Char) (radix : ℕ) :
    (radixNumber digits radix).isSome = true ↔
      digits ≠ [] ∧ ∀ c ∈ digits, (toDigit radix c).isSome = true := by
  have hfold : ∀ value : Binary64, (digits.foldlM (readDigit radix) value).isSome = true ↔
      ∀ c ∈ digits, (toDigit radix c).isSome = true := by
    induction digits with
    | nil => simp
    | cons c digits ih =>
      intro value
      rw [List.foldlM_cons, List.forall_mem_cons, readDigit]
      cases hdigit : toDigit radix c with
      | none => simp
      | some digit =>
        rw [Option.map_some, Option.bind_eq_bind, Option.bind_some, ih]
        simp
  unfold radixNumber
  by_cases hne : digits = []
  · simp [hne]
  · rw [if_neg hne, hfold]
    simp [hne]

/-- The radixes of the prefixes. -/
lemma mem_of_mem_radixPrefixes {start : List Char} {radix : ℕ}
    (h : (start, radix) ∈ radixPrefixes) : radix ∈ [16, 8, 2] := by
  have hall : ∀ entry ∈ radixPrefixes, entry.2 ∈ [16, 8, 2] := by decide
  exact hall _ h

/-- The digits after a prefix are read with its radix. -/
lemma radixDigits_append {start : List Char} {radix : ℕ} (h : (start, radix) ∈ radixPrefixes)
    (digits : List Char) : radixDigits (start ++ digits) = some (digits, radix) := by
  simp only [radixPrefixes, List.mem_cons, List.not_mem_nil, or_false, Prod.mk.injEq] at h
  rcases h with ⟨rfl, rfl⟩ | ⟨rfl, rfl⟩ | ⟨rfl, rfl⟩ | ⟨rfl, rfl⟩ | ⟨rfl, rfl⟩ | ⟨rfl, rfl⟩
  all_goals rfl

/-- The digits that are read with a radix stand after its prefix. -/
lemma exists_of_radixDigits {text digits : List Char} {radix : ℕ}
    (h : radixDigits text = some (digits, radix)) :
    ∃ start, (start, radix) ∈ radixPrefixes ∧ text = start ++ digits := by
  obtain ⟨⟨start, radix'⟩, hmem, hread⟩ := List.exists_of_findSome?_eq_some h
  obtain ⟨digits', hprefix, hpair⟩ := Option.map_eq_some_iff.mp hread
  obtain ⟨rfl, rfl⟩ := Prod.mk.inj hpair
  exact ⟨start, hmem, (List.isPrefixOf?_eq_some_iff_append_eq.mp hprefix).symm⟩

/-- A text with a prefix is no decimal literal. -/
lemma not_strDecimalLiteral_radixPrefix_append {start : List Char} {radix : ℕ}
    (h : (start, radix) ∈ radixPrefixes) (digits : List Char) :
    ¬ StrDecimalLiteral (start ++ digits) := by
  obtain ⟨mark, rfl, hmark⟩ : ∃ mark, start = ['0', mark] ∧
      isDigit mark = false ∧ mark ≠ '.' ∧ mark ≠ 'e' ∧ mark ≠ 'E' := by
    simp only [radixPrefixes, List.mem_cons, List.not_mem_nil, or_false, Prod.mk.injEq] at h
    rcases h with ⟨rfl, -⟩ | ⟨rfl, -⟩ | ⟨rfl, -⟩ | ⟨rfl, -⟩ | ⟨rfl, -⟩ | ⟨rfl, -⟩
    all_goals exact ⟨_, rfl, by decide⟩
  obtain ⟨hdigit, hpoint, hlower, hupper⟩ := hmark
  intro hliteral
  have hunsigned := (strDecimalLiteral_iff _).mp hliteral
  have hdecimal := (isDecimalLiteral_iff ('0' :: mark :: digits)).mpr
    ⟨hunsigned, fun heq => absurd (List.cons.inj heq).1 (by decide)⟩
  have hhead : ∀ c ∈ (mark :: digits).head?, isDigit c = false ∧ c ≠ '.' := by
    intro c hc
    obtain rfl := Option.some.inj hc
    exact ⟨hdigit, hpoint⟩
  have hmantissa := @mantissa_whole ['0'] (mark :: digits) (by decide) hhead
  rw [List.singleton_append] at hmantissa
  rw [isDecimalLiteral_eq, hmantissa, isExponent, if_neg (not_or.mpr ⟨hlower, hupper⟩),
    Bool.and_false] at hdecimal
  cases hdecimal

/-! ## The whole text -/

/-- The numbers among the trimmed texts.

**Proof sketch.** A text with a radix prefix is no decimal literal, and is a number where the digits
of the radix follow. Without a prefix it is a number behind its sign where it is `Infinity` or a
decimal literal (`isDecimalLiteral_iff`). -/
lemma trimmedNumber_isSome_iff (text : List Char) :
    (trimmedNumber text).isSome = true ↔
      text = [] ∨ StrDecimalLiteral text ∨ NonDecimalIntegerLiteral text := by
  unfold trimmedNumber
  by_cases hempty : text = []
  · simp [hempty]
  · rw [if_neg hempty, or_iff_right hempty]
    cases hradix : radixDigits text with
    | some entry =>
      obtain ⟨digits, radix⟩ := entry
      obtain ⟨start, hstart, rfl⟩ := exists_of_radixDigits hradix
      dsimp only
      rw [or_iff_right (not_strDecimalLiteral_radixPrefix_append hstart digits),
        radixNumber_isSome_iff]
      have hdigit := toDigit_isSome_iff (mem_of_mem_radixPrefixes hstart)
      constructor
      · intro h
        exact .mk hstart h.1 fun c hc => (hdigit c).mp (h.2 c hc)
      · intro h
        generalize htext : start ++ digits = text at h
        obtain ⟨hstart', hne, hall⟩ := h
        rename_i start' digits' radix'
        -- the prefix that is found is the prefix of the literal
        have hread := radixDigits_append hstart' digits'
        rw [← htext, radixDigits_append hstart digits] at hread
        obtain ⟨rfl, rfl⟩ := Prod.mk.inj (Option.some.inj hread)
        exact ⟨hne, fun c hc => (hdigit c).mpr (hall c hc)⟩
    | none =>
      have hnoRadix : ¬ NonDecimalIntegerLiteral text := by
        rintro ⟨hstart, -, -⟩
        rw [radixDigits_append hstart] at hradix
        cases hradix
      rw [or_iff_left hnoRadix, strDecimalLiteral_iff]
      dsimp only
      by_cases hinfinity : (splitSign text).2 = "Infinity".toList
      · rw [if_pos hinfinity, hinfinity]
        exact ⟨fun _ => .infinity, fun _ => rfl⟩
      · rw [if_neg hinfinity]
        have hdecimal := isDecimalLiteral_iff (splitSign text).2
        rw [and_iff_left hinfinity] at hdecimal
        rw [← hdecimal]
        split_ifs with h
        · simp [h]
        · simp [h]

/-- **JavaScript white space** is the white space of the grammar. -/
lemma isJsSpace_iff (c : Char) : isJsSpace c = true ↔ IsStrWhiteSpaceChar c := by
  rw [isJsSpace_eq, Bool.or_eq_true, decide_eq_true_eq]
  rfl

/-- The characters of literals: no blanks. -/
def IsLiteralChar (c : Char) : Prop := 43 ≤ c.toNat ∧ c.toNat < 128

/-- A character of a literal is no white space. -/
lemma IsLiteralChar.isJsSpace_eq {c : Char} (h : IsLiteralChar c) : isJsSpace c = false := by
  have hall : ∀ n < 128, 43 ≤ n → isJsSpace (Char.ofNat n) = false := by decide +kernel
  have hc := hall c.toNat h.2 h.1
  rwa [Char.ofNat_toNat] at hc

/-- A digit is a character of a literal. -/
lemma isLiteralChar_of_isDigit {c : Char} (h : isDigit c = true) : IsLiteralChar c := by
  obtain ⟨hlow, hhigh⟩ := toNat_of_isDigit h
  unfold IsLiteralChar
  omega

/-- The characters of an exponent. -/
lemma isLiteralChar_of_exponent {exponent : List Char} (h : exponent = [] ∨ ExponentPart exponent) :
    ∀ c ∈ exponent, IsLiteralChar c := by
  rcases h with rfl | ⟨hmark, hsign, hdigits⟩
  · intro c hc
    cases hc
  · have hmarks : ∀ c ∈ ['e', 'E'], IsLiteralChar c := by
      unfold IsLiteralChar
      decide
    have hsigns : ∀ sign ∈ [[], ['+'], ['-']], ∀ c ∈ sign, IsLiteralChar c := by
      unfold IsLiteralChar
      decide
    intro c hc
    rw [List.mem_cons, List.mem_append] at hc
    rcases hc with rfl | hc | hc
    · exact hmarks c hmark
    · exact hsigns _ hsign c hc
    · exact isLiteralChar_of_isDigit (hdigits.2 c hc)

/-- The characters of an unsigned literal. -/
lemma StrUnsignedDecimalLiteral.isLiteralChar {text : List Char}
    (h : StrUnsignedDecimalLiteral text) : ∀ c ∈ text, IsLiteralChar c := by
  have hpoint : IsLiteralChar '.' := by
    unfold IsLiteralChar
    decide
  intro c hc
  cases h with
  | infinity =>
    have hall : ∀ c ∈ "Infinity".toList, IsLiteralChar c := by
      unfold IsLiteralChar
      decide
    exact hall c hc
  | point hwhole hfraction hexponent =>
    rw [List.mem_append, List.mem_cons, List.mem_append] at hc
    rcases hc with hc | rfl | hc | hc
    · exact isLiteralChar_of_isDigit (hwhole.2 c hc)
    · exact hpoint
    · rcases hfraction with rfl | hfraction
      · cases hc
      · exact isLiteralChar_of_isDigit (hfraction.2 c hc)
    · exact isLiteralChar_of_exponent hexponent c hc
  | fraction hfraction hexponent =>
    rw [List.mem_cons, List.mem_append] at hc
    rcases hc with rfl | hc | hc
    · exact hpoint
    · exact isLiteralChar_of_isDigit (hfraction.2 c hc)
    · exact isLiteralChar_of_exponent hexponent c hc
  | whole hwhole hexponent =>
    rw [List.mem_append] at hc
    rcases hc with hc | hc
    · exact isLiteralChar_of_isDigit (hwhole.2 c hc)
    · exact isLiteralChar_of_exponent hexponent c hc

/-- The characters of a literal. -/
lemma isLiteralChar_of_literal {text : List Char}
    (h : text = [] ∨ StrDecimalLiteral text ∨ NonDecimalIntegerLiteral text) :
    ∀ c ∈ text, IsLiteralChar c := by
  intro c hc
  rcases h with rfl | hdecimal | hradix
  · cases hc
  · have hsigns : IsLiteralChar '+' ∧ IsLiteralChar '-' := by
      unfold IsLiteralChar
      decide
    cases hdecimal with
    | plain h => exact h.isLiteralChar c hc
    | positive h =>
      rcases List.mem_cons.mp hc with rfl | hc
      · exact hsigns.1
      · exact h.isLiteralChar c hc
    | negative h =>
      rcases List.mem_cons.mp hc with rfl | hc
      · exact hsigns.2
      · exact h.isLiteralChar c hc
  · obtain ⟨hstart, -, hdigits⟩ := hradix
    have hprefixes : ∀ entry ∈ radixPrefixes, ∀ c ∈ entry.1, IsLiteralChar c := by
      unfold IsLiteralChar
      decide
    have hchars : ∀ radix ∈ [16, 8, 2], ∀ c ∈ radixDigitChars radix, IsLiteralChar c := by
      unfold IsLiteralChar
      decide
    rw [List.mem_append] at hc
    rcases hc with hc | hc
    · exact hprefixes _ hstart c hc
    · exact hchars _ (mem_of_mem_radixPrefixes hstart) c (hdigits c hc)

/-- A text without white space is trimmed. -/
lemma isTrimmed_of_literalChars {text : List Char} (h : ∀ c ∈ text, IsLiteralChar c) :
    IsTrimmed isJsSpace text := by
  constructor
  · intro c hc
    exact (h c (List.mem_of_head? hc)).isJsSpace_eq
  · intro c hc
    exact (h c (List.mem_of_getLast? hc)).isJsSpace_eq

/-- White space around a literal is trimmed off. -/
lemma jsTrim_literal {front body back : List Char} (hfront : ∀ c ∈ front, IsStrWhiteSpaceChar c)
    (hback : ∀ c ∈ back, IsStrWhiteSpaceChar c) (hbody : ∀ c ∈ body, IsLiteralChar c) :
    jsTrim (front ++ body ++ back) = body := by
  apply trimBy_append
  · exact fun c hc => (isJsSpace_iff c).mpr (hfront c hc)
  · exact fun c hc => (isJsSpace_iff c).mpr (hback c hc)
  · exact isTrimmed_of_literalChars hbody

/-- **The texts that are numbers** are the texts of the grammar. -/
theorem jsNumber_isSome_iff (text : List Char) :
    (jsNumber text).isSome = true ↔ StringNumericLiteral text := by
  unfold jsNumber
  rw [trimmedNumber_isSome_iff]
  constructor
  · intro h
    obtain ⟨front, back, htext, hfront, hback⟩ := trimBy_spec isJsSpace text
    rw [htext]
    exact .mk (fun c hc => (isJsSpace_iff c).mp (hfront c hc))
      (fun c hc => (isJsSpace_iff c).mp (hback c hc)) h
  · intro h
    obtain ⟨hfront, hback, hbody⟩ := h
    rw [jsTrim_literal hfront hback (isLiteralChar_of_literal hbody)]
    exact hbody

end PsStore
