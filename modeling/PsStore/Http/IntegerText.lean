import PsStore.Http.JsNumber

set_option relaxedAutoImplicit false
set_option autoImplicit false

/-!
# Integers as JavaScript numbers

A text that is written as an integer is read exactly up to 2^53. Past that the value is rounded, but
not below 2^53.

## Main definitions

* `IntegerLiteral` — a literal that is written as an integer, with its exact value.
* `IntegerText` — such a literal with white space around it.

## Main results

* `jsNumber_integerText` — the number of such a text.
-/

namespace PsStore

/-- A literal that is written as an integer, and its exact value. -/
inductive IntegerLiteral : List Char → ℤ → Prop
  | plain {digits : List Char} (h : DecimalDigits digits) :
      IntegerLiteral digits (radixValue 10 digits)
  | positive {digits : List Char} (h : DecimalDigits digits) :
      IntegerLiteral ('+' :: digits) (radixValue 10 digits)
  | negative {digits : List Char} (h : DecimalDigits digits) :
      IntegerLiteral ('-' :: digits) (-radixValue 10 digits)
  | radix {start digits : List Char} {radix : ℕ} (hradix : (start, radix) ∈ radixPrefixes)
      (hne : digits ≠ []) (hdigits : ∀ c ∈ digits, c ∈ radixDigitChars radix) :
      IntegerLiteral (start ++ digits) (radixValue radix digits)

/-- A text that is written as an integer, with white space around it. -/
def IntegerText (text : List Char) (n : ℤ) : Prop :=
  ∃ front body back, text = front ++ body ++ back ∧ (∀ c ∈ front, IsStrWhiteSpaceChar c) ∧
    (∀ c ∈ back, IsStrWhiteSpaceChar c) ∧ IntegerLiteral body n

/-- Digits alone are an unsigned literal. -/
lemma DecimalDigits.literal {digits : List Char} (h : DecimalDigits digits) :
    StrUnsignedDecimalLiteral digits := by
  have hliteral := @StrUnsignedDecimalLiteral.whole digits [] h (Or.inl rfl)
  rwa [List.append_nil] at hliteral

/-- An integer literal is a literal. -/
lemma IntegerLiteral.literal {text : List Char} {n : ℤ} (h : IntegerLiteral text n) :
    text = [] ∨ StrDecimalLiteral text ∨ NonDecimalIntegerLiteral text := by
  cases h with
  | plain h => exact Or.inr (Or.inl (.plain h.literal))
  | positive h => exact Or.inr (Or.inl (.positive h.literal))
  | negative h => exact Or.inr (Or.inl (.negative h.literal))
  | radix hradix hne hdigits => exact Or.inr (Or.inr (.mk hradix hne hdigits))

/-- Digits that are read one by one stand for their value. -/
lemma foldlM_standsFor {radix : ℕ} (hradix : radix ∈ [16, 8, 2]) {digits : List Char}
    (hdigits : ∀ c ∈ digits, (toDigit radix c).isSome = true) {value : Binary64} {n : ℕ}
    (h : value.StandsFor n) :
    ∃ result, digits.foldlM (readDigit radix) value = some result ∧ result.StandsFor
      (digits.foldl (fun value c => value * radix + (toDigit radix c).getD 0) n) := by
  induction digits generalizing value n with
  | nil => exact ⟨value, rfl, h⟩
  | cons c digits ih =>
    obtain ⟨hc, hdigits⟩ := List.forall_mem_cons.mp hdigits
    obtain ⟨digit, hdigit⟩ := Option.isSome_iff_exists.mp hc
    have hlt : digit < radix := by
      unfold toDigit at hdigit
      have hfilter := (Option.filter_eq_some_iff.mp hdigit).2
      exact of_decide_eq_true hfilter
    have hbounds : 1 ≤ radix ∧ radix ≤ 2 ^ 53 := by
      have hall : ∀ radix ∈ [16, 8, 2], 1 ≤ radix ∧ radix ≤ 2 ^ 53 := by decide
      exact hall radix hradix
    rw [List.foldlM_cons, List.foldl_cons, readDigit, hdigit, Option.map_some,
      Option.bind_eq_bind, Option.bind_some, Option.getD_some]
    exact ih hdigits (h.digit hbounds.1 hbounds.2 (by omega))

/-- Digits after a prefix stand for their value. -/
lemma radixNumber_standsFor {radix : ℕ} (hradix : radix ∈ [16, 8, 2]) {digits : List Char}
    (hne : digits ≠ []) (hdigits : ∀ c ∈ digits, c ∈ radixDigitChars radix) :
    ∃ result, radixNumber digits radix = some result ∧
      result.StandsFor (radixValue radix digits) := by
  have hzero : (Binary64.round 0).StandsFor 0 := by
    simpa using Binary64.standsFor_round 0
  unfold radixNumber
  rw [if_neg hne]
  exact foldlM_standsFor hradix (fun c hc => (toDigit_isSome_iff hradix c).mpr (hdigits c hc)) hzero

/-- Decimal digits alone are rounded once. -/
lemma parseDecimal_standsFor {digits : List Char} (h : DecimalDigits digits) :
    (parseDecimal digits).StandsFor (radixValue 10 digits) := by
  have hmantissa := @mantissa_whole digits [] h.2 (fun c hc => nomatch hc)
  rw [List.append_nil] at hmantissa
  unfold parseDecimal
  rw [hmantissa]
  simpa [exponentValue] using Binary64.standsFor_round (radixValue 10 digits)

/-- A decimal integer is read with its sign. -/
lemma trimmedNumber_decimal {text digits : List Char} {sign : ℤ} (hsign : |sign| = 1)
    (hsplit : splitSign text = ((sign : ℚ), digits)) (h : DecimalDigits digits)
    (hliteral : StrDecimalLiteral text) :
    ∃ value, trimmedNumber text = some value ∧
      value.StandsForInt (sign * radixValue 10 digits) := by
  have hne : text ≠ [] := by
    rintro rfl
    obtain ⟨-, rfl⟩ := Prod.mk.inj hsplit
    exact h.1 rfl
  have hradix : radixDigits text = none := by
    cases hread : radixDigits text with
    | none => rfl
    | some entry =>
      obtain ⟨start, hstart, rfl⟩ := exists_of_radixDigits hread
      exact absurd hliteral (not_strDecimalLiteral_radixPrefix_append hstart _)
  have hfinite : digits ≠ "Infinity".toList := by
    rintro rfl
    exact absurd (h.2 'I' (by decide)) (by decide)
  have hdecimal := (isDecimalLiteral_iff digits).mpr ⟨h.literal, hfinite⟩
  refine ⟨(Binary64.round sign).mul (parseDecimal digits), ?_,
    (parseDecimal_standsFor h).signed hsign⟩
  unfold trimmedNumber
  rw [if_neg hne, hradix]
  dsimp only
  rw [hsplit]
  dsimp only
  rw [if_neg hfinite, if_pos hdecimal]

/-- **The number of an integer literal** is the integer up to 2^53, and has a magnitude of at least
2^53 past it.

**Proof sketch.** The literal stands between white space that is trimmed away. By its kind: a
decimal one, with or without a sign, is the product of its sign and its digits, and one with a radix
is the number of its digits; both stand for the integer (`trimmedNumber_decimal`,
`radixNumber_standsFor`). -/
theorem jsNumber_integerText {text : List Char} {n : ℤ} (h : IntegerText text n) :
    ∃ value, jsNumber text = some value ∧ value.StandsForInt n := by
  obtain ⟨front, body, back, rfl, hfront, hback, hbody⟩ := h
  unfold jsNumber
  rw [jsTrim_literal hfront hback (isLiteralChar_of_literal hbody.literal)]
  cases hbody with
  | plain h =>
    have hsplit : splitSign body = (((1 : ℤ) : ℚ), body) := by
      rw [Int.cast_one]
      rcases splitSign_cases body with ⟨rest, rfl, -⟩ | ⟨rest, rfl, -⟩ | ⟨-, -, hsplit⟩
      · exact absurd (h.2 '+' List.mem_cons_self) (by decide)
      · exact absurd (h.2 '-' List.mem_cons_self) (by decide)
      · exact hsplit
    have hread := trimmedNumber_decimal abs_one hsplit h (.plain h.literal)
    rwa [one_mul] at hread
  | @positive digits h =>
    have hsplit : splitSign ('+' :: digits) = (((1 : ℤ) : ℚ), digits) := by
      rw [Int.cast_one]
      rfl
    have hread := trimmedNumber_decimal abs_one hsplit h (.positive h.literal)
    rwa [one_mul] at hread
  | @negative digits h =>
    have hsplit : splitSign ('-' :: digits) = (((-1 : ℤ) : ℚ), digits) := by
      rw [Int.cast_neg, Int.cast_one]
      rfl
    have hread := trimmedNumber_decimal (by decide) hsplit h (.negative h.literal)
    rwa [neg_one_mul] at hread
  | @radix start digits radix hradix hne hdigits =>
    obtain ⟨value, hvalue, hstands⟩ :=
      radixNumber_standsFor (mem_of_mem_radixPrefixes hradix) hne hdigits
    refine ⟨value, ?_, hstands.toInt⟩
    have hcons : start ++ digits ≠ [] := fun hnil => hne (List.append_eq_nil_iff.mp hnil).2
    unfold trimmedNumber
    rw [if_neg hcons, radixDigits_append hradix]
    exact hvalue

/-- The value of a decimal digit. -/
lemma toDigit_ten {c : Char} (h : isDigit c = true) :
    toDigit 10 c = some (c.toNat - '0'.toNat) := by
  have hlt : c.toNat - '0'.toNat < 10 := by
    obtain ⟨-, hhigh⟩ := toNat_of_isDigit h
    have hzero : '0'.toNat = 48 := rfl
    omega
  unfold isDigit at h
  rw [Bool.and_eq_true, decide_eq_true_eq, decide_eq_true_eq] at h
  unfold toDigit
  rw [if_pos h, Option.filter_some, if_pos (decide_eq_true hlt)]

/-- Digits in front of other digits count for powers of the radix. -/
lemma radixValue_append (radix : ℕ) (digits digits' : List Char) :
    radixValue radix (digits ++ digits') =
      radixValue radix digits * radix ^ digits'.length + radixValue radix digits' := by
  have hfold : ∀ n, digits'.foldl (fun value c => value * radix + (toDigit radix c).getD 0) n =
      n * radix ^ digits'.length + radixValue radix digits' := by
    unfold radixValue
    induction digits' with
    | nil => simp
    | cons c digits' ih =>
      intro n
      rw [List.foldl_cons, List.foldl_cons, ih, ih (0 * radix + _), List.length_cons, pow_succ]
      ring
  rw [← hfold, radixValue, List.foldl_append, radixValue]

/-- The digits of a number are decimal digits. -/
lemma decimalDigits_toDigits (n : ℕ) : DecimalDigits (Nat.toDigits 10 n) := by
  refine ⟨Nat.toDigits_ne_nil, fun c hc => ?_⟩
  have hcore := Nat.isDigit_of_mem_toDigits (by decide) (by decide) hc
  unfold Char.isDigit at hcore
  exact hcore

/-- The digits of a number have its value. -/
lemma radixValue_toDigits (n : ℕ) : radixValue 10 (Nat.toDigits 10 n) = n := by
  have hread := @Nat.ofDigitChars_ten_toDigits n
  rw [Nat.ofDigitChars_eq_foldl] at hread
  refine Eq.trans (List.foldl_ext _ _ _ ?_) hread
  intro value c hc
  rw [toDigit_ten ((decimalDigits_toDigits n).2 c hc), Option.getD_some, mul_comm]

/-- The digits of a number are its text. -/
lemma integerText_toDigits (n : ℕ) : IntegerText (Nat.toDigits 10 n) n := by
  have hliteral := IntegerLiteral.plain (decimalDigits_toDigits n)
  rw [radixValue_toDigits] at hliteral
  exact ⟨[], Nat.toDigits 10 n, [], by simp, by simp, by simp, hliteral⟩

end PsStore
