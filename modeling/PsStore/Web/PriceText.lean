import PsStore.Http.IntegerText
import PsStore.Lib.Trim
import PsStore.Web.SortGames

set_option relaxedAutoImplicit false
set_option autoImplicit false

/-!
# Price texts

The texts that state a price in `modules/sortGames.ts`, with the amounts that they state: an
optional euro sign on either side, digits alone or in groups of three, and an optional decimal
comma. The amounts are exact.

## Main definitions

* `Web.GroupText`, `Web.WholeText`, `Web.FractionText`, `Web.AmountText` — the parts of a price.
* `Web.PriceText`, `Web.IsFree` — the texts with a price, with white space around it.
* `Web.toBlank` — the replacement of a no-break space.
* `Web.groupedPrice` — the text of an amount with its digits in groups.

## Main results

* `Web.padded_iff` — white space around a text is trimmed off.
* `Web.amountText_map_iff` — the grammar before and after the replacement of no-break spaces.
* `Web.priceText_groupedPrice` — every amount has a text with each of the group marks.
-/

namespace PsStore.Web

/-! ## The grammar -/

/-- The marks between groups of digits: a space, a no-break space, a narrow one, or a dot. -/
def groupMarks : List Char := [' ', '\u00a0', '\u202f', '.']

/-- Groups of three digits, each after a mark, and their digits. -/
inductive GroupText (marks : List Char) : List Char → List Char → Prop
  | nil : GroupText marks [] []
  | cons {mark a b c : Char} {text digits : List Char} (hmark : mark ∈ marks)
      (ha : isDigit a = true) (hb : isDigit b = true) (hc : isDigit c = true)
      (h : GroupText marks text digits) :
      GroupText marks (mark :: a :: b :: c :: text) (a :: b :: c :: digits)

/-- The whole part of a price and its digits: digits alone, or one to three digits before
groups. -/
inductive WholeText (marks : List Char) : List Char → List Char → Prop
  | plain {digits : List Char} (h : DecimalDigits digits) : WholeText marks digits digits
  | grouped {first text digits : List Char} (hfirst : DecimalDigits first)
      (hlength : first.length ≤ 3) (h : GroupText marks text digits) :
      WholeText marks (first ++ text) (first ++ digits)

/-- The fraction of a price and its value: nothing, or a comma and one or two digits. -/
inductive FractionText : List Char → ℚ → Prop
  | none : FractionText [] 0
  | comma {digits : List Char} (h : DecimalDigits digits) (hlength : digits.length ≤ 2) :
      FractionText (',' :: digits) (radixValue 10 digits / 10 ^ digits.length)

/-- The optional euro sign in front of a price, with an optional blank after it. -/
inductive EuroFront : List Char → Prop
  | none : EuroFront []
  | sign : EuroFront ['€']
  | blank {c : Char} (h : isSpace c = true) : EuroFront ['€', c]

/-- The optional euro sign after a price, with an optional blank in front of it. -/
inductive EuroBack : List Char → Prop
  | none : EuroBack []
  | sign : EuroBack ['€']
  | blank {c : Char} (h : isSpace c = true) : EuroBack [c, '€']

/-- A price and its amount. -/
inductive AmountText (marks : List Char) : List Char → ℚ → Prop
  | mk {front whole digits fraction back : List Char} {part : ℚ} (hfront : EuroFront front)
      (hwhole : WholeText marks whole digits) (hfraction : FractionText fraction part)
      (hback : EuroBack back) :
      AmountText marks (front ++ (whole ++ (fraction ++ back))) (radixValue 10 digits + part)

/-- A text with the property, between white space. -/
def Padded (p : List Char → Prop) (text : List Char) : Prop :=
  ∃ before body after, text = before ++ body ++ after ∧ (∀ c ∈ before, isSpace c = true) ∧
    (∀ c ∈ after, isSpace c = true) ∧ p body

/-- **The texts with a price**, and the amount of each. -/
def PriceText (text : List Char) (amount : ℚ) : Prop :=
  Padded (fun body => AmountText groupMarks body amount) text

/-- The word "Free", in upper or lower case. -/
def IsFree (text : List Char) : Prop :=
  Padded (fun body => lowerCase body = "free".toList) text

/-! ## No-break spaces -/

/-- A space for each of the two no-break spaces. -/
def toBlank (c : Char) : Char := if c = '\u00a0' ∨ c = '\u202f' then ' ' else c

/-- Only the no-break spaces are replaced. -/
lemma toBlank_cases (c : Char) :
    (c ∈ ['\u00a0', '\u202f'] ∧ toBlank c = ' ') ∨
      (c ∉ ['\u00a0', '\u202f'] ∧ toBlank c = c) := by
  unfold toBlank
  rw [List.mem_pair]
  by_cases h : c = '\u00a0' ∨ c = '\u202f'
  · exact Or.inl ⟨h, if_pos h⟩
  · exact Or.inr ⟨h, if_neg h⟩

/-- The no-break spaces are white space, as a space is. -/
@[simp] lemma isSpace_toBlank (c : Char) : isSpace (toBlank c) = isSpace c := by
  obtain ⟨hc, hblank⟩ | ⟨-, hblank⟩ := toBlank_cases c
  · rw [hblank]
    obtain rfl | rfl := List.mem_pair.mp hc
    · decide
    · decide
  · rw [hblank]

/-- The group marks after the replacement. -/
lemma toBlank_mem_marks_iff (c : Char) : toBlank c ∈ [' ', '.'] ↔ c ∈ groupMarks := by
  obtain ⟨hc, hblank⟩ | ⟨hc, hblank⟩ := toBlank_cases c
  · rw [hblank]
    obtain rfl | rfl := List.mem_pair.mp hc
    · decide
    · decide
  · rw [hblank]
    simp only [List.mem_pair, not_or] at hc
    simp [groupMarks, hc]

/-- No other character becomes a character that is no space. -/
lemma toBlank_eq_iff {c d : Char} (hd : isSpace d = false) : toBlank c = d ↔ c = d := by
  obtain ⟨hc, hblank⟩ | ⟨-, hblank⟩ := toBlank_cases c
  · have hspace : isSpace c = true := by
      rw [← isSpace_toBlank, hblank]
      decide
    constructor
    · intro h
      rw [← h, isSpace_toBlank, hspace] at hd
      cases hd
    · rintro rfl
      rw [hspace] at hd
      cases hd
  · rw [hblank]

/-! ## Characters of a price -/

/-- A character of a literal is no white space. -/
lemma not_isSpace_of_literalChar {c : Char} (h : IsLiteralChar c) : isSpace c = false := by
  have hall : ∀ n < 128, 43 ≤ n → isSpace (Char.ofNat n) = false := by decide +kernel
  have hc := hall c.toNat h.2 h.1
  rwa [Char.ofNat_toNat] at hc

/-- A digit is no white space. -/
lemma not_isSpace_of_isDigit {c : Char} (h : isDigit c = true) : isSpace c = false :=
  not_isSpace_of_literalChar (isLiteralChar_of_isDigit h)

/-- The lower case of white space is white space. -/
lemma not_isSpace_of_toLower {c : Char} (h : isSpace c.toLower = false) : isSpace c = false := by
  unfold Char.toLower at h
  split_ifs at h with hupper
  · have hlow : 'A'.toNat ≤ c.toNat := hupper.1
    have hhigh : c.toNat ≤ 'Z'.toNat := hupper.2
    have hA : 'A'.toNat = 65 := rfl
    have hZ : 'Z'.toNat = 90 := rfl
    apply not_isSpace_of_literalChar
    constructor
    · omega
    · omega
  · exact h

/-- The replacement keeps the lower case of the letters. -/
lemma toLower_toBlank_eq_iff {c d : Char} (hd : isSpace d = false) :
    (toBlank c).toLower = d ↔ c.toLower = d := by
  obtain ⟨hc, hblank⟩ | ⟨-, hblank⟩ := toBlank_cases c
  · -- neither lower case is a character that is no space
    have hspace : ' '.toLower ≠ d := by
      rintro rfl
      exact absurd hd (by decide)
    have hbreak : c.toLower ≠ d := by
      rintro rfl
      obtain rfl | rfl := List.mem_pair.mp hc
      · exact absurd hd (by decide)
      · exact absurd hd (by decide)
    rw [hblank]
    exact iff_of_false hspace hbreak
  · rw [hblank]

/-- The replacement keeps the digits of a text. -/
lemma map_toBlank_eq_iff {text digits : List Char} (h : ∀ c ∈ digits, isDigit c = true) :
    text.map toBlank = digits ↔ text = digits := by
  induction digits generalizing text with
  | nil => simp
  | cons d digits ih =>
    rw [List.forall_mem_cons] at h
    obtain ⟨hd, hdigits⟩ := h
    cases text with
    | nil => simp
    | cons c text =>
      rw [List.map_cons, List.cons_eq_cons, List.cons_eq_cons, ih hdigits,
        toBlank_eq_iff (not_isSpace_of_isDigit hd)]

/-- Digits stay as they are. -/
lemma map_toBlank_of_digits {digits : List Char} (h : ∀ c ∈ digits, isDigit c = true) :
    digits.map toBlank = digits :=
  (map_toBlank_eq_iff h).mpr rfl

/-! ## The grammar after the replacement -/

/-- The groups of a text. -/
lemma groupText_map_iff {text digits : List Char} :
    GroupText [' ', '.'] (text.map toBlank) digits ↔ GroupText groupMarks text digits := by
  constructor
  · intro h
    generalize hmap : text.map toBlank = blanks at h
    induction h generalizing text with
    | nil =>
      rw [List.map_eq_nil_iff.mp hmap]
      exact GroupText.nil
    | cons hmark ha hb hc _ ih =>
      simp only [List.map_eq_cons_iff] at hmap
      obtain ⟨mark, _, rfl, rfl, a, _, rfl, hA, b, _, rfl, hB, c, rest, rfl, hC, hrest⟩ := hmap
      rw [toBlank_eq_iff (not_isSpace_of_isDigit ha)] at hA
      rw [toBlank_eq_iff (not_isSpace_of_isDigit hb)] at hB
      rw [toBlank_eq_iff (not_isSpace_of_isDigit hc)] at hC
      rw [hA, hB, hC]
      exact GroupText.cons ((toBlank_mem_marks_iff mark).mp hmark) ha hb hc (ih hrest)
  · intro h
    induction h with
    | nil => exact GroupText.nil
    | @cons mark a b c text digits hmark ha hb hc _ ih =>
      have habc : [a, b, c].map toBlank = [a, b, c] := by
        apply map_toBlank_of_digits
        simp [ha, hb, hc]
      simp only [List.map_cons, List.map_nil, List.cons.injEq, and_true] at habc
      obtain ⟨hA, hB, hC⟩ := habc
      simp only [List.map_cons, hA, hB, hC]
      exact GroupText.cons ((toBlank_mem_marks_iff mark).mpr hmark) ha hb hc ih

/-- The whole part of a text. -/
lemma wholeText_map_iff {text digits : List Char} :
    WholeText [' ', '.'] (text.map toBlank) digits ↔ WholeText groupMarks text digits := by
  constructor
  · intro h
    generalize hmap : text.map toBlank = blanks at h
    cases h with
    | plain hdigits =>
      rw [map_toBlank_eq_iff hdigits.2] at hmap
      rw [hmap]
      exact WholeText.plain hdigits
    | grouped hfirst hlength hgroups =>
      obtain ⟨first, groups, rfl, hmapFirst, rfl⟩ := List.map_eq_append_iff.mp hmap
      rw [map_toBlank_eq_iff hfirst.2] at hmapFirst
      rw [← hmapFirst] at hfirst hlength ⊢
      exact WholeText.grouped hfirst hlength (groupText_map_iff.mp hgroups)
  · intro h
    cases h with
    | plain hdigits =>
      rw [map_toBlank_of_digits hdigits.2]
      exact WholeText.plain hdigits
    | grouped hfirst hlength hgroups =>
      rw [List.map_append, map_toBlank_of_digits hfirst.2]
      exact WholeText.grouped hfirst hlength (groupText_map_iff.mpr hgroups)

/-- The fraction of a text. -/
lemma fractionText_map_iff {text : List Char} {part : ℚ} :
    FractionText (text.map toBlank) part ↔ FractionText text part := by
  have hcomma : isSpace ',' = false := by decide
  constructor
  · intro h
    generalize hmap : text.map toBlank = blanks at h
    cases h with
    | none =>
      rw [List.map_eq_nil_iff.mp hmap]
      exact FractionText.none
    | comma hdigits hlength =>
      obtain ⟨c, rest, rfl, hc, hrest⟩ := List.map_eq_cons_iff.mp hmap
      rw [(toBlank_eq_iff hcomma).mp hc, (map_toBlank_eq_iff hdigits.2).mp hrest]
      exact FractionText.comma hdigits hlength
  · intro h
    cases h with
    | none => exact FractionText.none
    | comma hdigits hlength =>
      rw [List.map_cons, map_toBlank_of_digits hdigits.2, (toBlank_eq_iff hcomma).mpr rfl]
      exact FractionText.comma hdigits hlength

/-- The euro sign in front of a text. -/
lemma euroFront_map_iff {text : List Char} : EuroFront (text.map toBlank) ↔ EuroFront text := by
  have hsign : isSpace '€' = false := by decide
  constructor
  · intro h
    generalize hmap : text.map toBlank = blanks at h
    cases h with
    | none =>
      rw [List.map_eq_nil_iff.mp hmap]
      exact EuroFront.none
    | sign =>
      obtain ⟨c, rest, rfl, hc, hrest⟩ := List.map_eq_cons_iff.mp hmap
      rw [(toBlank_eq_iff hsign).mp hc, List.map_eq_nil_iff.mp hrest]
      exact EuroFront.sign
    | blank hblank =>
      simp only [List.map_eq_cons_iff, List.map_eq_nil_iff] at hmap
      obtain ⟨c, _, rfl, hc, d, _, rfl, rfl, rfl⟩ := hmap
      rw [(toBlank_eq_iff hsign).mp hc]
      exact EuroFront.blank (by rwa [isSpace_toBlank] at hblank)
  · intro h
    cases h with
    | none => exact EuroFront.none
    | sign => exact EuroFront.sign
    | blank hblank => exact EuroFront.blank (by rwa [isSpace_toBlank])

/-- The sign at the end is the mirror image of the sign in front. -/
lemma euroBack_iff_reverse {text : List Char} : EuroBack text ↔ EuroFront text.reverse := by
  constructor
  · intro h
    cases h with
    | none => exact EuroFront.none
    | sign => exact EuroFront.sign
    | blank hblank => exact EuroFront.blank hblank
  · intro h
    generalize hreverse : text.reverse = mirror at h
    rw [List.reverse_eq_iff] at hreverse
    subst hreverse
    cases h with
    | none => exact EuroBack.none
    | sign => exact EuroBack.sign
    | blank hblank => exact EuroBack.blank hblank

/-- The euro sign after a text. -/
lemma euroBack_map_iff {text : List Char} : EuroBack (text.map toBlank) ↔ EuroBack text := by
  rw [euroBack_iff_reverse, euroBack_iff_reverse, ← List.map_reverse, euroFront_map_iff]

/-- **The grammar after the replacement.** A space stands for every space between groups. -/
theorem amountText_map_iff {text : List Char} {amount : ℚ} :
    AmountText [' ', '.'] (text.map toBlank) amount ↔ AmountText groupMarks text amount := by
  constructor
  · intro h
    generalize hmap : text.map toBlank = blanks at h
    cases h with
    | mk hfront hwhole hfraction hback =>
      simp only [List.map_eq_append_iff] at hmap
      obtain ⟨front, _, rfl, rfl, whole, _, rfl, rfl, fraction, back, rfl, rfl, rfl⟩ := hmap
      exact AmountText.mk (euroFront_map_iff.mp hfront) (wholeText_map_iff.mp hwhole)
        (fractionText_map_iff.mp hfraction) (euroBack_map_iff.mp hback)
  · intro h
    cases h with
    | mk hfront hwhole hfraction hback =>
      simp only [List.map_append]
      exact AmountText.mk (euroFront_map_iff.mpr hfront) (wholeText_map_iff.mpr hwhole)
        (fractionText_map_iff.mpr hfraction) (euroBack_map_iff.mpr hback)

/-! ## White space around a text -/

/-- **Trimming.** A text is read after the replacement and without the white space around it.

**Proof sketch.** The replacement keeps white space white space, so the padding of a text is the
padding of its replacement, and a trimmed text between white space is found again (`trimBy_append`).
The other way, what the trim takes away is the padding (`trimBy_spec`). -/
theorem padded_iff {p q : List Char → Prop} (hmap : ∀ body, q (body.map toBlank) ↔ p body)
    (htrimmed : ∀ body, q body → IsTrimmed isSpace body) (text : List Char) :
    Padded p text ↔ q (trim (text.map toBlank)) := by
  have hspaces : ∀ {spaces : List Char}, (∀ c ∈ spaces.map toBlank, isSpace c = true) ↔
      ∀ c ∈ spaces, isSpace c = true := by
    intro spaces
    simp
  constructor
  · intro h
    obtain ⟨before, body, after, rfl, hbefore, hafter, hbody⟩ := h
    have hread : trim ((before ++ body ++ after).map toBlank) = body.map toBlank := by
      rw [List.map_append, List.map_append]
      apply trimBy_append
      · exact hspaces.mpr hbefore
      · exact hspaces.mpr hafter
      · exact htrimmed _ ((hmap body).mpr hbody)
    rw [hread]
    exact (hmap body).mpr hbody
  · intro h
    obtain ⟨before, after, htext, hbefore, hafter⟩ := trimBy_spec isSpace (text.map toBlank)
    obtain ⟨front, back, rfl, hfront, rfl⟩ := List.map_eq_append_iff.mp htext
    obtain ⟨start, body, rfl, rfl, hbody⟩ := List.map_eq_append_iff.mp hfront
    refine ⟨start, body, back, rfl, hspaces.mp hbefore, hspaces.mp hafter, ?_⟩
    apply (hmap body).mp
    rw [hbody]
    exact h

/-- A text with visible ends is trimmed. -/
lemma isTrimmed_of_ends {c d : Char} {rest front : List Char} {text : List Char}
    (hhead : text = c :: rest) (hlast : text = front ++ [d]) (hc : isSpace c = false)
    (hd : isSpace d = false) : IsTrimmed isSpace text := by
  constructor
  · intro e he
    rw [hhead, List.head?_cons] at he
    obtain rfl := Option.some.inj he
    exact hc
  · intro e he
    rw [hlast, List.getLast?_concat] at he
    obtain rfl := Option.some.inj he
    exact hd

/-- Digits have a first and a last one. -/
lemma ends_of_decimalDigits {digits : List Char} (h : DecimalDigits digits) :
    (∃ c rest, digits = c :: rest ∧ isDigit c = true) ∧
      ∃ front c, digits = front ++ [c] ∧ isDigit c = true := by
  obtain ⟨hne, hall⟩ := h
  constructor
  · obtain ⟨c, rest, rfl⟩ := List.exists_cons_of_ne_nil hne
    exact ⟨c, rest, rfl, hall c List.mem_cons_self⟩
  · refine ⟨digits.dropLast, digits.getLast hne, ?_, hall _ (List.getLast_mem hne)⟩
    exact (List.dropLast_append_getLast hne).symm

/-- Groups end with a digit. -/
lemma GroupText.last {marks text digits : List Char} (h : GroupText marks text digits) :
    text = [] ∨ ∃ front c, text = front ++ [c] ∧ isDigit c = true := by
  induction h with
  | nil => exact Or.inl rfl
  | @cons mark a b c text digits hmark ha hb hc h ih =>
    right
    obtain rfl | ⟨front, d, rfl, hd⟩ := ih
    · exact ⟨[mark, a, b], c, rfl, hc⟩
    · exact ⟨mark :: a :: b :: c :: front, d, rfl, hd⟩

/-- Groups have digits only. -/
lemma GroupText.all_isDigit {marks text digits : List Char} (h : GroupText marks text digits) :
    ∀ c ∈ digits, isDigit c = true := by
  induction h with
  | nil => simp
  | cons _ ha hb hc _ ih =>
    simp only [List.forall_mem_cons]
    exact ⟨ha, hb, hc, ih⟩

/-- The whole part has digits only. -/
lemma WholeText.all_isDigit {marks text digits : List Char} (h : WholeText marks text digits) :
    ∀ c ∈ digits, isDigit c = true := by
  cases h with
  | plain hdigits => exact hdigits.2
  | grouped hfirst _ hgroups =>
    rw [List.forall_mem_append]
    exact ⟨hfirst.2, hgroups.all_isDigit⟩

/-- The whole part starts and ends with a digit. -/
lemma WholeText.ends {marks text digits : List Char} (h : WholeText marks text digits) :
    (∃ c rest, text = c :: rest ∧ isDigit c = true) ∧
      ∃ front c, text = front ++ [c] ∧ isDigit c = true := by
  cases h with
  | plain hdigits => exact ends_of_decimalDigits hdigits
  | @grouped first text digits hfirst hlength hgroups =>
    obtain ⟨⟨c, rest, rfl, hc⟩, hlast⟩ := ends_of_decimalDigits hfirst
    refine ⟨⟨c, rest ++ text, rfl, hc⟩, ?_⟩
    obtain rfl | ⟨front, d, rfl, hd⟩ := hgroups.last
    · rw [List.append_nil]
      exact hlast
    · exact ⟨c :: rest ++ front, d, (List.append_assoc _ _ _).symm, hd⟩

/-- A price starts with a digit or the euro sign. -/
lemma AmountText.head {marks text : List Char} {amount : ℚ} (h : AmountText marks text amount) :
    ∃ c rest, text = c :: rest ∧ (c = '€' ∨ isDigit c = true) := by
  obtain ⟨hfront, hwhole, -, -⟩ := h
  obtain ⟨⟨c, rest, rfl, hc⟩, -⟩ := hwhole.ends
  cases hfront with
  | none => exact ⟨c, _, rfl, Or.inr hc⟩
  | sign => exact ⟨'€', _, rfl, Or.inl rfl⟩
  | blank => exact ⟨'€', _, rfl, Or.inl rfl⟩

/-- A price ends with a digit or the euro sign. -/
lemma AmountText.last {marks text : List Char} {amount : ℚ} (h : AmountText marks text amount) :
    ∃ front c, text = front ++ [c] ∧ (c = '€' ∨ isDigit c = true) := by
  obtain ⟨-, hwhole, hfraction, hback⟩ := h
  rename_i front whole digits fraction back part
  cases hback with
  | none =>
    cases hfraction with
    | none =>
      obtain ⟨-, start, c, rfl, hc⟩ := hwhole.ends
      exact ⟨front ++ start, c, by simp, Or.inr hc⟩
    | comma hdigits =>
      obtain ⟨-, start, c, rfl, hc⟩ := ends_of_decimalDigits hdigits
      exact ⟨front ++ (whole ++ ',' :: start), c, by simp, Or.inr hc⟩
  | sign => exact ⟨front ++ (whole ++ fraction), '€', by simp, Or.inl rfl⟩
  | @blank c => exact ⟨front ++ (whole ++ (fraction ++ [c])), '€', by simp, Or.inl rfl⟩

/-- An end of a price is no white space. -/
lemma not_isSpace_of_end {c : Char} (h : c = '€' ∨ isDigit c = true) : isSpace c = false := by
  obtain rfl | h := h
  · decide
  · exact not_isSpace_of_isDigit h

/-- A price is trimmed. -/
lemma AmountText.isTrimmed {marks text : List Char} {amount : ℚ}
    (h : AmountText marks text amount) : IsTrimmed isSpace text := by
  obtain ⟨c, rest, hhead, hc⟩ := h.head
  obtain ⟨front, d, hlast, hd⟩ := h.last
  exact isTrimmed_of_ends hhead hlast (not_isSpace_of_end hc) (not_isSpace_of_end hd)

/-- The texts with a price, as the client reads them. -/
lemma priceText_iff (text : List Char) (amount : ℚ) :
    PriceText text amount ↔ AmountText [' ', '.'] (trim (text.map toBlank)) amount :=
  padded_iff (q := fun body => AmountText [' ', '.'] body amount)
    (fun _ => amountText_map_iff) (fun _ h => h.isTrimmed) text

/-- The replacement keeps a lower-case word. -/
lemma lowerCase_map_toBlank_iff {text word : List Char} (h : ∀ c ∈ word, isSpace c = false) :
    lowerCase (text.map toBlank) = word ↔ lowerCase text = word := by
  unfold lowerCase
  induction word generalizing text with
  | nil => simp
  | cons d word ih =>
    rw [List.forall_mem_cons] at h
    obtain ⟨hd, hword⟩ := h
    cases text with
    | nil => simp
    | cons c text =>
      rw [List.map_cons, List.map_cons, List.map_cons, List.cons_eq_cons, List.cons_eq_cons,
        toLower_toBlank_eq_iff hd, ih hword]

/-- "Free", as the client reads it. -/
lemma isFree_iff (text : List Char) :
    IsFree text ↔ lowerCase (trim (text.map toBlank)) = "free".toList := by
  have hword : ∀ c ∈ "free".toList, isSpace c = false := by decide
  apply padded_iff (q := fun body => lowerCase body = "free".toList)
  · intro body
    exact lowerCase_map_toBlank_iff hword
  · intro body h
    have hvisible : ∀ c ∈ body, isSpace c = false := by
      intro c hc
      apply not_isSpace_of_toLower
      apply hword
      rw [← h]
      exact List.mem_map_of_mem hc
    constructor
    · intro c hc
      exact hvisible c (List.mem_of_head? hc)
    · intro c hc
      exact hvisible c (List.mem_of_getLast? hc)

/-- A price is not the word "Free". -/
lemma AmountText.not_free {marks text : List Char} {amount : ℚ}
    (h : AmountText marks text amount) : lowerCase text ≠ "free".toList := by
  obtain ⟨c, rest, rfl, hc⟩ := h.head
  intro hfree
  have hlower : c.toLower = 'f' := (List.cons.inj hfree).1
  obtain rfl | hc := hc
  · exact absurd hlower (by decide)
  · have hall : ∀ n < 58, (Char.ofNat n).toLower ≠ 'f' := by decide
    have hlt : c.toNat < 58 := by
      obtain ⟨-, hhigh⟩ := toNat_of_isDigit hc
      omega
    have hne := hall c.toNat hlt
    rw [Char.ofNat_toNat] at hne
    exact hne hlower

/-! ## The text of an amount -/

/-- The digits of a number in groups of three, with a mark between them. -/
def groupedDigits (mark : Char) (n : ℕ) : List Char :=
  if n < 1000 then Nat.toDigits 10 n
  else groupedDigits mark (n / 1000) ++
    [mark, Nat.digitChar (n / 100 % 10), Nat.digitChar (n / 10 % 10), Nat.digitChar (n % 10)]
termination_by n
decreasing_by omega

/-- The price text of an amount in cents, in the form of "1 234,50 €". -/
def groupedPrice (mark : Char) (cents : ℕ) : List Char :=
  groupedDigits mark (cents / 100) ++
    [',', Nat.digitChar (cents / 10 % 10), Nat.digitChar (cents % 10), ' ', '€']

example : groupedPrice '.' 123450 = "1.234,50 €".toList := by
  rw [groupedPrice, groupedDigits, groupedDigits]
  rfl

/-- Groups after groups. -/
lemma GroupText.append {marks text digits text' digits' : List Char}
    (h : GroupText marks text digits) (h' : GroupText marks text' digits') :
    GroupText marks (text ++ text') (digits ++ digits') := by
  induction h with
  | nil => exact h'
  | cons hmark ha hb hc _ ih => exact GroupText.cons hmark ha hb hc ih

/-- The last digit of a number is a digit. -/
lemma isDigit_lastDigit (n : ℕ) : isDigit (Nat.digitChar (n % 10)) = true :=
  isDigit_digitChar _ (Nat.mod_lt n (by decide))

/-- The value of the last digit of a number. -/
lemma radixValue_lastDigit (n : ℕ) : radixValue 10 [Nat.digitChar (n % 10)] = n % 10 := by
  have hall : ∀ n < 10, radixValue 10 [Nat.digitChar n] = n := by decide
  exact hall _ (Nat.mod_lt n (by decide))

/-- The groups of a number have its value.

**Proof sketch.** By strong induction on the number. Less than a thousand is its own digits; else
the thousands have their groups by induction, and one group of three digits follows. -/
lemma exists_groupedDigits {mark : Char} (hmark : mark ∈ groupMarks) (n : ℕ) :
    ∃ first text digits, groupedDigits mark n = first ++ text ∧ DecimalDigits first ∧
      first.length ≤ 3 ∧ GroupText groupMarks text digits ∧
      radixValue 10 (first ++ digits) = n := by
  induction n using Nat.strong_induction_on with
  | h n ih =>
    rw [groupedDigits]
    by_cases hn : n < 1000
    · have hlength : (Nat.toDigits 10 n).length ≤ 3 :=
        (Nat.length_toDigits_le_iff (by decide) (by decide)).mpr hn
      refine ⟨Nat.toDigits 10 n, [], [], ?_, decimalDigits_toDigits n, hlength, GroupText.nil, ?_⟩
      · rw [if_pos hn, List.append_nil]
      · rw [List.append_nil, radixValue_toDigits]
    · obtain ⟨first, text, digits, htext, hfirst, hlength, hgroups, hvalue⟩ :=
        ih (n / 1000) (by omega)
      have hgroup : GroupText groupMarks
          [mark, Nat.digitChar (n / 100 % 10), Nat.digitChar (n / 10 % 10),
            Nat.digitChar (n % 10)]
          [Nat.digitChar (n / 100 % 10), Nat.digitChar (n / 10 % 10), Nat.digitChar (n % 10)] :=
        GroupText.cons hmark (isDigit_lastDigit _) (isDigit_lastDigit _) (isDigit_lastDigit _)
          GroupText.nil
      refine ⟨first, _, _, ?_, hfirst, hlength, hgroups.append hgroup, ?_⟩
      · rw [if_neg hn, htext, List.append_assoc]
      · -- three more digits
        have hthree : ∀ a b c : Char, radixValue 10 [a, b, c] =
            radixValue 10 [a] * 100 + radixValue 10 [b] * 10 + radixValue 10 [c] := by
          intro a b c
          simp [radixValue]
          ring
        rw [← List.append_assoc, radixValue_append, hvalue, hthree, radixValue_lastDigit,
          radixValue_lastDigit, radixValue_lastDigit]
        simp only [List.length_cons, List.length_nil]
        omega

/-- **Every amount has a text** with each of the group marks.

**Proof sketch.** The whole part is grouped digits with the value of the euros
(`exists_groupedDigits`), the fraction is two digits with the value of the cents
(`radixValue_lastDigit`), and the grammar puts them together to the amount. -/
theorem priceText_groupedPrice {mark : Char} (hmark : mark ∈ groupMarks) (cents : ℕ) :
    PriceText (groupedPrice mark cents) (cents / 100) := by
  obtain ⟨first, text, digits, htext, hfirst, hlength, hgroups, hvalue⟩ :=
    exists_groupedDigits hmark (cents / 100)
  have hfraction : DecimalDigits
      [Nat.digitChar (cents / 10 % 10), Nat.digitChar (cents % 10)] := by
    refine ⟨List.cons_ne_nil _ _, fun c hc => ?_⟩
    obtain rfl | rfl := List.mem_pair.mp hc
    · exact isDigit_lastDigit _
    · exact isDigit_lastDigit _
  have hpart : radixValue 10 [Nat.digitChar (cents / 10 % 10), Nat.digitChar (cents % 10)] =
      cents % 100 := by
    have hsplit := radixValue_append 10 [Nat.digitChar (cents / 10 % 10)]
      [Nat.digitChar (cents % 10)]
    rw [radixValue_lastDigit, radixValue_lastDigit] at hsplit
    rw [← List.singleton_append, hsplit, List.length_singleton]
    omega
  have hamount := AmountText.mk EuroFront.none (WholeText.grouped hfirst hlength hgroups)
    (FractionText.comma hfraction (Nat.le_refl 2)) (EuroBack.blank (c := ' ') (by decide))
  rw [hvalue, hpart] at hamount
  refine ⟨[], groupedPrice mark cents, [], by simp, by simp, by simp, ?_⟩
  convert hamount using 1
  · rw [groupedPrice, htext]
    simp
  · have hcents : (cents : ℚ) = (cents / 100 : ℕ) * 100 + (cents % 100 : ℕ) := by
      exact_mod_cast (Nat.div_add_mod' cents 100).symm
    rw [hcents]
    simp only [List.length_cons, List.length_nil]
    ring

end PsStore.Web
