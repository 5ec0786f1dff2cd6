import PsStore.Web.PriceText

set_option relaxedAutoImplicit false
set_option autoImplicit false

/-!
# The price of a card

`parsePrice` of `modules/sortGames.ts` reads exactly the price texts, each with its amount, and
"Free" with 0. A card whose text is neither sorts last in both directions, unless a PS Plus tier
includes the game.

## Main definitions

* `exactDecimal`, `Web.exactBrowser` — a decimal text without rounding, and a browser that reads it.
* `Web.roundingBrowser` — a browser that reads it as a double.
* `Web.NoPrice`, `Web.PlusIncluded` — a text without a price, and a game that a tier includes.
* `Web.Costs` — what a card costs in the sort.

## Main results

* `Web.matchPrice_iff` — the price pattern accepts the grammar, and gives the amount.
* `Web.parsePrice_eq_some_iff` — the texts with a price.
* `Web.parsePrice_roundingBrowser` — the double of a text is its exact amount, rounded once.
* `Web.priceKey_eq_none_iff`, `Web.priceKey_eq_some_iff` — the cards without a price, and the price
  of the others.
* `Web.prices_sort` — the prices, and the order of the cards.
-/

namespace PsStore

/-! ## Exact decimals -/

/-- The exact value of a decimal literal. -/
def exactDecimal (text : List Char) : ℚ :=
  let (whole, fraction, rest) := mantissa text
  (radixValue 10 (whole ++ fraction) : ℚ) * 10 ^ (exponentValue rest - fraction.length)

/-- `Number` of a decimal literal is its exact value, rounded once. -/
lemma parseDecimal_eq_round (text : List Char) :
    parseDecimal text = Binary64.round (exactDecimal text) := rfl

/-- The value of digits with a point. -/
lemma exactDecimal_point {whole fraction : List Char} (hwhole : ∀ c ∈ whole, isDigit c = true)
    (hfraction : ∀ c ∈ fraction, isDigit c = true) :
    exactDecimal (whole ++ '.' :: fraction) =
      radixValue 10 whole + radixValue 10 fraction / 10 ^ fraction.length := by
  have hread := @mantissa_point whole fraction [] hwhole hfraction fun c hc => nomatch hc
  rw [List.append_nil] at hread
  unfold exactDecimal
  rw [hread]
  simp only [exponentValue, zero_sub, zpow_neg, zpow_natCast, radixValue_append]
  push_cast
  field_simp

namespace Web

/-- A browser whose numbers are exact decimals. -/
def exactBrowser (dateParse : String → Option ℤ) (collate : String → String → Ordering) :
    Browser ℚ where
  dateParse := dateParse
  number text := exactDecimal text.toList
  zero := 0
  collate := collate

/-- The fraction of a price without a comma. -/
lemma radixValue_zero : radixValue 10 ['0'] = 0 := by decide

/-! ## The parts of the pattern -/

/-- The groups that are read, in front of what is left. -/
lemma digitGroups_spec (text : List Char) :
    ∃ groups, text = groups ++ (digitGroups text).2 ∧
      GroupText [' ', '.'] groups (digitGroups text).1 := by
  fun_induction digitGroups text with
  | case1 separator a b c rest h digits after heq ih =>
    rw [heq] at ih
    obtain ⟨groups, htext, hgroups⟩ := ih
    obtain ⟨hseparator, ha, hb, hc⟩ := h
    refine ⟨separator :: a :: b :: c :: groups, ?_, ?_⟩
    · rw [htext]
      rfl
    · exact GroupText.cons (List.mem_pair.mpr hseparator) ha hb hc hgroups
  | case2 => exact ⟨[], rfl, GroupText.nil⟩
  | case3 => exact ⟨[], rfl, GroupText.nil⟩

/-- Groups are read up to a text that starts with none. -/
lemma digitGroups_append {groups digits rest : List Char} (h : GroupText [' ', '.'] groups digits)
    (hrest : digitGroups rest = ([], rest)) : digitGroups (groups ++ rest) = (digits, rest) := by
  induction h with
  | nil => exact hrest
  | cons hmark ha hb hc _ ih =>
    rw [List.cons_append, List.cons_append, List.cons_append, List.cons_append, digitGroups,
      if_pos ⟨List.mem_pair.mp hmark, ha, hb, hc⟩, ih]

/-- Another character is no separator. -/
lemma digitGroups_of_ne {c : Char} (hspace : c ≠ ' ') (hdot : c ≠ '.') (rest : List Char) :
    digitGroups (c :: rest) = ([], c :: rest) := by
  unfold digitGroups
  split
  · rename_i heq
    obtain ⟨rfl, rfl⟩ := List.cons.inj heq
    rw [if_neg]
    simp [hspace, hdot]
  · rfl

/-- The whole part stops in front of the text: no digit and no group follows. -/
def Stops (rest : List Char) : Prop :=
  (∀ c ∈ rest.head?, isDigit c = false) ∧ digitGroups rest = ([], rest)

/-- A part of the text by its first digits. -/
lemma wholePart_eq (text : List Char) :
    wholePart text = if (digitRun text).1 = [] then none
      else if (digitGroups (digitRun text).2).1 ≠ [] ∧ (digitRun text).1.length ≤ 3 then
        some ((digitRun text).1 ++ (digitGroups (digitRun text).2).1,
          (digitGroups (digitRun text).2).2)
      else some ((digitRun text).1, (digitRun text).2) := by
  unfold wholePart digitRun
  rw [List.span_eq_takeWhile_dropWhile]

/-- A whole part that is read is one. -/
lemma wholePart_spec {text digits rest : List Char} (h : wholePart text = some (digits, rest)) :
    ∃ whole, text = whole ++ rest ∧ WholeText [' ', '.'] whole digits := by
  obtain ⟨htext, hall, -⟩ := digitRun_spec text
  rw [wholePart_eq] at h
  split_ifs at h with hempty hgrouped
  · obtain ⟨rfl, rfl⟩ := Prod.mk.inj (Option.some.inj h)
    obtain ⟨groups, hrest, hgroups⟩ := digitGroups_spec (digitRun text).2
    refine ⟨(digitRun text).1 ++ groups, ?_, ?_⟩
    · rw [List.append_assoc, ← hrest]
      exact htext
    · exact WholeText.grouped ⟨hempty, hall⟩ hgrouped.2 hgroups
  · obtain ⟨rfl, rfl⟩ := Prod.mk.inj (Option.some.inj h)
    exact ⟨(digitRun text).1, htext, WholeText.plain ⟨hempty, hall⟩⟩

/-- A group mark is no digit. -/
lemma GroupText.head_append {groups digits rest : List Char}
    (h : GroupText [' ', '.'] groups digits) (hrest : ∀ c ∈ rest.head?, isDigit c = false) :
    ∀ c ∈ (groups ++ rest).head?, isDigit c = false := by
  cases h with
  | nil => exact hrest
  | cons hmark =>
    intro c hc
    obtain rfl := Option.some.inj hc
    obtain rfl | rfl := List.mem_pair.mp hmark
    · decide
    · decide

/-- Groups without digits are no groups. -/
lemma GroupText.eq_nil_of_digits {marks groups : List Char} (h : GroupText marks groups []) :
    groups = [] := by
  cases h
  rfl

/-- A whole part is read, up to where it stops. -/
lemma wholePart_append {whole digits rest : List Char} (h : WholeText [' ', '.'] whole digits)
    (hrest : Stops rest) : wholePart (whole ++ rest) = some (digits, rest) := by
  obtain ⟨hhead, hstop⟩ := hrest
  rw [wholePart_eq]
  cases h with
  | plain hdigits =>
    rw [digitRun_append hdigits.2 hhead, if_neg hdigits.1, hstop]
    exact if_neg fun hgroups => hgroups.1 rfl
  | @grouped first groups digits hfirst hlength hgroups =>
    rw [List.append_assoc, digitRun_append hfirst.2 (hgroups.head_append hhead),
      if_neg hfirst.1, digitGroups_append hgroups hstop]
    dsimp only
    by_cases hdigits : digits = []
    · subst hdigits
      rw [hgroups.eq_nil_of_digits, if_neg fun h => h.1 rfl, List.append_nil, List.nil_append]
    · rw [if_pos ⟨hdigits, hlength⟩]

/-- A fraction that is read is one. -/
lemma fractionPart_spec {text digits rest : List Char}
    (h : fractionPart text = some (digits, rest)) :
    ∃ fraction, text = fraction ++ rest ∧ (∀ c ∈ digits, isDigit c = true) ∧
      FractionText fraction (radixValue 10 digits / 10 ^ digits.length) := by
  unfold fractionPart at h
  split at h
  · rename_i tail
    obtain ⟨htail, hall, -⟩ := digitRun_spec tail
    unfold digitRun at htail hall
    rw [List.span_eq_takeWhile_dropWhile] at h
    dsimp only at h htail hall
    split_ifs at h with hlength
    obtain ⟨rfl, rfl⟩ := Prod.mk.inj (Option.some.inj h)
    have hne : tail.takeWhile isDigit ≠ [] := List.ne_nil_of_length_pos hlength.1
    refine ⟨',' :: tail.takeWhile isDigit, ?_, hall, FractionText.comma ⟨hne, hall⟩ hlength.2⟩
    rw [List.cons_append, ← htail]
  · obtain ⟨rfl, rfl⟩ := Prod.mk.inj (Option.some.inj h)
    refine ⟨[], rfl, by decide, ?_⟩
    convert FractionText.none using 1
    simp [radixValue_zero]

/-- What is left after a fraction does not continue it. -/
lemma EuroBack.head {back : List Char} (h : EuroBack back) :
    ∀ c ∈ back.head?, isDigit c = false ∧ c ≠ ',' := by
  intro c hc
  cases h with
  | none => cases hc
  | sign =>
    obtain rfl := Option.some.inj hc
    decide
  | blank hblank =>
    obtain rfl := Option.some.inj hc
    constructor
    · by_contra hdigit
      rw [not_isSpace_of_isDigit (by simpa using hdigit)] at hblank
      cases hblank
    · rintro rfl
      exact absurd hblank (by decide)

/-- A fraction is read, with its value. -/
lemma fractionPart_append {fraction back : List Char} {part : ℚ} (h : FractionText fraction part)
    (hback : EuroBack back) :
    ∃ digits, fractionPart (fraction ++ back) = some (digits, back) ∧
      (∀ c ∈ digits, isDigit c = true) ∧
      part = radixValue 10 digits / 10 ^ digits.length := by
  cases h with
  | none =>
    refine ⟨['0'], ?_, by decide, by simp [radixValue_zero]⟩
    rw [List.nil_append]
    unfold fractionPart
    split
    · exact absurd rfl (hback.head ',' rfl).2
    · rfl
  | @comma digits hdigits hlength =>
    refine ⟨digits, ?_, hdigits.2, rfl⟩
    have hread := digitRun_append hdigits.2 fun c hc => (hback.head c hc).1
    unfold digitRun at hread
    rw [List.cons_append, fractionPart, List.span_eq_takeWhile_dropWhile, hread]
    dsimp only
    rw [if_pos ⟨List.length_pos_of_ne_nil hdigits.1, hlength⟩]

/-- What follows the whole part stops it. -/
lemma stops_fraction {fraction back : List Char} {part : ℚ} (h : FractionText fraction part)
    (hback : EuroBack back) : Stops (fraction ++ back) := by
  cases h with
  | comma => exact ⟨fun c hc => by cases hc; decide, digitGroups_of_ne (by decide) (by decide) _⟩
  | none =>
    refine ⟨fun c hc => (hback.head c hc).1, ?_⟩
    cases hback with
    | none => rfl
    | sign => rfl
    | blank => rfl

/-- The sign at the end is read. -/
lemma isEuroEnd_iff (text : List Char) : isEuroEnd text = true ↔ EuroBack text := by
  constructor
  · intro h
    unfold isEuroEnd at h
    split at h
    · exact EuroBack.none
    · exact EuroBack.sign
    · exact EuroBack.blank h
    · cases h
  · intro h
    cases h with
    | none => rfl
    | sign => rfl
    | blank hblank =>
      unfold isEuroEnd
      split
      · rfl
      · rfl
      · rename_i heq
        obtain ⟨rfl, -⟩ := List.cons.inj heq
        exact hblank
      · rename_i hother
        exact absurd rfl (hother _)

/-- The sign in front is dropped. -/
lemma dropEuro_spec (text : List Char) :
    ∃ front, EuroFront front ∧ text = front ++ dropEuro text := by
  unfold dropEuro
  split
  · split_ifs with hblank
    · exact ⟨_, EuroFront.blank hblank, rfl⟩
    · exact ⟨_, EuroFront.sign, rfl⟩
  · exact ⟨_, EuroFront.sign, rfl⟩
  · exact ⟨_, EuroFront.none, rfl⟩

/-- The sign in front of digits is dropped, and no more. -/
lemma dropEuro_append {front : List Char} (h : EuroFront front) {c : Char}
    (hc : isDigit c = true) (rest : List Char) : dropEuro (front ++ c :: rest) = c :: rest := by
  cases h with
  | none =>
    rw [List.nil_append]
    have hne : c ≠ '€' := by
      rintro rfl
      exact absurd hc (by decide)
    unfold dropEuro
    split
    · rename_i heq
      exact absurd (List.cons.inj heq).1 hne
    · rename_i heq
      exact absurd (List.cons.inj heq).1 hne
    · rfl
  | sign =>
    show (if isSpace c = true then rest else c :: rest) = c :: rest
    rw [not_isSpace_of_isDigit hc]
    rfl
  | blank hblank => exact if_pos hblank

/-! ## The pattern -/

/-- The parts of a text that the pattern accepts. -/
lemma matchPrice_eq_some_iff {text : List Char} {decimal : String} :
    matchPrice text = some decimal ↔ ∃ whole rest fraction back,
      wholePart (dropEuro text) = some (whole, rest) ∧
      fractionPart rest = some (fraction, back) ∧ isEuroEnd back = true ∧
      String.ofList (whole ++ '.' :: fraction) = decimal := by
  unfold matchPrice
  simp only [Option.bind_eq_bind, Option.bind_eq_some_iff, Option.ite_none_right_eq_some,
    Option.some_inj, Prod.exists]
  constructor
  · intro h
    obtain ⟨whole, rest, hwhole, fraction, back, hfraction, hback, hdecimal⟩ := h
    exact ⟨whole, rest, fraction, back, hwhole, hfraction, hback, hdecimal⟩
  · intro h
    obtain ⟨whole, rest, fraction, back, hwhole, hfraction, hback, hdecimal⟩ := h
    exact ⟨whole, rest, hwhole, fraction, back, hfraction, hback, hdecimal⟩

/-- **The price pattern** accepts the texts of the grammar, and gives the amount of each.

**Proof sketch.** The pattern reads the euro sign, the whole part, the fraction and what follows in
turn. Each of them takes a part of the grammar (`dropEuro_spec`, `wholePart_spec`,
`fractionPart_spec`), and takes such a part whole where the text goes on as the grammar says
(`wholePart_append`, `fractionPart_append`). -/
theorem matchPrice_iff {text : List Char} {amount : ℚ} :
    (matchPrice text).map (fun decimal => exactDecimal decimal.toList) = some amount ↔
      AmountText [' ', '.'] text amount := by
  rw [Option.map_eq_some_iff]
  constructor
  · intro h
    obtain ⟨decimal, hmatch, rfl⟩ := h
    obtain ⟨digits, rest, fractionDigits, back, hreadWhole, hreadFraction, hback, rfl⟩ :=
      matchPrice_eq_some_iff.mp hmatch
    obtain ⟨front, hfront, htext⟩ := dropEuro_spec text
    obtain ⟨whole, hdrop, hwhole⟩ := wholePart_spec hreadWhole
    obtain ⟨fraction, rfl, hdigits, hfraction⟩ := fractionPart_spec hreadFraction
    rw [String.toList_ofList, exactDecimal_point hwhole.all_isDigit hdigits, htext, hdrop]
    exact AmountText.mk hfront hwhole hfraction ((isEuroEnd_iff back).mp hback)
  · intro h
    obtain ⟨hfront, hwhole, hfraction, hback⟩ := h
    rename_i front whole digits fraction back part
    obtain ⟨fractionDigits, hread, hdigits, rfl⟩ := fractionPart_append hfraction hback
    have hdrop : dropEuro (front ++ (whole ++ (fraction ++ back))) =
        whole ++ (fraction ++ back) := by
      obtain ⟨⟨c, rest, hcons, hc⟩, -⟩ := hwhole.ends
      rw [hcons]
      exact dropEuro_append hfront hc _
    refine ⟨String.ofList (digits ++ '.' :: fractionDigits), ?_, ?_⟩
    · apply matchPrice_eq_some_iff.mpr
      refine ⟨digits, fraction ++ back, fractionDigits, back, ?_, hread, ?_, rfl⟩
      · rw [hdrop]
        exact wholePart_append hwhole (stops_fraction hfraction hback)
      · exact (isEuroEnd_iff back).mpr hback
    · rw [String.toList_ofList, exactDecimal_point hwhole.all_isDigit hdigits]

example : matchPrice "12.99".toList = none ∧ matchPrice "1,234".toList = none := by decide

/-! ## The price of a text -/

variable {dateParse : String → Option ℤ} {collate : String → String → Ordering}

/-- **The texts with a price.** -/
theorem parsePrice_eq_some_iff {text : String} {amount : ℚ} :
    parsePrice (exactBrowser dateParse collate) text = some amount ↔
      PriceText text.toList amount ∨ (IsFree text.toList ∧ amount = 0) := by
  rw [priceText_iff, isFree_iff]
  show (if lowerCase (trim (text.toList.map toBlank)) = "free".toList then some (0 : ℚ)
    else (matchPrice (trim (text.toList.map toBlank))).map fun decimal =>
      exactDecimal decimal.toList) = some amount ↔ _
  split_ifs with hfree
  · rw [Option.some_inj, and_iff_right hfree, eq_comm, or_iff_right]
    intro hprice
    exact hprice.not_free hfree
  · rw [matchPrice_iff, or_iff_left]
    intro h
    exact hfree h.1

/-- The text has no price: it is neither a price nor "Free". -/
def NoPrice (text : String) : Prop :=
  ¬IsFree text.toList ∧ ∀ amount, ¬PriceText text.toList amount

/-- The texts without a price. -/
lemma parsePrice_eq_none_iff {text : String} :
    parsePrice (exactBrowser dateParse collate) text = none ↔ NoPrice text := by
  rw [Option.eq_none_iff_forall_ne_some]
  simp only [ne_eq, parsePrice_eq_some_iff, not_or, not_and]
  constructor
  · intro h
    exact ⟨fun hfree => (h 0).2 hfree rfl, fun amount => (h amount).1⟩
  · intro h amount
    exact ⟨h.2 amount, fun hfree => absurd hfree h.1⟩

/-- A browser whose `Number` rounds to the nearest double. -/
def roundingBrowser (dateParse : String → Option ℤ) (collate : String → String → Ordering) :
    Browser Binary64 where
  dateParse := dateParse
  number text := parseDecimal text.toList
  zero := Binary64.round 0
  collate := collate

/-- **Rounding.** The double of a price text is its exact amount, rounded once. -/
theorem parsePrice_roundingBrowser (text : String) :
    parsePrice (roundingBrowser dateParse collate) text =
      (parsePrice (exactBrowser dateParse collate) text).map Binary64.round := by
  have hround : (roundingBrowser dateParse collate).number =
      Binary64.round ∘ (exactBrowser dateParse collate).number := by
    funext decimal
    exact parseDecimal_eq_round decimal.toList
  unfold parsePrice
  dsimp only
  split_ifs with hfree
  · rfl
  · rw [hround, Option.map_map]

/-! ## The order of the cards -/

/-- A PS Plus tier includes the game: the offer says so, or the label is one of a tier. -/
def PlusIncluded (game : Game) : Prop :=
  game.plusOffer = some .included ∨ ∃ label, game.plusUpsellText = some label ∧
    lowerCase (trim label.toList) ∈ ["essential".toList, "extra".toList]

/-- The label of a tier, as the sort reads it. -/
lemma label_mem_iff {game : Game} :
    (game.plusOffer = some .included ∨
      (game.plusUpsellText.map fun text => lowerCase (trim text.toList)).getD [] ∈
        plusIncludedLabels.map String.toList) ↔ PlusIncluded game := by
  unfold PlusIncluded
  cases game.plusUpsellText with
  | none => simp [plusIncludedLabels]
  | some label => simp [plusIncludedLabels]

/-- The cards without a price in the sort. -/
lemma priceKey_eq_none_iff {game : Game} :
    priceKey (exactBrowser dateParse collate) game = none ↔
      NoPrice game.price ∧ ¬PlusIncluded game := by
  unfold priceKey
  dsimp only
  rw [← label_mem_iff]
  split_ifs with hincluded
  · constructor
    · intro h
      cases h
    · intro h
      exact absurd hincluded h.2
  · rw [parsePrice_eq_none_iff, and_iff_left hincluded]

/-- What a card costs in the sort: nothing where a PS Plus tier includes the game, whatever its text
is, and the amount of its text elsewhere. -/
def Costs (game : Game) (amount : ℚ) : Prop :=
  PlusIncluded game ∧ amount = 0 ∨
    ¬PlusIncluded game ∧
      (PriceText game.price.toList amount ∨ IsFree game.price.toList ∧ amount = 0)

/-- The price of a card in the sort. -/
lemma priceKey_eq_some_iff {game : Game} {amount : ℚ} :
    priceKey (exactBrowser dateParse collate) game = some amount ↔ Costs game amount := by
  unfold priceKey Costs
  dsimp only
  rw [← label_mem_iff]
  split_ifs with hincluded
  · rw [Option.some.injEq]
    constructor
    · intro hzero
      exact Or.inl ⟨hincluded, hzero.symm⟩
    · rintro (⟨-, hzero⟩ | ⟨hnot, -⟩)
      · exact hzero.symm
      · exact absurd hincluded hnot
  · rw [parsePrice_eq_some_iff]
    constructor
    · intro hamount
      exact Or.inr ⟨hincluded, hamount⟩
    · rintro (⟨hyes, -⟩ | ⟨-, hamount⟩)
      · exact absurd hyes hincluded
      · exact hamount

/-- **The prices in the sort.** Every price text has its exact amount, "Free" has 0, and no other
text has a price; every amount has a text with each of the group marks. The sort by price loses no
card, puts those without a price last in both directions (their text has no price, and no PS Plus
tier includes the game), and orders the others by what they cost, where a game that a tier includes
costs 0 whatever its text is.

**Proof sketch.** `priceKey_eq_some_iff` and `priceKey_eq_none_iff` read the key of a card from the
grammar of the texts. The sort is stable and by an optional key (`sortsByKey_compareKeys`), so of
any two cards in its order the comparison is not `gt`, and the two kinds of keys give the two parts
about the order. -/
theorem prices_sort (dateParse : String → Option ℤ) (collate : String → String → Ordering) :
    (∀ text amount, parsePrice (exactBrowser dateParse collate) text = some amount ↔
      PriceText text.toList amount ∨ (IsFree text.toList ∧ amount = 0)) ∧
    (∀ mark ∈ groupMarks, ∀ cents : ℕ, PriceText (groupedPrice mark cents) (cents / 100)) ∧
    ∀ games direction,
      (sortGames (exactBrowser dateParse collate) games { field := .price, direction }).Perm games ∧
      (sortGames (exactBrowser dateParse collate) games { field := .price, direction }).Pairwise
        (fun a b => NoPrice a.price ∧ ¬PlusIncluded a → NoPrice b.price ∧ ¬PlusIncluded b) ∧
      (sortGames (exactBrowser dateParse collate) games { field := .price, direction }).Pairwise
        fun a b => ∀ x y, Costs a x → Costs b y → if direction = .asc then x ≤ y else y ≤ x := by
  refine ⟨fun text amount => parsePrice_eq_some_iff, fun mark hmark cents =>
    priceText_groupedPrice hmark cents, fun games direction => ?_⟩
  have hsort : SortsByKey
      (compareGames (exactBrowser dateParse collate) { field := .price, direction })
      (hasKey (exactBrowser dateParse collate) .price) fun games =>
        sortGames (exactBrowser dateParse collate) games { field := .price, direction } :=
    sortsByKey_compareKeys direction (priceKey (exactBrowser dateParse collate))
  refine ⟨hsort.perm games, (hsort.sorted games).imp ?_, (hsort.sorted games).imp ?_⟩
  · intro a b horder hfirst
    have hkey := @priceKey_eq_none_iff dateParse collate
    rw [← hkey] at hfirst ⊢
    by_contra hsecond
    obtain ⟨amount, hamount⟩ := Option.ne_none_iff_exists'.mp hsecond
    apply horder
    show compareKeys (priceKey _ a) (priceKey _ b) direction compare = .gt
    rw [hfirst, hamount]
    rfl
  · intro a b horder x y hx hy
    have hcompare : compareKeys (some x) (some y) direction compare ≠ .gt := by
      rw [← (@priceKey_eq_some_iff dateParse collate _ _).mpr hx,
        ← (@priceKey_eq_some_iff dateParse collate _ _).mpr hy]
      exact horder
    cases direction with
    | asc => exact compare_le_iff_le.mp hcompare
    | desc =>
      apply compare_ge_iff_ge.mp
      intro hlt
      exact hcompare (congrArg Ordering.swap hlt)

/-- A card without a price text, of a game that a PS Plus tier includes. -/
def includedCard : Game := { listCard "Alpha" "" "Included" with plusOffer := some .included }

/-- A card that a PS Plus tier includes sorts as free of charge, in front of a card with a price,
although its text has none. -/
theorem includedCard_first :
    ¬ ∀ (games : List Game) (direction : SortDirection),
      (sortGames (exactBrowser parseDateMs compare) games
        { field := .price, direction }).Pairwise fun a b =>
          NoPrice a.price → NoPrice b.price := by
  intro h
  have hlast := h [includedCard, listCard "Beta" "" "12 €"] .asc
  have hsorted : sortGames (exactBrowser parseDateMs compare)
      [includedCard, listCard "Beta" "" "12 €"] { field := .price, direction := .asc } =
        [includedCard, listCard "Beta" "" "12 €"] := by
    apply List.Pairwise.insertionSort_eq
    rw [List.pairwise_pair]
    decide +kernel
  rw [hsorted, List.pairwise_pair] at hlast
  have htext : parsePrice (exactBrowser parseDateMs compare) "Included" = none := by
    decide +kernel
  have hprice : parsePrice (exactBrowser parseDateMs compare) "12 €" ≠ none := by
    decide +kernel
  exact hprice (parsePrice_eq_none_iff.mpr (hlast (parsePrice_eq_none_iff.mp htext)))

end Web

end PsStore
