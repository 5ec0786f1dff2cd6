import Mathlib.Data.List.DropRight
import PsStore.Domain.DateForm
import PsStore.Domain.Listing
import PsStore.Lib.KeyedSort

set_option relaxedAutoImplicit false
set_option autoImplicit false

/-!
# The sorts of the game lists

The client sorts a list by date, price or title, as `modules/sortGames.ts` does; the server sorts by
date. Both are stable sorts by an optional key. What the browser itself brings is a parameter: its
date parser, its reading of a decimal text as a number, and its collator. Lower case is ASCII in
the two comparisons with a fixed word: outside ASCII only U+0130 and U+212A have an ASCII letter in
their lower case, which is an `i` before a combining dot and a `k`, and no text of the source has
either.

## Main definitions

* `Web.Browser` — the parts of the browser.
* `Web.parsePrice`, `Web.dateKey`, `Web.priceKey`, `Web.nameKey` — the keys.
* `Web.compareKeys`, `Web.compareGames`, `Web.sortGames` — the comparison and the sort.

## Main results

* `sortsByKey_sortByDate`, `Web.sortsByKey_sortGames` — both sorts are stable, put the games without
  a key last, and change nothing on a sorted list.
* `Web.sortGames_date` — on the dates that the server sends, both sort by date alike.
* `Web.date_sorts` — all of these.
-/

namespace PsStore

/-! ## The server's sort -/

/-- The direction of a sort order. -/
def SortOrder.direction : SortOrder → SortDirection
  | .dateDesc => .desc
  | .dateAsc => .asc

/-- The server compares the optional instants. -/
lemma compareDates_eq (order : SortOrder) (a b : Game) :
    compareDates order a b =
      optionalOrder compare order.direction (parseDateMs a.date) (parseDateMs b.date) := by
  unfold compareDates
  cases parseDateMs a.date with
  | none => cases parseDateMs b.date <;> rfl
  | some x =>
    cases parseDateMs b.date with
    | none => rfl
    | some y =>
      cases order with
      | dateAsc => rfl
      | dateDesc =>
        show compare y x = (compare x y).swap
        exact Std.OrientedCmp.eq_swap

/-- The server's comparison, as a function. -/
lemma compareDates_eq_fun (order : SortOrder) :
    compareDates order = fun a b =>
      optionalOrder compare order.direction (parseDateMs a.date) (parseDateMs b.date) := by
  funext a b
  exact compareDates_eq order a b

/-- **The server's sort by date** keeps the promise of a sort by an optional key. -/
theorem sortsByKey_sortByDate (order : SortOrder) :
    SortsByKey (compareDates order) hasReleaseDate fun games => sortByDate games order := by
  show SortsByKey (compareDates order) hasReleaseDate (stableSort (compareDates order))
  rw [compareDates_eq_fun]
  exact sortsByKey_stableSort order.direction fun game : Game => parseDateMs game.date

namespace Web

/-! ## The browser -/

/-- What the browser brings: `Date.parse`, with `none` for `NaN`, `Number` of a decimal text, the
number 0, and the sign of `Intl.Collator.compare`. -/
structure Browser (δ : Type) where
  dateParse : String → Option ℤ
  number : String → δ
  zero : δ
  collate : String → String → Ordering

/-- The white space and the line terminators of JavaScript. -/
def isSpace (c : Char) : Bool :=
  c ∈ ['\t', '\n', '\x0b', '\x0c', '\r', ' ', '\u00a0', '\u1680', '\u2028', '\u2029', '\u202f',
    '\u205f', '\u3000', '\ufeff'] || (decide ('\u2000' ≤ c) && decide (c ≤ '\u200a'))

/-- `trim`. -/
def trim (text : List Char) : List Char := (text.dropWhile isSpace).rdropWhile isSpace

/-- `toLowerCase`, for a comparison with a lower-case word. -/
def lowerCase (text : List Char) : List Char := text.map Char.toLower

/-! ## The price of a card -/

/-- The digit groups of three after the first digits, each after a space or a dot, without the
separators. -/
def digitGroups : List Char → List Char × List Char
  | separator :: a :: b :: c :: rest =>
    if (separator = ' ' ∨ separator = '.') ∧ isDigit a ∧ isDigit b ∧ isDigit c then
      let (groups, rest) := digitGroups rest
      (a :: b :: c :: groups, rest)
    else ([], separator :: a :: b :: c :: rest)
  | rest => ([], rest)

/-- The whole part of a price: one to three digits and groups of three, or any number of digits. -/
def wholePart (text : List Char) : Option (List Char × List Char) :=
  let (first, rest) := text.span isDigit
  if first = [] then none
  else
    let (groups, afterGroups) := digitGroups rest
    if groups ≠ [] ∧ first.length ≤ 3 then some (first ++ groups, afterGroups)
    else some (first, rest)

/-- The fraction after a comma: one or two digits. Without a comma it is 0. -/
def fractionPart : List Char → Option (List Char × List Char)
  | ',' :: text =>
    let (digits, rest) := text.span isDigit
    if 1 ≤ digits.length ∧ digits.length ≤ 2 then some (digits, rest) else none
  | text => some (['0'], text)

/-- The optional euro sign in front, with an optional blank after it. -/
def dropEuro : List Char → List Char
  | '€' :: c :: rest => if isSpace c then rest else c :: rest
  | ['€'] => []
  | text => text

/-- Whether a text is some character and then `d` is decided by its tail. The equations of
`isEuroEnd` ask for it. -/
instance decidableForallNePair (text : List Char) (d : Char) :
    Decidable (∀ c : Char, text = [c, d] → False) :=
  decidable_of_iff (text.tail ≠ [d]) (by
    constructor
    · rintro h c rfl
      exact h rfl
    · intro h htail
      cases text with
      | nil => cases htail
      | cons c rest => exact h c (congrArg (c :: ·) htail))

/-- The optional euro sign at the end, with an optional blank in front of it. -/
def isEuroEnd : List Char → Bool
  | [] => true
  | ['€'] => true
  | [c, '€'] => isSpace c
  | _ => false

/-- The decimal text of `PRICE_PATTERN`: the whole part and the fraction. -/
def matchPrice (text : List Char) : Option String := do
  let (whole, rest) ← wholePart (dropEuro text)
  let (fraction, rest) ← fractionPart rest
  if isEuroEnd rest then some (String.ofList (whole ++ '.' :: fraction)) else none

example : matchPrice "€ 1.234,5".toList = some "1234.5" := by decide

variable {δ : Type} (browser : Browser δ)

/-- The number of a price text. "Free" is 0, and any text that is no price has none. -/
def parsePrice (text : String) : Option δ :=
  let blanks := text.toList.map fun c => if c = '\u00a0' ∨ c = '\u202f' then ' ' else c
  let normalized := trim blanks
  if lowerCase normalized = "free".toList then some browser.zero
  else (matchPrice normalized).map browser.number

/-! ## The keys -/

/-- The instant of the date. -/
def dateKey (game : Game) : Option ℤ := browser.dateParse game.date

/-- The labels of the tiers that include a game. -/
def plusIncludedLabels : List String := ["essential", "extra"]

/-- The price, which is 0 for a game that a PS Plus tier includes. -/
def priceKey (game : Game) : Option δ :=
  let label := (game.plusUpsellText.map fun text => lowerCase (trim text.toList)).getD []
  if game.plusOffer = some .included ∨ label ∈ plusIncludedLabels.map String.toList then
    some browser.zero
  else parsePrice browser game.price

/-- The title, where it is not blank. -/
def nameKey (game : Game) : Option String :=
  if trim game.name.toList = [] then none else some game.name

/-! ## The sort -/

/-- The fields to sort by. -/
inductive SortField where
  | date
  | price
  | name
deriving DecidableEq

/-- A sort of a game list. -/
structure GameSort where
  field : SortField
  direction : SortDirection
deriving DecidableEq

/-- The comparison of two keys. A missing key is last in both directions, and `desc` negates the
result for two present keys. -/
def compareKeys {κ : Type} (a b : Option κ) (direction : SortDirection)
    (compare : κ → κ → Ordering) : Ordering :=
  match a, b with
  | none, none => .eq
  | none, some _ => .gt
  | some _, none => .lt
  | some a, some b =>
    let order := compare a b
    if direction = .asc then order else order.swap

section

variable [LinearOrder δ]

/-- The comparison of two games. -/
def compareGames (sort : GameSort) (a b : Game) : Ordering :=
  match sort.field with
  | .name => compareKeys (nameKey a) (nameKey b) sort.direction browser.collate
  | .date => compareKeys (dateKey browser a) (dateKey browser b) sort.direction compare
  | .price => compareKeys (priceKey browser a) (priceKey browser b) sort.direction compare

/-- The sorted copy of a list. -/
def sortGames (games : List Game) (sort : GameSort) : List Game :=
  stableSort (compareGames browser sort) games

end

/-! ## What the sort promises -/

/-- The game has a key of the field. -/
def hasKey (field : SortField) (game : Game) : Bool :=
  match field with
  | .name => (nameKey game).isSome
  | .date => (dateKey browser game).isSome
  | .price => (priceKey browser game).isSome

/-- The comparison of the source is the comparison of optional keys. -/
lemma compareKeys_eq {κ : Type} (a b : Option κ) (direction : SortDirection)
    (compare : κ → κ → Ordering) :
    compareKeys a b direction compare = optionalOrder compare direction a b := by
  cases a with
  | none => cases b <;> rfl
  | some x =>
    cases b with
    | none => rfl
    | some y => cases direction <;> rfl

/-- A stable sort under the comparison of the source keeps the promise. -/
lemma sortsByKey_compareKeys {κ : Type} {cmp : κ → κ → Ordering} [Std.TransCmp cmp]
    (direction : SortDirection) (key : Game → Option κ) :
    SortsByKey (fun a b => compareKeys (key a) (key b) direction cmp)
      (fun game => (key game).isSome)
      (stableSort fun a b => compareKeys (key a) (key b) direction cmp) := by
  have hcompare : (fun a b => compareKeys (key a) (key b) direction cmp) = fun a b =>
      optionalOrder cmp direction (key a) (key b) := by
    funext a b
    exact compareKeys_eq _ _ direction cmp
  rw [hcompare]
  exact sortsByKey_stableSort direction key

variable {browser}

/-- **The client's sort** keeps the promise of a sort by an optional key, for each field. -/
theorem sortsByKey_sortGames [LinearOrder δ] [Std.TransCmp browser.collate] (sort : GameSort) :
    SortsByKey (compareGames browser sort) (hasKey browser sort.field) fun games =>
      sortGames browser games sort := by
  obtain ⟨field, direction⟩ := sort
  cases field with
  | name => exact sortsByKey_compareKeys direction nameKey
  | date => exact sortsByKey_compareKeys direction (dateKey browser)
  | price => exact sortsByKey_compareKeys direction (priceKey browser)

/-! ## The two sorts by date -/

/-- A date that the server sends: the empty text, or an instant in the `toISOString` form. -/
def IsServerDate (text : String) : Prop := text = "" ∨ ∃ ms, toIsoString ms = some text

/-- The browser reads a date of the server as the server does. -/
lemma dateParse_of_isServerDate
    (hiso : ∀ ms text, toIsoString ms = some text → browser.dateParse text = some ms)
    (hempty : browser.dateParse "" = none) {text : String} (h : IsServerDate text) :
    browser.dateParse text = parseDateMs text := by
  obtain rfl | ⟨ms, hms⟩ := h
  · rw [hempty, parseDateMs_empty]
  · rw [hiso ms text hms, parseDateMs_toIsoString hms]

/-- **Both sorts by date give the same order** on a list with dates of the server.

**Proof sketch.** The two comparisons agree on the games of the list, and a sort reads no others. -/
theorem sortGames_date [LinearOrder δ]
    (hiso : ∀ ms text, toIsoString ms = some text → browser.dateParse text = some ms)
    (hempty : browser.dateParse "" = none) {games : List Game}
    (hdates : ∀ game ∈ games, IsServerDate game.date) (order : SortOrder) :
    sortGames browser games { field := .date, direction := order.direction } =
      sortByDate games order := by
  have hagree : ∀ a ∈ games, ∀ b ∈ games,
      compareGames browser { field := .date, direction := order.direction } a b ≠ .gt ↔
        compareDates order (id a) (id b) ≠ .gt := by
    intro a ha b hb
    have hkeyA : dateKey browser a = parseDateMs a.date :=
      dateParse_of_isServerDate hiso hempty (hdates a ha)
    have hkeyB : dateKey browser b = parseDateMs b.date :=
      dateParse_of_isServerDate hiso hempty (hdates b hb)
    rw [compareDates_eq]
    show compareKeys (dateKey browser a) (dateKey browser b) order.direction compare ≠ .gt ↔ _
    rw [compareKeys_eq, hkeyA, hkeyB]
    exact Iff.rfl
  have hmap := List.map_insertionSort _ (fun a b => compareDates order a b ≠ .gt) id games hagree
  rw [List.map_id, List.map_id] at hmap
  exact hmap

/-- **The sorts of the lists.** The server's sort by date and the client's sort by each field keep
the promise of a sort by an optional key, in both directions, and the two sorts by date give the
same order on every list with dates of the server. -/
theorem date_sorts [LinearOrder δ] (browser : Browser δ) [Std.TransCmp browser.collate]
    (hiso : ∀ ms text, toIsoString ms = some text → browser.dateParse text = some ms)
    (hempty : browser.dateParse "" = none) :
    (∀ order, SortsByKey (compareDates order) hasReleaseDate fun games => sortByDate games order) ∧
      (∀ sort, SortsByKey (compareGames browser sort) (hasKey browser sort.field) fun games =>
        sortGames browser games sort) ∧
      ∀ games : List Game, (∀ game ∈ games, IsServerDate game.date) → ∀ order,
        sortGames browser games { field := .date, direction := order.direction } =
          sortByDate games order :=
  ⟨sortsByKey_sortByDate, sortsByKey_sortGames, fun _ hdates order =>
    sortGames_date hiso hempty hdates order⟩

/-- A browser that knows one decimal text. -/
def smallBrowser : Browser ℤ where
  dateParse := parseDateMs
  number text := if text = "12.0" then 12 else 0
  zero := 0
  collate := compare

/-- A card with a date and a price. -/
def listCard (name date price : String) : Game where
  id := ⟨"card", by decide⟩
  name := name
  date := date
  url := ""
  price := price
  originalPrice := ""
  discountText := ""
  discountDate := ""
  screenshots := []
  videos := []
  genres := []
  description := ""
  studio := ""
  preOrder := false
  plusUpsellText := none
  plusOffer := none
  idKind := .product

/-- A dated and an undated card, newest first. -/
theorem date_sorts_two :
    (sortGames smallBrowser [listCard "Alpha" "" "12 €", listCard "Beta" "" "Free"]
        { field := .price, direction := .asc }).Perm
      [listCard "Alpha" "" "12 €", listCard "Beta" "" "Free"] ∧
    sortGames smallBrowser [listCard "Alpha" "" "12 €",
        listCard "Beta" "1970-01-01T00:00:00.000Z" "Free"] { field := .date, direction := .desc } =
      sortByDate [listCard "Alpha" "" "12 €", listCard "Beta" "1970-01-01T00:00:00.000Z" "Free"]
        .dateDesc := by
  have hcollate : Std.TransCmp smallBrowser.collate :=
    inferInstanceAs (Std.TransCmp (compare : String → String → Ordering))
  obtain ⟨-, hclient, hsame⟩ := date_sorts smallBrowser
    (fun ms text h => parseDateMs_toIsoString h) parseDateMs_empty
  refine ⟨(hclient { field := .price, direction := .asc }).perm _, ?_⟩
  apply hsame _ _ .dateDesc
  intro game hgame
  rw [List.mem_cons, List.mem_singleton] at hgame
  obtain rfl | rfl := hgame
  · exact Or.inl rfl
  · exact Or.inr ⟨0, by decide⟩

end Web

end PsStore
