import Mathlib.Data.List.Basic
import Mathlib.Data.Nat.Notation
import PsStore.Lib.Binary64
import PsStore.Lib.InsertionMap
import PsStore.Lib.Json
import PsStore.Lib.JsonString

set_option relaxedAutoImplicit false
set_option autoImplicit false

/-!
# JSON texts

A writer and a reader of JSON texts. The writer adds no white space. The reader takes white space,
every escape, and a repeated key: its last value stands at its first place. It has no text for a
surrogate without its partner. A number with a fraction or an exponent is rounded to a binary64
value, of which it keeps the integer, where it is one.

## Main definitions

* `Json.write` — the text of a value.
* `Json.Plain` — every number is an integer, and no object repeats a key.
* `Json.read` — the value of a text.

## Main results

* `Json.readString_escape` — a written string is read back.
* `Json.read_write` — a plain value is read back from its text.
-/

namespace Json

/-! ## Writing -/

/-- The text of an integer. Another number stands for its value, which is not kept. -/
def writeNumber : Number → List Char
  | .posInt n => Nat.toDigits 10 n
  | .negInt n => '-' :: Nat.toDigits 10 n
  | .float none => "0.5".toList
  | .float (some (.ofNat n)) => Nat.toDigits 10 n ++ ".0".toList
  | .float (some (.negSucc n)) => '-' :: Nat.toDigits 10 (n + 1) ++ ".0".toList

mutual

/-- The text of a value. -/
def write : Value → List Char
  | .null => "null".toList
  | .bool true => "true".toList
  | .bool false => "false".toList
  | .number n => writeNumber n
  | .string text => writeString text.toList
  | .array items => '[' :: writeItems items
  | .object fields => '\x7b' :: writeFields fields

/-- The elements of an array, up to its closing bracket. -/
def writeItems : List Value → List Char
  | [] => [']']
  | [item] => write item ++ [']']
  | item :: next :: items => write item ++ ',' :: writeItems (next :: items)

/-- The fields of an object, up to its closing bracket. -/
def writeFields : List (String × Value) → List Char
  | [] => ['\x7d']
  | [(key, value)] => writeString key.toList ++ ':' :: write value ++ ['\x7d']
  | (key, value) :: next :: fields =>
    writeString key.toList ++ ':' :: write value ++ ',' :: writeFields (next :: fields)

end

mutual

/-- Every number of the value is an integer, without a negative zero, and no object repeats a
key. -/
def Plain : Value → Prop
  | .null | .bool _ | .string _ => True
  | .number (.posInt _) => True
  | .number (.negInt n) => n ≠ 0
  | .number (.float _) => False
  | .array items => PlainItems items
  | .object fields => (fields.map Prod.fst).Nodup ∧ PlainFields fields

/-- The elements are plain. -/
def PlainItems : List Value → Prop
  | [] => True
  | item :: items => Plain item ∧ PlainItems items

/-- The values of the fields are plain. -/
def PlainFields : List (String × Value) → Prop
  | [] => True
  | (_, value) :: fields => Plain value ∧ PlainFields fields

end

/-- The elements are plain where each one is. -/
lemma plainItems_iff {items : List Value} : PlainItems items ↔ ∀ item ∈ items, Plain item := by
  induction items with
  | nil => simp [PlainItems]
  | cons item items ih => simp [PlainItems, ih]

/-- The fields are plain where each value is. -/
lemma plainFields_iff {fields : List (String × Value)} :
    PlainFields fields ↔ ∀ field ∈ fields, Plain field.2 := by
  induction fields with
  | nil => simp [PlainFields]
  | cons field fields ih => simp [PlainFields, ih]

/-! ## Reading -/

/-- The white space between the parts of a text. -/
def isSpace (c : Char) : Bool := c ∈ [' ', '\t', '\n', '\r']

/-- The text without white space at its front. -/
def skipSpace (text : List Char) : List Char := text.dropWhile isSpace

/-- The text behind an expected front. -/
def expect (front text : List Char) : Option (List Char) :=
  if front <+: text then some (text.drop front.length) else none

/-- The value of a hexadecimal digit. -/
def hexValue (c : Char) : Option ℕ :=
  if '0' ≤ c ∧ c ≤ '9' then some (c.toNat - 48)
  else if 'A' ≤ c ∧ c ≤ 'F' then some (c.toNat - 55)
  else if 'a' ≤ c ∧ c ≤ 'f' then some (c.toNat - 87)
  else none

/-- The code unit of four hexadecimal digits. -/
def readUnit : List Char → Option (ℕ × List Char)
  | a :: b :: c :: d :: rest => do
    let w ← hexValue a
    let x ← hexValue b
    let y ← hexValue c
    let z ← hexValue d
    some (4096 * w + 256 * x + 16 * y + z, rest)
  | _ => none

/-- The character of one code unit or of two surrogates, behind the `u`. -/
def readUnicode (text : List Char) : Option (Char × List Char) := do
  let (unit, rest) ← readUnit text
  if 0xD800 ≤ unit ∧ unit < 0xDC00 then
    let (low, rest) ← expect ['\\', 'u'] rest >>= readUnit
    if 0xDC00 ≤ low ∧ low < 0xE000 then
      some (Char.ofNat (0x10000 + 1024 * (unit - 0xD800) + (low - 0xDC00)), rest)
    else none
  else if 0xDC00 ≤ unit ∧ unit < 0xE000 then none
  else some (Char.ofNat unit, rest)

/-- The character of an escape, behind its backslash. -/
def readEscape : List Char → Option (Char × List Char)
  | [] => none
  | letter :: rest =>
    if letter = 'u' then readUnicode rest
    else (shortEscapes.lookup letter).map fun c => (c, rest)

/-- A string up to its closing quotation mark. Every character takes one unit of fuel. -/
def readString : ℕ → List Char → Option (List Char × List Char)
  | 0, _ => none
  | _ + 1, [] => none
  | fuel + 1, c :: rest =>
    if c = '"' then some ([], rest)
    else if c = '\\' then do
      let (c, rest) ← readEscape rest
      let (text, rest) ← readString fuel rest
      some (c :: text, rest)
    else if c.toNat < 32 then none
    else do
      let (text, rest) ← readString fuel rest
      some (c :: text, rest)

/-- The digits at the front, and what follows them. -/
def readDigits (text : List Char) : List Char × List Char :=
  (text.takeWhile Char.isDigit, text.dropWhile Char.isDigit)

/-- The digits of a fraction, where there is one, and what follows it. -/
def readFraction : List Char → Option (Option (List Char) × List Char)
  | c :: rest =>
    if c = '.' then
      let (digits, rest) := readDigits rest
      if digits = [] then none else some (some digits, rest)
    else some (none, c :: rest)
  | [] => some (none, [])

/-- An exponent, where there is one, and what follows it. -/
def readExponent : List Char → Option (Option ℤ × List Char)
  | c :: rest =>
    if c = 'e' ∨ c = 'E' then
      let unsigned := if rest.head? = some '+' ∨ rest.head? = some '-' then rest.tail else rest
      let (digits, behind) := readDigits unsigned
      let exponent : ℤ := Nat.ofDigitChars 10 digits 0
      if digits = [] then none
      else some (some (if rest.head? = some '-' then -exponent else exponent), behind)
    else some (none, c :: rest)
  | [] => some (none, [])

/-- The integer that the binary64 value of `digits * 10 ^ exponent` is, if it is one. -/
def roundedInteger (digits : ℕ) (exponent : ℤ) : Option ℤ :=
  match Binary64.round (digits * 10 ^ exponent) with
  | .finite x _ => if x.den = 1 then some x.num else none
  | _ => none

/-- A number without sign, and what follows it. Its integer part has no leading zero. -/
def readUnsigned (text : List Char) : Option (Number × List Char) := do
  let (digits, rest) := readDigits text
  if digits = [] ∨ (digits.head? = some '0' ∧ digits.length ≠ 1) then none
  else
    let (fraction, rest) ← readFraction rest
    let (exponent, rest) ← readExponent rest
    match fraction, exponent with
    | none, none => some (.posInt (Nat.ofDigitChars 10 digits 0), rest)
    | _, _ =>
      let places := fraction.getD []
      let value := Nat.ofDigitChars 10 (digits ++ places) 0
      some (.float (roundedInteger value (exponent.getD 0 - places.length)), rest)

/-- The number behind a minus sign. -/
def negated : Number → Number
  | .posInt n => .negInt n
  | .negInt n => .posInt n
  | .float integer => .float (integer.map fun n => -n)

/-- A number. -/
def readNumber (text : List Char) : Option (Number × List Char) :=
  if text.head? = some '-' then
    (readUnsigned text.tail).map fun (n, rest) => (negated n, rest)
  else readUnsigned text

mutual

/-- A value, and what follows it. -/
def readValue : ℕ → List Char → Option (Value × List Char)
  | 0, _ => none
  | fuel + 1, text =>
    match skipSpace text with
    | [] => none
    | c :: rest =>
      if c = '"' then do
        let (text, rest) ← readString fuel rest
        some (.string (String.ofList text), rest)
      else if c = '[' then
        if (skipSpace rest).head? = some ']' then some (.array [], (skipSpace rest).tail)
        else (readItems fuel rest).map fun (items, rest) => (.array items, rest)
      else if c = '\x7b' then
        if (skipSpace rest).head? = some '\x7d' then some (.object [], (skipSpace rest).tail)
        else (readFields fuel rest).map fun (fields, rest) =>
          (.object (InsertionMap.ofEntries fields).entries, rest)
      else if c = 'n' then (expect "ull".toList rest).map fun rest => (.null, rest)
      else if c = 't' then (expect "rue".toList rest).map fun rest => (.bool true, rest)
      else if c = 'f' then (expect "alse".toList rest).map fun rest => (.bool false, rest)
      else (readNumber (c :: rest)).map fun (n, rest) => (.number n, rest)

/-- The elements of an array, up to its closing bracket. -/
def readItems : ℕ → List Char → Option (List Value × List Char)
  | 0, _ => none
  | fuel + 1, text => do
    let (item, rest) ← readValue fuel text
    match skipSpace rest with
    | [] => none
    | c :: rest =>
      if c = ']' then some ([item], rest)
      else if c = ',' then do
        let (items, rest) ← readItems fuel rest
        some (item :: items, rest)
      else none

/-- The fields of an object, up to its closing bracket. -/
def readFields : ℕ → List Char → Option (List (String × Value) × List Char)
  | 0, _ => none
  | fuel + 1, text => do
    let rest ← expect ['"'] (skipSpace text)
    let (key, rest) ← readString fuel rest
    let rest ← expect [':'] (skipSpace rest)
    let (value, rest) ← readValue fuel rest
    match skipSpace rest with
    | [] => none
    | c :: rest =>
      if c = '\x7d' then some ([(String.ofList key, value)], rest)
      else if c = ',' then do
        let (fields, rest) ← readFields fuel rest
        some ((String.ofList key, value) :: fields, rest)
      else none

end

/-- The value of a text. -/
def read (text : List Char) : Option Value := do
  let (value, rest) ← readValue (text.length + 1) text
  if skipSpace rest = [] then some value else none

/-! ## Strings -/

/-- The hexadecimal digits of a control character. -/
lemma hexValue_digitChar : ∀ n < 16, hexValue (Nat.digitChar n) = some n := by decide

/-- The code unit of a control character is read back. -/
lemma readUnicode_control {n : ℕ} (h : n < 32) (rest : List Char) :
    readUnicode ('0' :: '0' :: Nat.digitChar (n / 16) :: Nat.digitChar (n % 16) :: rest) =
      some (Char.ofNat n, rest) := by
  have hunit : readUnit
      ('0' :: '0' :: Nat.digitChar (n / 16) :: Nat.digitChar (n % 16) :: rest) =
      some (n, rest) := by
    have hzero : hexValue '0' = some 0 := by decide
    have hvalue : 16 * (n / 16) + n % 16 = n := by omega
    unfold readUnit
    simp [hzero, hexValue_digitChar (n / 16) (by omega), hexValue_digitChar (n % 16) (by omega),
      hvalue]
  have hhigh : ¬(0xD800 ≤ n ∧ n < 0xDC00) := by omega
  have hlow : ¬(0xDC00 ≤ n ∧ n < 0xE000) := by omega
  unfold readUnicode
  rw [hunit, Option.bind_eq_bind, Option.bind_some]
  dsimp only
  rw [if_neg hhigh, if_neg hlow]

/-- An escape is one character of a string. -/
lemma readString_escaped {fuel : ℕ} {escape rest : List Char} {c : Char}
    (h : readEscape escape = some (c, rest)) :
    readString (fuel + 1) ('\\' :: escape) =
      (readString fuel rest).map fun (text, rest) => (c :: text, rest) := by
  rw [readString, if_neg (by decide), if_pos rfl, h, Option.bind_eq_bind, Option.bind_some]
  dsimp only
  cases readString fuel rest <;> rfl

/-- **A written character** is read back. -/
lemma readString_escapeChar (fuel : ℕ) (c : Char) (rest : List Char) :
    readString (fuel + 1) (escapeChar c ++ rest) =
      (readString fuel rest).map fun (text, rest) => (c :: text, rest) := by
  unfold escapeChar
  cases hfind : writtenEscapes.find? fun entry => entry.2 == c with
  | some entry =>
    have hall : ∀ entry ∈ writtenEscapes,
        entry.1 ≠ 'u' ∧ shortEscapes.lookup entry.1 = some entry.2 := by decide
    obtain ⟨hletter, hlookup⟩ := hall entry (List.mem_of_find?_eq_some hfind)
    obtain rfl : entry.2 = c := by simpa using List.find?_some hfind
    apply readString_escaped
    show (if entry.1 = 'u' then _ else _) = _
    rw [if_neg hletter, hlookup]
    rfl
  | none =>
    have hother : ∀ entry ∈ writtenEscapes, entry.2 ≠ c := by
      intro entry hentry
      simpa using List.find?_eq_none.mp hfind entry hentry
    dsimp only
    split_ifs with hcontrol
    · apply readString_escaped
      have hread := readUnicode_control hcontrol rest
      rw [Char.ofNat_toNat] at hread
      exact hread
    · have hquote : c ≠ '"' := (hother ('"', '"') (by decide)).symm
      have hbackslash : c ≠ '\\' := (hother ('\\', '\\') (by decide)).symm
      rw [List.singleton_append, readString, if_neg hquote, if_neg hbackslash, if_neg hcontrol]
      cases readString fuel rest <;> rfl

/-- **A written string** is read back. -/
theorem readString_escape (text rest : List Char) {fuel : ℕ} (hfuel : text.length < fuel) :
    readString fuel (text.flatMap escapeChar ++ '"' :: rest) = some (text, rest) := by
  induction text generalizing fuel with
  | nil =>
    obtain ⟨fuel, rfl⟩ : ∃ n, fuel = n + 1 := ⟨fuel - 1, by simp at hfuel; omega⟩
    rfl
  | cons c text ih =>
    rw [List.length_cons] at hfuel
    obtain ⟨fuel, rfl⟩ : ∃ n, fuel = n + 1 := ⟨fuel - 1, by omega⟩
    rw [List.flatMap_cons, List.append_assoc, readString_escapeChar, ih (by omega)]
    rfl

/-! ## Numbers -/

/-- What follows a number: no digit, no fraction and no exponent. -/
def EndsNumber (rest : List Char) : Prop :=
  ∀ c ∈ rest.head?, c.isDigit = false ∧ c ≠ '.' ∧ c ≠ 'e' ∧ c ≠ 'E'

/-- The digits of a number are digits. -/
lemma isDigit_of_mem_toDigits {n : ℕ} {c : Char} (h : c ∈ Nat.toDigits 10 n) :
    c.isDigit = true :=
  Nat.isDigit_of_mem_toDigits (by decide) (by decide) h

/-- The digits before something else. -/
lemma readDigits_toDigits (n : ℕ) {rest : List Char} (hrest : EndsNumber rest) :
    readDigits (Nat.toDigits 10 n ++ rest) = (Nat.toDigits 10 n, rest) := by
  have hdigits : ∀ c ∈ Nat.toDigits 10 n, c.isDigit = true := fun c => isDigit_of_mem_toDigits
  unfold readDigits
  rw [List.takeWhile_append_of_pos hdigits,
    List.dropWhile_append_of_pos hdigits]
  cases rest with
  | nil => simp
  | cons c rest =>
    have hc : ¬c.isDigit = true := by simp [(hrest c rfl).1]
    rw [List.takeWhile_cons_of_neg hc, List.dropWhile_cons_of_neg hc, List.append_nil]

/-- A number of more than one digit starts with no zero. -/
lemma head?_toDigits (n : ℕ) : (Nat.toDigits 10 n).head? = some '0' → n = 0 := by
  induction n using Nat.base_induction 10 (by decide) with
  | single m hm =>
    intro h
    rw [Nat.toDigits_of_lt_base hm, List.head?_cons, Option.some.injEq] at h
    have hall : ∀ k < 10, Nat.digitChar k = '0' → k = 0 := by decide
    exact hall m hm h
  | digit m k hk hm ih =>
    intro h
    rw [← Nat.toDigits_append_toDigits (by decide) hm hk,
      List.head?_append_of_ne_nil _ Nat.toDigits_ne_nil] at h
    have := ih h
    omega

/-- The digits of a number have no leading zero. -/
lemma toDigits_no_leading_zero (n : ℕ) : ¬(Nat.toDigits 10 n = [] ∨
    ((Nat.toDigits 10 n).head? = some '0' ∧ (Nat.toDigits 10 n).length ≠ 1)) := by
  rintro (h | ⟨hhead, hlength⟩)
  · exact Nat.toDigits_ne_nil h
  · obtain rfl := head?_toDigits n hhead
    exact hlength rfl

/-- Behind a number there is no fraction. -/
lemma readFraction_of_ends {rest : List Char} (h : EndsNumber rest) :
    readFraction rest = some (none, rest) := by
  cases rest with
  | nil => rfl
  | cons c rest => exact if_neg (h c rfl).2.1

/-- Behind a number there is no exponent. -/
lemma readExponent_of_ends {rest : List Char} (h : EndsNumber rest) :
    readExponent rest = some (none, rest) := by
  cases rest with
  | nil => rfl
  | cons c rest =>
    obtain ⟨-, -, hlower, hupper⟩ := h c rfl
    exact if_neg (by simp [hlower, hupper])

/-- The digits at the front of a number. -/
lemma head?_toDigits_ne {n : ℕ} {rest : List Char} :
    (Nat.toDigits 10 n ++ rest).head? ≠ some '-' := by
  rw [List.head?_append_of_ne_nil _ Nat.toDigits_ne_nil]
  intro h
  have hdigit := isDigit_of_mem_toDigits (List.mem_of_mem_head? h)
  exact absurd hdigit (by decide)

/-- Written digits are read back. -/
lemma readUnsigned_toDigits (n : ℕ) {rest : List Char} (hrest : EndsNumber rest) :
    readUnsigned (Nat.toDigits 10 n ++ rest) = some (.posInt n, rest) := by
  unfold readUnsigned
  rw [readDigits_toDigits n hrest]
  dsimp only
  rw [if_neg (toDigits_no_leading_zero n), readFraction_of_ends hrest, Option.bind_eq_bind,
    Option.bind_some]
  dsimp only
  rw [readExponent_of_ends hrest, Option.bind_eq_bind, Option.bind_some]
  dsimp only
  rw [Nat.ofDigitChars_ten_toDigits]

/-- **A written integer** is read back. -/
theorem readNumber_writeNumber {n : Number} (hn : Plain (.number n)) {rest : List Char}
    (hrest : EndsNumber rest) : readNumber (writeNumber n ++ rest) = some (n, rest) := by
  unfold readNumber writeNumber
  cases n with
  | posInt n =>
    dsimp only
    rw [if_neg head?_toDigits_ne, readUnsigned_toDigits n hrest]
  | negInt n =>
    dsimp only
    rw [List.cons_append, List.head?_cons, if_pos rfl, List.tail_cons,
      readUnsigned_toDigits n hrest]
    rfl
  | float integer => exact absurd hn id

example : readNumber "1.0".toList = some (.float (some 1), []) := by decide +kernel

example : readNumber "-12e-1".toList = some (.float none, []) := by decide +kernel

/-! ## Values -/

/-- The first character of a value is no white space and closes nothing. -/
def StartsValue (text : List Char) : Prop :=
  ∃ c rest, text = c :: rest ∧ isSpace c = false ∧ c ≠ ']' ∧ c ≠ '\x7d'

/-- A digit is no white space and closes nothing. -/
lemma startsValue_toDigits (n : ℕ) : StartsValue (Nat.toDigits 10 n) := by
  obtain ⟨c, rest, htext⟩ := List.exists_cons_of_ne_nil (Nat.toDigits_ne_nil (n := n) (b := 10))
  have hdigit : c.isDigit = true := by
    apply @isDigit_of_mem_toDigits n
    rw [htext]
    exact List.mem_cons_self
  refine ⟨c, rest, htext, ?_, ?_, ?_⟩
  · have hnot : c ∉ [' ', '\t', '\n', '\r'] := by
      intro hmem
      have hall : ∀ d ∈ [' ', '\t', '\n', '\r'], d.isDigit = false := by decide
      rw [hall c hmem] at hdigit
      cases hdigit
    simpa [isSpace] using hnot
  · rintro rfl
    exact absurd hdigit (by decide)
  · rintro rfl
    exact absurd hdigit (by decide)

/-- **A written value** starts with its first character. -/
lemma startsValue_write {v : Value} (hv : Plain v) : StartsValue (write v) := by
  cases v with
  | null => exact ⟨'n', "ull".toList, rfl, by decide, by decide, by decide⟩
  | bool b =>
    cases b with
    | true => exact ⟨'t', "rue".toList, rfl, by decide, by decide, by decide⟩
    | false => exact ⟨'f', "alse".toList, rfl, by decide, by decide, by decide⟩
  | number n =>
    cases n with
    | posInt n => exact startsValue_toDigits n
    | negInt n => exact ⟨'-', _, rfl, by decide, by decide, by decide⟩
    | float integer => exact absurd hv id
  | string text => exact ⟨'"', _, rfl, by decide, by decide, by decide⟩
  | array items => exact ⟨'[', writeItems items, rfl, by decide, by decide, by decide⟩
  | object fields => exact ⟨'\x7b', writeFields fields, rfl, by decide, by decide, by decide⟩

/-- Without white space at its front a text stays as it is. -/
lemma StartsValue.skipSpace_append {text : List Char} (h : StartsValue text) (rest : List Char) :
    skipSpace (text ++ rest) = text ++ rest := by
  obtain ⟨c, tail, rfl, hspace, -⟩ := h
  exact List.dropWhile_cons_of_neg (by simp [hspace])

/-- A value that starts closes no bracket. -/
lemma StartsValue.head?_ne {text : List Char} (h : StartsValue text) (rest : List Char) :
    (text ++ rest).head? ≠ some ']' ∧ (text ++ rest).head? ≠ some '\x7d' := by
  obtain ⟨c, tail, rfl, -, hbracket, hbrace⟩ := h
  simp [hbracket, hbrace]

/-- A written string is longer than its text. -/
lemma length_writeString (text : List Char) : text.length + 2 ≤ (writeString text).length := by
  have hchar : ∀ c, 1 ≤ (escapeChar c).length := by
    intro c
    unfold escapeChar
    split
    · simp
    · split_ifs <;> simp
  have hflat : text.length ≤ (text.flatMap escapeChar).length := by
    induction text with
    | nil => simp
    | cons c text ih =>
      rw [List.flatMap_cons, List.length_cons, List.length_append]
      have := hchar c
      omega
  unfold writeString
  simp only [List.length_cons, List.length_append, List.length_nil]
  omega

/-- A separator ends a number. -/
lemma endsNumber_cons {c : Char} (h : c ∈ [',', ']', '\x7d']) (rest : List Char) :
    EndsNumber (c :: rest) := by
  intro d hd
  obtain rfl : c = d := by simpa using hd
  have hall : ∀ e ∈ [',', ']', '\x7d'],
      e.isDigit = false ∧ e ≠ '.' ∧ e ≠ 'e' ∧ e ≠ 'E' := by decide
  exact hall c h

/-- An expected front is passed over. -/
lemma expect_append (front rest : List Char) : expect front (front ++ rest) = some rest := by
  unfold expect
  rw [if_pos (List.prefix_append front rest), List.drop_left]

/-- A string is read up to its closing quotation mark. -/
lemma readValue_string (fuel : ℕ) (rest : List Char) :
    readValue (fuel + 1) ('"' :: rest) = (readString fuel rest).map fun (text, rest) =>
      (.string (String.ofList text), rest) := by
  rw [readValue]
  show (readString fuel rest >>= _) = _
  cases readString fuel rest <;> rfl

/-- An array is read up to its closing bracket. -/
lemma readValue_array (fuel : ℕ) {rest : List Char} (hspace : skipSpace rest = rest)
    (hne : rest.head? ≠ some ']') :
    readValue (fuel + 1) ('[' :: rest) = (readItems fuel rest).map fun (items, rest) =>
      (.array items, rest) := by
  rw [readValue]
  show (if (skipSpace rest).head? = some ']' then _ else (readItems fuel rest).map _) = _
  rw [hspace, if_neg hne]

/-- An object is read up to its closing bracket. -/
lemma readValue_object (fuel : ℕ) {rest : List Char} (hspace : skipSpace rest = rest)
    (hne : rest.head? ≠ some '\x7d') :
    readValue (fuel + 1) ('\x7b' :: rest) = (readFields fuel rest).map fun (fields, rest) =>
      (.object (InsertionMap.ofEntries fields).entries, rest) := by
  rw [readValue]
  show (if (skipSpace rest).head? = some '\x7d' then _ else (readFields fuel rest).map _) = _
  rw [hspace, if_neg hne]

/-- A number is read from its first character on. -/
lemma readValue_number (fuel : ℕ) {n : Number} (hn : Plain (.number n)) {rest : List Char}
    (hrest : EndsNumber rest) :
    readValue (fuel + 1) (writeNumber n ++ rest) = some (.number n, rest) := by
  have hstart : ∃ c tail, writeNumber n = c :: tail ∧ isSpace c = false ∧
      c ∉ ['"', '[', '\x7b', 'n', 't', 'f'] := by
    cases n with
    | posInt n =>
      obtain ⟨c, tail, htext, hspace, -⟩ := startsValue_toDigits n
      have hdigit : c.isDigit = true := by
        apply @isDigit_of_mem_toDigits n
        rw [htext]
        exact List.mem_cons_self
      refine ⟨c, tail, htext, hspace, ?_⟩
      intro hmem
      have hall : ∀ d ∈ ['"', '[', '\x7b', 'n', 't', 'f'], d.isDigit = false := by decide
      rw [hall c hmem] at hdigit
      cases hdigit
    | negInt n => exact ⟨'-', _, rfl, by decide, by decide⟩
    | float integer => exact absurd hn id
  obtain ⟨c, tail, htext, hspace, hnot⟩ := hstart
  simp only [List.mem_cons, List.not_mem_nil, or_false, not_or] at hnot
  obtain ⟨hquote, hbracket, hbrace, hnull, htrue, hfalse⟩ := hnot
  have hread := readNumber_writeNumber hn hrest
  rw [htext, List.cons_append] at hread
  have hskip : skipSpace (c :: (tail ++ rest)) = c :: (tail ++ rest) :=
    List.dropWhile_cons_of_neg (by simp [hspace])
  rw [htext, List.cons_append, readValue, hskip]
  dsimp only
  rw [if_neg hquote, if_neg hbracket, if_neg hbrace, if_neg hnull, if_neg htrue, if_neg hfalse,
    hread]
  rfl

/-- A field of an object, up to what follows its value. -/
lemma readFields_field {fuel : ℕ} {key : String} (hkey : key.toList.length < fuel)
    {text rest : List Char} {value : Value} (hread : readValue fuel text = some (value, rest)) :
    readFields (fuel + 1) (writeString key.toList ++ ':' :: text) =
      match skipSpace rest with
      | [] => none
      | c :: rest =>
        if c = '\x7d' then some ([(key, value)], rest)
        else if c = ',' then do
          let (fields, rest) ← readFields fuel rest
          some ((key, value) :: fields, rest)
        else none := by
  have htext : writeString key.toList ++ ':' :: text =
      ['"'] ++ (key.toList.flatMap escapeChar ++ '"' :: ([':'] ++ text)) := by
    simp [writeString]
  rw [htext, readFields]
  show (expect ['"'] (['"'] ++ _)).bind _ = _
  rw [expect_append, Option.bind_some, readString_escape key.toList _ hkey,
    Option.bind_eq_bind, Option.bind_some]
  show (expect [':'] ([':'] ++ text)).bind _ = _
  rw [expect_append, Option.bind_some, hread, String.ofList_toList]
  rfl

/-- What is written within the fuel is read back. -/
structure ReadsBack (fuel : ℕ) : Prop where
  value : ∀ (v : Value) (rest : List Char), Plain v → (write v).length ≤ fuel →
    EndsNumber rest → readValue fuel (write v ++ rest) = some (v, rest)
  items : ∀ (item : Value) (items : List Value) (rest : List Char), Plain item →
    PlainItems items → (writeItems (item :: items)).length ≤ fuel →
    readItems fuel (writeItems (item :: items) ++ rest) = some (item :: items, rest)
  fields : ∀ (key : String) (value : Value) (fields : List (String × Value))
    (rest : List Char), Plain value → PlainFields fields →
    (writeFields ((key, value) :: fields)).length ≤ fuel →
    readFields fuel (writeFields ((key, value) :: fields) ++ rest) =
      some ((key, value) :: fields, rest)

/-- Nothing is written within no fuel. -/
lemma readsBack_zero : ReadsBack 0 where
  value := by
    intro v rest hv hfuel
    obtain ⟨c, tail, htext, -⟩ := startsValue_write hv
    simp [htext] at hfuel
  items := by
    intro item items rest _ _ hfuel
    cases items <;> simp [writeItems] at hfuel
  fields := by
    intro key value fields rest _ _ hfuel
    cases fields <;> simp [writeFields] at hfuel

namespace ReadsBack

variable {fuel : ℕ} {rest : List Char}

/-- An array with elements is read back. -/
lemma array (h : ReadsBack fuel) {item : Value} {items : List Value} (hitem : Plain item)
    (hitems : PlainItems items) (hfuel : (write (.array (item :: items))).length ≤ fuel + 1) :
    readValue (fuel + 1) (write (.array (item :: items)) ++ rest) =
      some (.array (item :: items), rest) := by
  rw [write, List.length_cons] at hfuel
  obtain ⟨tail, htext⟩ : ∃ tail, writeItems (item :: items) = write item ++ tail := by
    cases items with
    | nil => exact ⟨_, rfl⟩
    | cons next items => exact ⟨_, rfl⟩
  have hstart := startsValue_write hitem
  have hspace : skipSpace (writeItems (item :: items) ++ rest) =
      writeItems (item :: items) ++ rest := by
    rw [htext, List.append_assoc, hstart.skipSpace_append]
  have hne : (writeItems (item :: items) ++ rest).head? ≠ some ']' := by
    rw [htext, List.append_assoc]
    exact (hstart.head?_ne _).1
  rw [write, List.cons_append, readValue_array fuel hspace hne,
    h.items item items rest hitem hitems (by omega)]
  rfl

/-- An object with fields is read back. -/
lemma object (h : ReadsBack fuel) {key : String} {value : Value}
    {fields : List (String × Value)} (hobject : Plain (.object ((key, value) :: fields)))
    (hfuel : (write (.object ((key, value) :: fields))).length ≤ fuel + 1) :
    readValue (fuel + 1) (write (.object ((key, value) :: fields)) ++ rest) =
      some (.object ((key, value) :: fields), rest) := by
  obtain ⟨hnodup, hvalue, hfields⟩ := hobject
  rw [write, List.length_cons] at hfuel
  obtain ⟨tail, htext⟩ : ∃ tail, writeFields ((key, value) :: fields) = '"' :: tail := by
    cases fields with
    | nil => exact ⟨_, rfl⟩
    | cons next fields => exact ⟨_, rfl⟩
  have hspace : skipSpace (writeFields ((key, value) :: fields) ++ rest) =
      writeFields ((key, value) :: fields) ++ rest := by
    rw [htext]
    rfl
  have hne : (writeFields ((key, value) :: fields) ++ rest).head? ≠ some '\x7d' := by
    rw [htext]
    nofun
  rw [write, List.cons_append, readValue_object fuel hspace hne,
    h.fields key value fields rest hvalue hfields (by omega), Option.map_some]
  dsimp only
  rw [InsertionMap.entries_ofEntries hnodup]

/-- A value is read back with one more unit of fuel.

**Proof sketch.** By the kind of the value. The first character tells the reader which kind it is.
Words and numbers need no fuel for their parts, a text has fewer characters than its quoted form,
and for arrays and objects the parts are read back with the fuel of `h`. -/
lemma value_succ (h : ReadsBack fuel) (v : Value) (hv : Plain v)
    (hfuel : (write v).length ≤ fuel + 1) (hrest : EndsNumber rest) :
    readValue (fuel + 1) (write v ++ rest) = some (v, rest) := by
  match v, hv with
  | .null, _ =>
    show readValue (fuel + 1) ('n' :: ("ull".toList ++ rest)) = _
    rw [readValue]
    show (expect "ull".toList ("ull".toList ++ rest)).map _ = _
    rw [expect_append]
    rfl
  | .bool true, _ =>
    show readValue (fuel + 1) ('t' :: ("rue".toList ++ rest)) = _
    rw [readValue]
    show (expect "rue".toList ("rue".toList ++ rest)).map _ = _
    rw [expect_append]
    rfl
  | .bool false, _ =>
    show readValue (fuel + 1) ('f' :: ("alse".toList ++ rest)) = _
    rw [readValue]
    show (expect "alse".toList ("alse".toList ++ rest)).map _ = _
    rw [expect_append]
    rfl
  | .number n, hn => exact readValue_number fuel hn hrest
  | .string text, _ =>
    have hlength := length_writeString text.toList
    have hlt : text.toList.length < fuel := by
      rw [write] at hfuel
      omega
    rw [write]
    show readValue (fuel + 1) ('"' :: (text.toList.flatMap escapeChar ++ ['"'] ++ rest)) = _
    rw [readValue_string, List.append_assoc, List.singleton_append,
      readString_escape text.toList rest hlt]
    simp
  | .array [], _ =>
    show readValue (fuel + 1) ('[' :: ']' :: rest) = _
    rw [readValue]
    rfl
  | .array (item :: items), hv => exact h.array hv.1 hv.2 hfuel
  | .object [], _ =>
    show readValue (fuel + 1) ('\x7b' :: '\x7d' :: rest) = _
    rw [readValue]
    rfl
  | .object ((key, value) :: fields), hv => exact h.object hv hfuel

/-- The elements of an array are read back with one more unit of fuel. -/
lemma items_succ (h : ReadsBack fuel) (item : Value) (items : List Value) (hitem : Plain item)
    (hitems : PlainItems items) (hfuel : (writeItems (item :: items)).length ≤ fuel + 1) :
    readItems (fuel + 1) (writeItems (item :: items) ++ rest) = some (item :: items, rest) := by
  cases items with
  | nil =>
    rw [writeItems, List.length_append, List.length_singleton] at hfuel
    have hread := h.value item (']' :: rest) hitem (by omega) (endsNumber_cons (by decide) rest)
    rw [writeItems, List.append_assoc, List.singleton_append, readItems, hread]
    rfl
  | cons next items =>
    rw [writeItems, List.length_append, List.length_cons] at hfuel
    have hread := h.value item (',' :: (writeItems (next :: items) ++ rest)) hitem (by omega)
      (endsNumber_cons (by decide) _)
    rw [writeItems, List.append_assoc, List.cons_append, readItems, hread]
    show (readItems fuel (writeItems (next :: items) ++ rest) >>= _) = _
    rw [h.items next items rest hitems.1 hitems.2 (by omega)]
    rfl

/-- The fields of an object are read back with one more unit of fuel. -/
lemma fields_succ (h : ReadsBack fuel) (key : String) (value : Value)
    (fields : List (String × Value)) (hvalue : Plain value) (hfields : PlainFields fields)
    (hfuel : (writeFields ((key, value) :: fields)).length ≤ fuel + 1) :
    readFields (fuel + 1) (writeFields ((key, value) :: fields) ++ rest) =
      some ((key, value) :: fields, rest) := by
  have hlength := length_writeString key.toList
  cases fields with
  | nil =>
    rw [writeFields, List.append_assoc, List.length_append, List.cons_append, List.length_cons,
      List.length_append, List.length_singleton] at hfuel
    have hread := h.value value ('\x7d' :: rest) hvalue (by omega)
      (endsNumber_cons (by decide) rest)
    rw [writeFields, List.append_assoc, List.append_assoc, List.cons_append,
      List.singleton_append, readFields_field (by omega) hread]
    rfl
  | cons next fields =>
    obtain ⟨nextKey, nextValue⟩ := next
    rw [writeFields, List.append_assoc, List.length_append, List.cons_append, List.length_cons,
      List.length_append, List.length_cons] at hfuel
    have hread := h.value value (',' :: (writeFields ((nextKey, nextValue) :: fields) ++ rest))
      hvalue (by omega) (endsNumber_cons (by decide) _)
    rw [writeFields, List.append_assoc, List.append_assoc, List.cons_append,
      List.cons_append, readFields_field (by omega) hread]
    show (readFields fuel (writeFields ((nextKey, nextValue) :: fields) ++ rest)).bind _ = _
    rw [h.fields nextKey nextValue fields rest hfields.1 hfields.2 (by omega),
      Option.bind_some]

end ReadsBack

/-- **What is written is read back**, whatever its length. -/
theorem readsBack (fuel : ℕ) : ReadsBack fuel := by
  induction fuel with
  | zero => exact readsBack_zero
  | succ fuel ih =>
    exact {
      value := fun v _ hv hfuel hrest => ih.value_succ v hv hfuel hrest
      items := fun item items _ hitem hitems hfuel => ih.items_succ item items hitem hitems hfuel
      fields := fun key value fields _ hvalue hfields hfuel =>
        ih.fields_succ key value fields hvalue hfields hfuel }

/-- **A plain value survives its text.** -/
theorem read_write {v : Value} (hv : Plain v) : read (write v) = some v := by
  have hread := (readsBack ((write v).length + 1)).value v [] hv (by omega) nofun
  rw [List.append_nil] at hread
  unfold read
  rw [hread]
  rfl

end Json
