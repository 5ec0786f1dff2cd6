import Mathlib.Data.List.Basic

set_option relaxedAutoImplicit false
set_option autoImplicit false

/-!
# The spellings of a JSON string

The same string has many spellings in a JSON text: each character stands there as it is, in UTF-8,
or as an escape. The spellings are the byte lists between the two quotation marks.

## Main definitions

* `Json.SpellsChar`, `Json.Spells` — the bytes are a spelling of a character, of a text.
* `Json.quoted` — a spelling between its quotation marks.
* `Json.escapeChar`, `Json.writeString` — the spelling that a writer picks.

## Main results

* `Json.Spells.eq_utf8` — a spelling without a backslash is the text itself.
* `Json.spells_escapeChar` — what is written spells the text.
-/

namespace Json

/-- The byte of an ASCII character. -/
def ascii (c : Char) : UInt8 := c.toNat.toUInt8

/-- The byte that starts an escape. -/
def backslash : UInt8 := ascii '\\'

/-- The characters with a short escape, after its letter. -/
def shortEscapes : List (Char × Char) :=
  [('"', '"'), ('\\', '\\'), ('/', '/'), ('b', '\x08'), ('f', '\x0c'), ('n', '\n'), ('r', '\r'),
    ('t', '\t')]

/-- The value of a hexadecimal digit, in upper or lower case. -/
def hexDigit (b : UInt8) : Option ℕ :=
  if 48 ≤ b ∧ b ≤ 57 then some (b.toNat - 48)
  else if 65 ≤ b ∧ b ≤ 70 then some (b.toNat - 55)
  else if 97 ≤ b ∧ b ≤ 102 then some (b.toNat - 87)
  else none

/-- The bytes are an escaped UTF-16 code unit. -/
def SpellsUnit (raw : List UInt8) (unit : ℕ) : Prop :=
  ∃ a b c d w x y z, raw = [backslash, ascii 'u', a, b, c, d] ∧
    hexDigit a = some w ∧ hexDigit b = some x ∧ hexDigit c = some y ∧ hexDigit d = some z ∧
    unit = 4096 * w + 256 * x + 16 * y + z

/-- The bytes are a spelling of the character. -/
inductive SpellsChar : List UInt8 → Char → Prop where
  /-- The character itself. -/
  | plain {c : Char} (hquote : c ≠ '"') (hbackslash : c ≠ '\\') (hcontrol : 32 ≤ c.toNat) :
    SpellsChar (String.utf8EncodeChar c) c
  /-- A short escape. -/
  | short {letter c : Char} (h : (letter, c) ∈ shortEscapes) :
    SpellsChar [backslash, ascii letter] c
  /-- The code unit of the character. -/
  | unit {raw : List UInt8} {c : Char} (h : SpellsUnit raw c.toNat) : SpellsChar raw c
  /-- The two surrogates of the character. -/
  | pair {raw raw' : List UInt8} {c : Char} {high low : ℕ} (hhigh : SpellsUnit raw (0xD800 + high))
      (hlow : SpellsUnit raw' (0xDC00 + low)) (hlt : low < 1024)
      (hc : c.toNat = 0x10000 + 1024 * high + low) : SpellsChar (raw ++ raw') c

/-- The bytes are a spelling of the text. -/
inductive Spells : List UInt8 → List Char → Prop where
  | nil : Spells [] []
  | cons {raw raws : List UInt8} {c : Char} {text : List Char} (hchar : SpellsChar raw c)
      (htext : Spells raws text) : Spells (raw ++ raws) (c :: text)

/-- A spelling between its quotation marks. -/
def quoted (raw : List UInt8) : List UInt8 := ascii '"' :: (raw ++ [ascii '"'])

/-- The short escapes that are written. A slash stands as it is. -/
def writtenEscapes : List (Char × Char) := shortEscapes.filter fun entry => entry.2 != '/'

/-- The spelling of a character: a short escape, the code unit of any other control character, or
the character itself. -/
def escapeChar (c : Char) : List Char :=
  match writtenEscapes.find? fun entry => entry.2 == c with
  | some entry => ['\\', entry.1]
  | none =>
    if c.toNat < 32 then
      ['\\', 'u', '0', '0', Nat.digitChar (c.toNat / 16), Nat.digitChar (c.toNat % 16)]
    else [c]

/-- A text between quotation marks. -/
def writeString (text : List Char) : List Char := '"' :: (text.flatMap escapeChar ++ ['"'])

/-- An escaped code unit starts with a backslash. -/
lemma SpellsUnit.backslash_mem {raw : List UInt8} {unit : ℕ} (h : SpellsUnit raw unit) :
    backslash ∈ raw := by
  obtain ⟨a, b, c, d, w, x, y, z, rfl, -⟩ := h
  exact List.mem_cons_self

/-- A character that is spelled without a backslash stands as it is. -/
lemma SpellsChar.eq_utf8 {raw : List UInt8} {c : Char} (h : SpellsChar raw c)
    (hraw : backslash ∉ raw) : raw = String.utf8EncodeChar c := by
  cases h with
  | plain hquote hbackslash hcontrol => rfl
  | short hletter => exact absurd List.mem_cons_self hraw
  | unit hunit => exact absurd hunit.backslash_mem hraw
  | pair hhigh hlow hlt hc =>
    exact absurd (List.mem_append_left _ hhigh.backslash_mem) hraw

/-- **A spelling without a backslash** is the text itself, in UTF-8. -/
theorem Spells.eq_utf8 {raw : List UInt8} {text : List Char} (h : Spells raw text)
    (hraw : backslash ∉ raw) : raw = text.flatMap String.utf8EncodeChar := by
  induction h with
  | nil => rfl
  | cons hchar htext ih =>
    rw [List.mem_append, not_or] at hraw
    rw [List.flatMap_cons, ← hchar.eq_utf8 hraw.1, ← ih hraw.2]

/-! ## Writing -/

/-- The digits of a control character. -/
lemma spellsUnit_control {n : ℕ} (h : n < 32) :
    SpellsUnit (['\\', 'u', '0', '0', Nat.digitChar (n / 16), Nat.digitChar (n % 16)].flatMap
      String.utf8EncodeChar) n := by
  have hdigit : ∀ k < 16, String.utf8EncodeChar (Nat.digitChar k) = [ascii (Nat.digitChar k)] ∧
      hexDigit (ascii (Nat.digitChar k)) = some k := by decide
  obtain ⟨hhigh, hhighValue⟩ := hdigit (n / 16) (by omega)
  obtain ⟨hlow, hlowValue⟩ := hdigit (n % 16) (by omega)
  refine ⟨ascii '0', ascii '0', ascii (Nat.digitChar (n / 16)), ascii (Nat.digitChar (n % 16)),
    0, 0, n / 16, n % 16, ?_, by decide, by decide, hhighValue, hlowValue, by omega⟩
  simp only [List.flatMap_cons, List.flatMap_nil, hhigh, hlow]
  rfl

/-- **What is written** is a spelling of the character. -/
lemma spellsChar_escapeChar (c : Char) :
    SpellsChar ((escapeChar c).flatMap String.utf8EncodeChar) c := by
  unfold escapeChar
  cases hfind : writtenEscapes.find? fun entry => entry.2 == c with
  | some entry =>
    have hall : ∀ entry ∈ writtenEscapes, entry ∈ shortEscapes ∧
        ['\\', entry.1].flatMap String.utf8EncodeChar = [backslash, ascii entry.1] := by decide
    obtain ⟨hshort, hbytes⟩ := hall entry (List.mem_of_find?_eq_some hfind)
    obtain rfl : entry.2 = c := by simpa using List.find?_some hfind
    dsimp only
    rw [hbytes]
    exact .short hshort
  | none =>
    have hother : ∀ entry ∈ writtenEscapes, entry.2 ≠ c := by
      intro entry hentry
      simpa using List.find?_eq_none.mp hfind entry hentry
    dsimp only
    split_ifs with hcontrol
    · exact .unit (spellsUnit_control hcontrol)
    · rw [List.flatMap_singleton]
      refine .plain ?_ ?_ (by omega)
      · exact (hother ('"', '"') (by decide)).symm
      · exact (hother ('\\', '\\') (by decide)).symm

/-- **What is written** is a spelling of the text. -/
theorem spells_escapeChar (text : List Char) :
    Spells ((text.flatMap escapeChar).flatMap String.utf8EncodeChar) text := by
  induction text with
  | nil => exact .nil
  | cons c text ih =>
    rw [List.flatMap_cons, List.flatMap_append]
    exact .cons (spellsChar_escapeChar c) ih

end Json
