import Mathlib.Data.List.Basic
import Mathlib.Tactic.NormNum
import PsStore.Lib.DecodeBy

set_option relaxedAutoImplicit false
set_option autoImplicit false

/-!
# UTF-8

The lossy decoder of the standard library: every maximal part of a broken sequence becomes one
replacement character. The encoder is `String.utf8EncodeChar`.

## Main definitions

* `fromUtf8Lossy` — the text of bytes.
* `toUtf8` — the bytes of a text.
* `asciiText` — the text of ASCII bytes.

## Main results

* `fromUtf8Lossy_toUtf8` — a text survives its encoding.
* `mem_fromUtf8Lossy` — an ASCII byte is decoded wherever it stands.
-/

/-- The bytes of a text. -/
def toUtf8 (text : List Char) : List UInt8 := text.flatMap String.utf8EncodeChar

/-- The character for a broken sequence. -/
def replacementChar : Char := '\ufffd'

/-- A byte `10xxxxxx`. -/
def isContinuation (b : UInt8) : Bool := decide (0x80 ≤ b.toNat) && decide (b.toNat ≤ 0xbf)

/-- The second byte of a sequence of three: no overlong form and no surrogate. -/
def isSecondOfThree (a b : UInt8) : Bool :=
  isContinuation b && (decide (a.toNat ≠ 0xe0) || decide (0xa0 ≤ b.toNat)) &&
    (decide (a.toNat ≠ 0xed) || decide (b.toNat ≤ 0x9f))

/-- The second byte of a sequence of four: no overlong form and no more than U+10FFFF. -/
def isSecondOfFour (a b : UInt8) : Bool :=
  isContinuation b && (decide (a.toNat ≠ 0xf0) || decide (0x90 ≤ b.toNat)) &&
    (decide (a.toNat ≠ 0xf4) || decide (b.toNat ≤ 0x8f))

/-- The low six bits of a byte. -/
def lowBits (b : UInt8) : ℕ := b.toNat % 64

/-- The character at the first of two bytes, and how many of the bytes after it belong to it. -/
def twoBytes (a : UInt8) : List UInt8 → Char × ℕ
  | b :: _ =>
    if isContinuation b then (Char.ofNat (a.toNat % 32 * 64 + lowBits b), 1)
    else (replacementChar, 0)
  | [] => (replacementChar, 0)

/-- The character at the first of three bytes. -/
def threeBytes (a : UInt8) : List UInt8 → Char × ℕ
  | b :: c :: _ =>
    if isSecondOfThree a b then
      if isContinuation c then
        (Char.ofNat (a.toNat % 16 * 4096 + lowBits b * 64 + lowBits c), 2)
      else (replacementChar, 1)
    else (replacementChar, 0)
  | [b] => (replacementChar, if isSecondOfThree a b then 1 else 0)
  | [] => (replacementChar, 0)

/-- The character at the first of four bytes. -/
def fourBytes (a : UInt8) : List UInt8 → Char × ℕ
  | b :: c :: d :: _ =>
    if isSecondOfFour a b then
      if isContinuation c then
        if isContinuation d then
          (Char.ofNat (a.toNat % 8 * 262144 + lowBits b * 4096 + lowBits c * 64 + lowBits d), 3)
        else (replacementChar, 2)
      else (replacementChar, 1)
    else (replacementChar, 0)
  | [b, c] =>
    (replacementChar, if isSecondOfFour a b then if isContinuation c then 2 else 1 else 0)
  | [b] => (replacementChar, if isSecondOfFour a b then 1 else 0)
  | [] => (replacementChar, 0)

/-- The character that starts at a byte, and how many of the bytes after it belong to it. A broken
sequence ends before the first byte that cannot continue it. -/
def firstChar (a : UInt8) (rest : List UInt8) : Char × ℕ :=
  if a.toNat ≤ 0x7f then (Char.ofNat a.toNat, 0)
  else if 0xc2 ≤ a.toNat ∧ a.toNat ≤ 0xdf then twoBytes a rest
  else if 0xe0 ≤ a.toNat ∧ a.toNat ≤ 0xef then threeBytes a rest
  else if 0xf0 ≤ a.toNat ∧ a.toNat ≤ 0xf4 then fourBytes a rest
  else (replacementChar, 0)

/-- `String::from_utf8_lossy`. -/
def fromUtf8Lossy (bytes : List UInt8) : List Char := decodeBy firstChar bytes

/-- An ASCII byte is a character of its own. -/
lemma firstChar_ascii {a : UInt8} (h : a.toNat ≤ 0x7f) (rest : List UInt8) :
    firstChar a rest = (Char.ofNat a.toNat, 0) := if_pos h

/-- The second bytes are continuation bytes. -/
lemma isContinuation_of_second {a b : UInt8}
    (h : isSecondOfThree a b = true ∨ isSecondOfFour a b = true) : isContinuation b = true := by
  unfold isSecondOfThree isSecondOfFour at h
  simp only [Bool.and_eq_true] at h
  rcases h with h | h
  · exact h.1.1
  · exact h.1.1

/-- The bytes after the first of two are continuation bytes. -/
lemma isContinuation_of_mem_twoBytes {a b : UInt8} {rest : List UInt8}
    (h : b ∈ rest.take (twoBytes a rest).2) : isContinuation b = true := by
  unfold twoBytes at h
  split at h
  · split_ifs at h with hb
    · rw [List.mem_singleton.mp h]
      exact hb
    · cases h
  · cases h

/-- The bytes after the first of three are continuation bytes. -/
lemma isContinuation_of_mem_threeBytes {a b : UInt8} {rest : List UInt8}
    (h : b ∈ rest.take (threeBytes a rest).2) : isContinuation b = true := by
  unfold threeBytes at h
  split at h
  · split_ifs at h with hb hc
    · rcases List.mem_pair.mp h with rfl | rfl
      · exact isContinuation_of_second (Or.inl hb)
      · exact hc
    · rw [List.mem_singleton.mp h]
      exact isContinuation_of_second (Or.inl hb)
    · cases h
  · dsimp only at h
    split_ifs at h with hb
    · rw [List.mem_singleton.mp h]
      exact isContinuation_of_second (Or.inl hb)
    · cases h
  · cases h

/-- The bytes after the first of four are continuation bytes. -/
lemma isContinuation_of_mem_fourBytes {a b : UInt8} {rest : List UInt8}
    (h : b ∈ rest.take (fourBytes a rest).2) : isContinuation b = true := by
  unfold fourBytes at h
  split at h
  · split_ifs at h with hb hc hd
    · simp only [List.take_succ_cons, List.take_zero, List.mem_cons, List.not_mem_nil,
        or_false] at h
      rcases h with rfl | rfl | rfl
      · exact isContinuation_of_second (Or.inr hb)
      · exact hc
      · exact hd
    · rcases List.mem_pair.mp h with rfl | rfl
      · exact isContinuation_of_second (Or.inr hb)
      · exact hc
    · rw [List.mem_singleton.mp h]
      exact isContinuation_of_second (Or.inr hb)
    · cases h
  · dsimp only at h
    split_ifs at h with hb hc
    · rcases List.mem_pair.mp h with rfl | rfl
      · exact isContinuation_of_second (Or.inr hb)
      · exact hc
    · rw [List.mem_singleton.mp h]
      exact isContinuation_of_second (Or.inr hb)
    · cases h
  · dsimp only at h
    split_ifs at h with hb
    · rw [List.mem_singleton.mp h]
      exact isContinuation_of_second (Or.inr hb)
    · cases h
  · cases h

/-- The bytes that belong to the character before them are continuation bytes. -/
lemma isContinuation_of_mem_take {a b : UInt8} {rest : List UInt8}
    (h : b ∈ rest.take (firstChar a rest).2) : isContinuation b = true := by
  unfold firstChar at h
  split_ifs at h
  · simp at h
  · exact isContinuation_of_mem_twoBytes h
  · exact isContinuation_of_mem_threeBytes h
  · exact isContinuation_of_mem_fourBytes h
  · simp at h

/-- **An ASCII byte is decoded wherever it stands.** -/
lemma mem_fromUtf8Lossy {a : UInt8} (h : a.toNat ≤ 0x7f) {bytes : List UInt8} (hmem : a ∈ bytes) :
    Char.ofNat a.toNat ∈ fromUtf8Lossy bytes := by
  refine mem_decodeBy ?_ ?_ hmem
  · intro rest
    rw [firstChar_ascii h]
  · intro c rest htake
    have hcontinuation := isContinuation_of_mem_take htake
    unfold isContinuation at hcontinuation
    simp only [Bool.and_eq_true, decide_eq_true_eq] at hcontinuation
    omega

/-- The value of a byte below 256. -/
lemma toNat_ofNat_lt {n : ℕ} (h : n < 256) : (UInt8.ofNat n).toNat = n := by
  rw [UInt8.toNat_ofNat']
  omega

/-- A byte with six bits of a value continues a sequence. -/
lemma continuation_spec (v : ℕ) :
    (UInt8.ofNat (v % 0x40 + 0x80)).toNat = v % 64 + 0x80 ∧
      isContinuation (UInt8.ofNat (v % 0x40 + 0x80)) = true ∧
      lowBits (UInt8.ofNat (v % 0x40 + 0x80)) = v % 64 := by
  have hb : (UInt8.ofNat (v % 0x40 + 0x80)).toNat = v % 64 + 0x80 := toNat_ofNat_lt (by omega)
  unfold isContinuation lowBits
  rw [hb]
  refine ⟨rfl, ?_, by omega⟩
  simp only [Bool.and_eq_true, decide_eq_true_eq]
  omega

/-- The value from U+0080 to U+07FF in two bytes. -/
lemma firstChar_two {v : ℕ} (hlow : 0x80 ≤ v) (hhigh : v ≤ 0x7ff) (rest : List UInt8) :
    firstChar (UInt8.ofNat (v / 64 % 0x20 + 0xc0)) (UInt8.ofNat (v % 0x40 + 0x80) :: rest) =
      (Char.ofNat v, 1) := by
  have ha : (UInt8.ofNat (v / 64 % 0x20 + 0xc0)).toNat = v / 64 + 0xc0 := by
    rw [toNat_ofNat_lt (by omega)]
    omega
  obtain ⟨-, hb, hbits⟩ := continuation_spec v
  have hvalue : (v / 64 + 0xc0) % 32 * 64 + v % 64 = v := by omega
  unfold firstChar
  rw [ha, if_neg (by omega), if_pos (by omega)]
  rw [twoBytes, if_pos hb, ha, hbits, hvalue]

/-- The value from U+0800 to U+FFFF in three bytes. -/
lemma firstChar_three {v : ℕ} (hlow : 0x800 ≤ v) (hhigh : v ≤ 0xffff)
    (hvalid : v < 0xd800 ∨ 0xdfff < v) (rest : List UInt8) :
    firstChar (UInt8.ofNat (v / 4096 % 0x10 + 0xe0))
      (UInt8.ofNat (v / 64 % 0x40 + 0x80) :: UInt8.ofNat (v % 0x40 + 0x80) :: rest) =
      (Char.ofNat v, 2) := by
  have ha : (UInt8.ofNat (v / 4096 % 0x10 + 0xe0)).toNat = v / 4096 + 0xe0 := by
    rw [toNat_ofNat_lt (by omega)]
    omega
  obtain ⟨hbyte, hb, hbits⟩ := continuation_spec (v / 64)
  obtain ⟨-, hc, hbits'⟩ := continuation_spec v
  have hsecond : isSecondOfThree (UInt8.ofNat (v / 4096 % 0x10 + 0xe0))
      (UInt8.ofNat (v / 64 % 0x40 + 0x80)) = true := by
    unfold isSecondOfThree
    rw [hb, ha, hbyte]
    simp only [Bool.and_eq_true, Bool.or_eq_true, decide_eq_true_eq, true_and]
    omega
  have hvalue : (v / 4096 + 0xe0) % 16 * 4096 + v / 64 % 64 * 64 + v % 64 = v := by omega
  unfold firstChar
  rw [ha, if_neg (by omega), if_neg (by omega), if_pos (by omega)]
  rw [threeBytes, if_pos hsecond, if_pos hc, ha, hbits, hbits', hvalue]

/-- The value from U+10000 to U+10FFFF in four bytes. -/
lemma firstChar_four {v : ℕ} (hlow : 0x10000 ≤ v) (hhigh : v ≤ 0x10ffff) (rest : List UInt8) :
    firstChar (UInt8.ofNat (v / 262144 % 0x08 + 0xf0))
      (UInt8.ofNat (v / 4096 % 0x40 + 0x80) :: UInt8.ofNat (v / 64 % 0x40 + 0x80) ::
        UInt8.ofNat (v % 0x40 + 0x80) :: rest) = (Char.ofNat v, 3) := by
  have ha : (UInt8.ofNat (v / 262144 % 0x08 + 0xf0)).toNat = v / 262144 + 0xf0 := by
    rw [toNat_ofNat_lt (by omega)]
    omega
  obtain ⟨hbyte, hb, hbits⟩ := continuation_spec (v / 4096)
  obtain ⟨-, hc, hbits'⟩ := continuation_spec (v / 64)
  obtain ⟨-, hd, hbits''⟩ := continuation_spec v
  have hsecond : isSecondOfFour (UInt8.ofNat (v / 262144 % 0x08 + 0xf0))
      (UInt8.ofNat (v / 4096 % 0x40 + 0x80)) = true := by
    unfold isSecondOfFour
    rw [hb, ha, hbyte]
    simp only [Bool.and_eq_true, Bool.or_eq_true, decide_eq_true_eq, true_and]
    omega
  have hvalue : (v / 262144 + 0xf0) % 8 * 262144 + v / 4096 % 64 * 4096 + v / 64 % 64 * 64 +
      v % 64 = v := by omega
  unfold firstChar
  rw [ha, if_neg (by omega), if_neg (by omega), if_neg (by omega), if_pos (by omega)]
  rw [fourBytes, if_pos hsecond, if_pos hc, if_pos hd, ha, hbits, hbits', hbits'', hvalue]

/-- **A character survives its encoding.**

**Proof sketch.** By the number of bytes: the first byte says how many follow, and the decoder reads
the character off them (`firstChar_two`, `firstChar_three`, `firstChar_four`), whatever stands
behind. -/
theorem fromUtf8Lossy_utf8EncodeChar (c : Char) (rest : List UInt8) :
    fromUtf8Lossy (String.utf8EncodeChar c ++ rest) = c :: fromUtf8Lossy rest := by
  have hvalid : c.toNat < 0xd800 ∨ (0xdfff < c.toNat ∧ c.toNat < 0x110000) := c.valid
  have hself : Char.ofNat c.toNat = c := Char.ofNat_toNat c
  have hfirst : ∃ a tail, String.utf8EncodeChar c = a :: tail ∧
      firstChar a (tail ++ rest) = (c, tail.length) := by
    unfold String.utf8EncodeChar
    dsimp only
    rw [show c.val.toNat = c.toNat from rfl]
    generalize c.toNat = v at hvalid hself
    subst hself
    split_ifs with hone htwo hthree
    · refine ⟨_, _, rfl, ?_⟩
      have ha : (UInt8.ofNat v).toNat = v := toNat_ofNat_lt (by omega)
      unfold firstChar
      rw [ha, if_pos hone]
      rfl
    · exact ⟨_, _, rfl, firstChar_two (by omega) htwo rest⟩
    · exact ⟨_, _, rfl, firstChar_three (by omega) hthree (by omega) rest⟩
    · exact ⟨_, _, rfl, firstChar_four (by omega) (by omega) rest⟩
  obtain ⟨a, tail, hencode, hfirst⟩ := hfirst
  rw [hencode, List.cons_append]
  exact decodeBy_cons_append hfirst

/-- **A text survives its encoding.** -/
theorem fromUtf8Lossy_toUtf8 (text : List Char) : fromUtf8Lossy (toUtf8 text) = text := by
  induction text with
  | nil => rfl
  | cons c text ih =>
    show fromUtf8Lossy (String.utf8EncodeChar c ++ toUtf8 text) = c :: text
    rw [fromUtf8Lossy_utf8EncodeChar, ih]

/-- The encoding of two texts one after the other. -/
lemma toUtf8_append (front tail : List Char) :
    toUtf8 (front ++ tail) = toUtf8 front ++ toUtf8 tail :=
  List.flatMap_append

/-- The encoding of texts with a separator between them. -/
lemma toUtf8_intercalate (separator : List Char) (texts : List (List Char)) :
    toUtf8 (separator.intercalate texts) = (toUtf8 separator).intercalate (texts.map toUtf8) := by
  induction texts with
  | nil => rfl
  | cons text texts ih =>
    cases texts with
    | nil => rw [List.map_singleton, List.intercalate_singleton, List.intercalate_singleton]
    | cons next texts =>
      rw [List.intercalate_cons_cons, toUtf8_append, toUtf8_append, ih, List.map_cons,
        List.map_cons, List.map_cons, List.intercalate_cons_cons]

/-- The text of ASCII bytes. -/
def asciiText (bytes : List UInt8) : List Char := bytes.map fun b => Char.ofNat b.toNat

/-- ASCII bytes are the encoding of their text. -/
lemma toUtf8_asciiText {bytes : List UInt8} (h : ∀ b ∈ bytes, b.toNat ≤ 0x7f) :
    toUtf8 (asciiText bytes) = bytes := by
  have hbyte : ∀ n ≤ 0x7f, String.utf8EncodeChar (Char.ofNat n) = [UInt8.ofNat n] := by decide
  induction bytes with
  | nil => rfl
  | cons b bytes ih =>
    obtain ⟨hb, hbytes⟩ := List.forall_mem_cons.mp h
    show String.utf8EncodeChar (Char.ofNat b.toNat) ++ toUtf8 (asciiText bytes) = b :: bytes
    rw [hbyte _ hb, ih hbytes, UInt8.ofNat_toNat]
    rfl

example : fromUtf8Lossy [0x61, 0xe2, 0x82, 0x62, 0xc3, 0xa9] = ['a', '\ufffd', 'b', 'é'] := by
  decide
