import Mathlib.Data.List.TakeWhile
import PsStore.Lib.Utf8

set_option relaxedAutoImplicit false
set_option autoImplicit false

/-!
# The form encoding

`application/x-www-form-urlencoded` over bytes: pairs of names and values, with `+` for a blank and
percent escapes for what has another meaning.

## Main definitions

* `FormUrlencoded.parse` — the pairs of an input.
* `FormUrlencoded.serialize` — the input of pairs.
* `FormUrlencoded.encodeComponent` — a text as a URI component.

## Main results

* `FormUrlencoded.parse_serialize` — the pairs survive their encoding.
* `FormUrlencoded.decode_encodeComponent` — a text survives its encoding as a URI component.
* `FormUrlencoded.parse_append` — what is written behind an input belongs to its last piece.
* `FormUrlencoded.slash_parsePiece` — a slash is decoded wherever it stands.
-/

namespace FormUrlencoded

/-! ## Reading -/

/-- The value of a hexadecimal digit. -/
def hexValue (b : UInt8) : Option ℕ :=
  if 0x30 ≤ b.toNat ∧ b.toNat ≤ 0x39 then some (b.toNat - 0x30)
  else if 0x41 ≤ b.toNat ∧ b.toNat ≤ 0x46 then some (b.toNat - 0x37)
  else if 0x61 ≤ b.toNat ∧ b.toNat ≤ 0x66 then some (b.toNat - 0x57)
  else none

/-- The byte of the escape that starts here, or the byte itself where none does. -/
def percentStep (b : UInt8) (rest : List UInt8) : UInt8 × ℕ :=
  if b = 0x25 then
    match rest with
    | high :: low :: _ =>
      match hexValue high, hexValue low with
      | some h, some l => (UInt8.ofNat (h * 16 + l), 2)
      | _, _ => (b, 0)
    | _ => (b, 0)
  else (b, 0)

/-- The bytes without percent escapes. -/
def percentDecode (bytes : List UInt8) : List UInt8 := decodeBy percentStep bytes

/-- A plus sign is a blank. -/
def plusToSpace (b : UInt8) : UInt8 := if b = 0x2b then 0x20 else b

/-- The text of a name or a value. -/
def decode (bytes : List UInt8) : String :=
  String.ofList (fromUtf8Lossy (percentDecode (bytes.map plusToSpace)))

/-- The bytes before the first equals sign and the bytes after it. -/
def splitPair (piece : List UInt8) : List UInt8 × List UInt8 :=
  (piece.takeWhile (· ≠ 0x3d), (piece.dropWhile (· ≠ 0x3d)).tail)

/-- The name and the value of a piece. -/
def parsePiece (piece : List UInt8) : String × String :=
  (decode (splitPair piece).1, decode (splitPair piece).2)

/-- The query without one question mark at its front. -/
def dropQuestion (query : List Char) : List Char :=
  if query.head? = some '?' then query.tail else query

/-- The pairs of an input. An empty piece between ampersands is no pair. -/
def parse (input : List UInt8) : List (String × String) :=
  ((input.splitOn 0x26).filter fun piece => piece ≠ []).map parsePiece

/-! ## Writing -/

/-- A hexadecimal digit. -/
def hexDigit (n : ℕ) : UInt8 := UInt8.ofNat (if n < 10 then 0x30 + n else 0x37 + n)

/-- A byte that is written as it is: a letter, a digit, or one of `*-._`. -/
def isPlain (b : UInt8) : Bool :=
  (decide (0x30 ≤ b.toNat) && decide (b.toNat ≤ 0x39)) ||
    (decide (0x41 ≤ b.toNat) && decide (b.toNat ≤ 0x5a)) ||
    (decide (0x61 ≤ b.toNat) && decide (b.toNat ≤ 0x7a)) || b ∈ [0x2a, 0x2d, 0x2e, 0x5f]

/-- The encoding of a byte. -/
def byteSerialize (b : UInt8) : List UInt8 :=
  if isPlain b then [b]
  else if b = 0x20 then [0x2b]
  else [0x25, hexDigit (b.toNat / 16), hexDigit (b.toNat % 16)]

/-- The encoding of a name or a value. -/
def encode (text : String) : List UInt8 := (toUtf8 text.toList).flatMap byteSerialize

/-- The piece of a pair. -/
def serializePair (pair : String × String) : List UInt8 :=
  encode pair.1 ++ 0x3d :: encode pair.2

/-- The input of pairs. -/
def serialize (pairs : List (String × String)) : List UInt8 :=
  [0x26].intercalate (pairs.map serializePair)

/-- A byte that a URI component holds as it is: a letter, a digit, or one of `-_.!~*'()`. -/
def isUnreserved (b : UInt8) : Bool :=
  (decide (0x30 ≤ b.toNat) && decide (b.toNat ≤ 0x39)) ||
    (decide (0x41 ≤ b.toNat) && decide (b.toNat ≤ 0x5a)) ||
    (decide (0x61 ≤ b.toNat) && decide (b.toNat ≤ 0x7a)) ||
    b ∈ [0x21, 0x27, 0x28, 0x29, 0x2a, 0x2d, 0x2e, 0x5f, 0x7e]

/-- The encoding of a byte in a URI component. -/
def componentByte (b : UInt8) : List UInt8 :=
  if isUnreserved b then [b] else [0x25, hexDigit (b.toNat / 16), hexDigit (b.toNat % 16)]

/-- The encoding of a text as a URI component. -/
def encodeComponent (text : List Char) : List UInt8 := (toUtf8 text).flatMap componentByte

/-! ## One byte -/

/-- A hexadecimal digit is read back. -/
lemma hexValue_hexDigit : ∀ n < 16, hexValue (hexDigit n) = some n := by decide

/-- A hexadecimal digit is a plain byte. -/
lemma isPlain_hexDigit : ∀ n < 16, isPlain (hexDigit n) = true := by decide

/-- A property of the 256 bytes is a property of every byte. -/
lemma forall_of_byte {p : UInt8 → Prop} (hall : ∀ n < 256, p (UInt8.ofNat n)) (b : UInt8) :
    p b := by
  have hself := hall b.toNat (UInt8.toNat_lt b)
  rwa [UInt8.ofNat_toNat] at hself

/-- A plain byte is ASCII and has no other meaning. -/
lemma isPlain_spec {b : UInt8} (h : isPlain b = true) :
    b.toNat ≤ 0x7f ∧ b ∉ [0x20, 0x23, 0x25, 0x26, 0x2b, 0x3d, 0x3f] := by
  revert h
  apply forall_of_byte (p := fun b => isPlain b = true → b.toNat ≤ 0x7f ∧
    b ∉ [0x20, 0x23, 0x25, 0x26, 0x2b, 0x3d, 0x3f])
  decide +kernel

/-- A byte outside escapes is its own reading. -/
lemma percentDecode_cons {b : UInt8} (h : b ≠ 0x25) (rest : List UInt8) :
    percentDecode (b :: rest) = b :: percentDecode rest := by
  have hstep : percentStep b ([] ++ rest) = (b, ([] : List UInt8).length) := if_neg h
  exact decodeBy_cons_append hstep

/-- An unreserved byte is ASCII and has no other meaning. -/
lemma isUnreserved_spec {b : UInt8} (h : isUnreserved b = true) :
    b.toNat ≤ 0x7f ∧ b ∉ [0x20, 0x23, 0x25, 0x26, 0x2b, 0x3d, 0x3f] := by
  revert h
  apply forall_of_byte (p := fun b => isUnreserved b = true → b.toNat ≤ 0x7f ∧
    b ∉ [0x20, 0x23, 0x25, 0x26, 0x2b, 0x3d, 0x3f])
  decide +kernel

/-- A byte without another meaning is read as it is. -/
lemma percentDecode_self {b : UInt8} (h : b ∉ [0x20, 0x23, 0x25, 0x26, 0x2b, 0x3d, 0x3f])
    (rest : List UInt8) :
    percentDecode ([b].map plusToSpace ++ rest) = b :: percentDecode rest := by
  simp only [List.mem_cons, List.not_mem_nil, or_false, not_or] at h
  rw [List.map_singleton, plusToSpace, if_neg h.2.2.2.2.1]
  exact percentDecode_cons h.2.2.1 rest

/-- A percent escape is read back: its digits are not plus signs. -/
lemma percentDecode_escape (b : UInt8) (rest : List UInt8) :
    percentDecode ([0x25, hexDigit (b.toNat / 16), hexDigit (b.toNat % 16)].map plusToSpace ++
      rest) = b :: percentDecode rest := by
  have hlt := UInt8.toNat_lt b
  have hdigit : ∀ n < 16, plusToSpace (hexDigit n) = hexDigit n := by decide
  have hhigh : b.toNat / 16 < 16 := by omega
  have hlow : b.toNat % 16 < 16 := by omega
  have hvalue : UInt8.ofNat (b.toNat / 16 * 16 + b.toNat % 16) = b := by
    rw [Nat.div_add_mod' b.toNat 16, UInt8.ofNat_toNat]
  simp only [List.map_cons, List.map_nil, hdigit _ hhigh, hdigit _ hlow]
  have hstep : percentStep 0x25 ([hexDigit (b.toNat / 16), hexDigit (b.toNat % 16)] ++ rest) =
      (b, [hexDigit (b.toNat / 16), hexDigit (b.toNat % 16)].length) := by
    unfold percentStep
    rw [if_pos rfl]
    simp only [List.cons_append, List.nil_append, hexValue_hexDigit _ hhigh,
      hexValue_hexDigit _ hlow, hvalue]
    rfl
  exact decodeBy_cons_append hstep

/-- **A byte survives its encoding.** -/
lemma percentDecode_byteSerialize (b : UInt8) (rest : List UInt8) :
    percentDecode ((byteSerialize b).map plusToSpace ++ rest) = b :: percentDecode rest := by
  unfold byteSerialize
  split_ifs with hplain hblank
  · exact percentDecode_self (isPlain_spec hplain).2 rest
  · subst hblank
    exact percentDecode_cons (by decide) rest
  · exact percentDecode_escape b rest

/-- A byte survives its encoding in a URI component. -/
lemma percentDecode_componentByte (b : UInt8) (rest : List UInt8) :
    percentDecode ((componentByte b).map plusToSpace ++ rest) = b :: percentDecode rest := by
  unfold componentByte
  split_ifs with hplain
  · exact percentDecode_self (isUnreserved_spec hplain).2 rest
  · exact percentDecode_escape b rest

/-! ## Names and values -/

/-- A text survives an encoding that its bytes survive. -/
lemma decode_flatMap {encodeByte : UInt8 → List UInt8}
    (h : ∀ b rest, percentDecode ((encodeByte b).map plusToSpace ++ rest) =
      b :: percentDecode rest) (text : List Char) :
    decode ((toUtf8 text).flatMap encodeByte) = String.ofList text := by
  have hbytes : ∀ bytes : List UInt8,
      percentDecode ((bytes.flatMap encodeByte).map plusToSpace) = bytes := by
    intro bytes
    induction bytes with
    | nil => rfl
    | cons b bytes ih => rw [List.flatMap_cons, List.map_append, h, ih]
  unfold decode
  rw [hbytes, fromUtf8Lossy_toUtf8]

/-- **A text survives its encoding.** -/
theorem decode_encode (text : String) : decode (encode text) = text := by
  unfold encode
  rw [decode_flatMap percentDecode_byteSerialize, String.ofList_toList]

/-- A text survives its encoding as a URI component. -/
theorem decode_encodeComponent (text : List Char) :
    decode (encodeComponent text) = String.ofList text :=
  decode_flatMap percentDecode_componentByte text

/-- **A URI component** holds no plus sign, so its escapes alone give the text back. -/
theorem percentDecode_encodeComponent (text : List Char) :
    percentDecode (encodeComponent text) = toUtf8 text := by
  have hplus : ∀ b : UInt8, (componentByte b).map plusToSpace = componentByte b := by
    apply forall_of_byte
    decide +kernel
  unfold encodeComponent
  generalize toUtf8 text = bytes
  induction bytes with
  | nil => rfl
  | cons b bytes ih =>
    rw [List.flatMap_cons, ← hplus b, percentDecode_componentByte, ih]

/-- The digits of an escape are plain bytes. -/
lemma isPlain_of_mem_escape {source b : UInt8}
    (h : b ∈ [0x25, hexDigit (source.toNat / 16), hexDigit (source.toNat % 16)]) :
    isPlain b = true ∨ b = 0x25 := by
  have hlt := UInt8.toNat_lt source
  simp only [List.mem_cons, List.not_mem_nil, or_false] at h
  rcases h with rfl | rfl | rfl
  · exact Or.inr rfl
  · exact Or.inl (isPlain_hexDigit _ (by omega))
  · exact Or.inl (isPlain_hexDigit _ (by omega))

/-- A plain byte or a percent sign is ASCII and no separator. -/
lemma not_separator {b : UInt8} (h : isPlain b = true ∨ b = 0x25) :
    b.toNat ≤ 0x7f ∧ b ∉ [0x23, 0x26, 0x3d, 0x3f] := by
  rcases h with hplain | rfl
  · obtain ⟨hascii, hmem⟩ := isPlain_spec hplain
    simp only [List.mem_cons, List.not_mem_nil, or_false, not_or] at hmem ⊢
    exact ⟨hascii, hmem.2.1, hmem.2.2.2.1, hmem.2.2.2.2.2.1, hmem.2.2.2.2.2.2⟩
  · decide

/-- An encoded text is ASCII without a separator. -/
lemma encode_spec {text : String} {b : UInt8} (h : b ∈ encode text) :
    b.toNat ≤ 0x7f ∧ b ∉ [0x23, 0x26, 0x3d, 0x3f] := by
  obtain ⟨source, -, hb⟩ := List.mem_flatMap.mp h
  unfold byteSerialize at hb
  split_ifs at hb with hplain
  · rw [List.mem_singleton.mp hb]
    exact not_separator (Or.inl hplain)
  · rw [List.mem_singleton.mp hb]
    decide
  · exact not_separator (isPlain_of_mem_escape hb)

/-- A text as a URI component is ASCII without a separator. -/
lemma encodeComponent_spec {text : List Char} {b : UInt8} (h : b ∈ encodeComponent text) :
    b.toNat ≤ 0x7f ∧ b ∉ [0x23, 0x26, 0x3d, 0x3f] := by
  obtain ⟨source, -, hb⟩ := List.mem_flatMap.mp h
  unfold componentByte at hb
  split_ifs at hb with hplain
  · rw [List.mem_singleton.mp hb]
    obtain ⟨hascii, hmem⟩ := isUnreserved_spec hplain
    simp only [List.mem_cons, List.not_mem_nil, or_false, not_or] at hmem ⊢
    exact ⟨hascii, hmem.2.1, hmem.2.2.2.1, hmem.2.2.2.2.2.1, hmem.2.2.2.2.2.2⟩
  · exact not_separator (isPlain_of_mem_escape hb)

/-- The question mark that is dropped stands in front of what is written behind. -/
lemma dropQuestion_append {c : Char} (h : c ≠ '?') (query tail : List Char) :
    dropQuestion (query ++ c :: tail) = dropQuestion query ++ c :: tail := by
  unfold dropQuestion
  cases query with
  | nil => simp [h]
  | cons d query =>
    by_cases hd : d = '?'
    · simp [hd]
    · simp [hd]

/-- **A plain character is decoded wherever it stands**: it is ASCII and no part of an escape. -/
lemma mem_decode {b : UInt8} (hascii : b.toNat ≤ 0x7f) (hhex : hexValue b = none)
    (hpercent : b ≠ 0x25) (hplus : b ≠ 0x2b) {bytes : List UInt8} (h : b ∈ bytes) :
    Char.ofNat b.toNat ∈ (decode bytes).toList := by
  have hmap : b ∈ bytes.map plusToSpace :=
    List.mem_map.mpr ⟨b, h, if_neg hplus⟩
  have hdecoded : b ∈ percentDecode (bytes.map plusToSpace) := by
    refine mem_decodeBy ?_ ?_ hmap
    · intro rest
      unfold percentStep
      rw [if_neg hpercent]
    · intro c rest htake
      unfold percentStep at htake
      split_ifs at htake
      · split at htake
        · rename_i high low _
          split at htake
          · rename_i hhigh hlow
            rcases List.mem_pair.mp htake with rfl | rfl
            · rw [hhex] at hhigh
              cases hhigh
            · rw [hhex] at hlow
              cases hlow
          · cases htake
        · cases htake
      · cases htake
  unfold decode
  rw [String.toList_ofList]
  exact mem_fromUtf8Lossy hascii hdecoded

/-- A slash is decoded wherever it stands. -/
lemma slash_mem_decode {bytes : List UInt8} (h : 0x2f ∈ bytes) : '/' ∈ (decode bytes).toList :=
  mem_decode (by decide) (by decide) (by decide) (by decide) h

/-! ## Pairs -/

/-- The name of a piece ends at its first equals sign. -/
lemma parsePiece_append {name : List UInt8} (h : (0x3d : UInt8) ∉ name) (value : List UInt8) :
    parsePiece (name ++ 0x3d :: value) = (decode name, decode value) := by
  have hname : ∀ b ∈ name, decide (b ≠ 0x3d) = true := by
    intro b hb
    rw [decide_eq_true_eq]
    rintro rfl
    exact h hb
  unfold parsePiece splitPair
  rw [List.takeWhile_append_of_pos hname, List.dropWhile_append_of_pos hname,
    List.takeWhile_cons_of_neg (by decide), List.dropWhile_cons_of_neg (by decide),
    List.append_nil, List.tail_cons]

/-- **The pieces of an input** are its pairs. -/
lemma parse_intercalate {pieces : List (List UInt8)} (hne : ∀ piece ∈ pieces, piece ≠ [])
    (hseparator : ∀ piece ∈ pieces, (0x26 : UInt8) ∉ piece) :
    parse ([0x26].intercalate pieces) = pieces.map parsePiece := by
  rcases eq_or_ne pieces [] with rfl | hpieces
  · rfl
  · have hfilter : pieces.filter (fun piece => piece ≠ []) = pieces := by
      rw [List.filter_eq_self]
      exact fun piece hpiece => decide_eq_true (hne piece hpiece)
    unfold parse
    rw [List.splitOn_intercalate 0x26 hseparator hpieces, hfilter]

/-- A piece has no ampersand. -/
lemma ampersand_not_mem_serializePair (pair : String × String) :
    (0x26 : UInt8) ∉ serializePair pair := by
  unfold serializePair
  intro h
  rw [List.mem_append, List.mem_cons] at h
  rcases h with h | h | h
  · exact absurd (encode_spec h).2 (by decide)
  · exact absurd h (by decide)
  · exact absurd (encode_spec h).2 (by decide)

/-- **The pairs survive their encoding.**

**Proof sketch.** A pair is encoded without a separator, so the pieces of the text are the pairs
(`parse_intercalate`), and the name and the value of a piece are decoded to what was encoded
(`decode_encode`). -/
theorem parse_serialize (pairs : List (String × String)) : parse (serialize pairs) = pairs := by
  have hpair : ∀ pair : String × String, parsePiece (serializePair pair) = pair := by
    intro pair
    unfold serializePair
    rw [parsePiece_append fun hmem => absurd (encode_spec hmem).2 (by decide), decode_encode,
      decode_encode]
  unfold serialize
  rw [parse_intercalate, List.map_map]
  · exact List.map_id'' hpair pairs
  · intro piece hpiece
    obtain ⟨pair, -, rfl⟩ := List.mem_map.mp hpiece
    unfold serializePair
    simp
  · intro piece hpiece
    obtain ⟨pair, -, rfl⟩ := List.mem_map.mp hpiece
    exact ampersand_not_mem_serializePair pair

/-- The last piece of an input takes what is written behind the input.

**Proof sketch.** The pieces are those before the last ampersand of the input, and the last piece is
what is behind it; what is written further on has no ampersand. Without an ampersand the input is
one piece. -/
lemma splitOn_append_last (input : List UInt8) :
    ∃ pieces last, ∀ suffix, (0x26 : UInt8) ∉ suffix →
      (input ++ suffix).splitOn 0x26 = pieces ++ [last ++ suffix] := by
  have hsingle : ∀ {piece : List UInt8}, (0x26 : UInt8) ∉ piece →
      piece.splitOn 0x26 = [piece] := by
    intro piece hpiece
    rw [List.splitOn_eq_splitOnP, List.splitOnP_eq_singleton]
    intro b hb
    rw [beq_eq_false_iff_ne]
    rintro rfl
    exact hpiece hb
  by_cases hmem : (0x26 : UInt8) ∈ input
  · have hreverse := List.mem_reverse.mpr hmem
    obtain ⟨front, back, hsplit, hfront⟩ := List.eq_append_cons_of_mem hreverse
    have hinput : input = back.reverse ++ 0x26 :: front.reverse := by
      rw [← List.reverse_reverse input, hsplit, List.reverse_append, List.reverse_cons,
        List.append_assoc, List.singleton_append]
    refine ⟨back.reverse.splitOn 0x26, front.reverse, ?_⟩
    intro suffix hsuffix
    have hlast : (front.reverse ++ suffix).splitOn 0x26 = [front.reverse ++ suffix] := by
      apply hsingle
      rw [List.mem_append, List.mem_reverse]
      rintro (h | h)
      · exact hfront h
      · exact hsuffix h
    rw [hinput, List.append_assoc, List.cons_append, List.splitOn_eq_splitOnP,
      List.splitOnP_append_cons _ _ (by decide), ← List.splitOn_eq_splitOnP,
      ← List.splitOn_eq_splitOnP, hlast]
  · refine ⟨[], input, ?_⟩
    intro suffix hsuffix
    rw [List.nil_append, hsingle]
    rw [List.mem_append]
    rintro (h | h)
    · exact hmem h
    · exact hsuffix h

/-- **What is written behind an input** without an ampersand belongs to its last piece. -/
lemma parse_append (input : List UInt8) :
    ∃ pairs last, parse input = pairs ++ (if last = [] then [] else [parsePiece last]) ∧
      ∀ suffix, suffix ≠ [] → (0x26 : UInt8) ∉ suffix →
        parse (input ++ suffix) = pairs ++ [parsePiece (last ++ suffix)] := by
  obtain ⟨pieces, last, hsplit⟩ := splitOn_append_last input
  refine ⟨(pieces.filter fun piece => piece ≠ []).map parsePiece, last, ?_, ?_⟩
  · have hself := hsplit [] (by simp)
    rw [List.append_nil, List.append_nil] at hself
    unfold parse
    rw [hself, List.filter_append, List.filter_singleton, List.map_append]
    by_cases hlast : last = []
    · simp [hlast]
    · simp [hlast]
  · intro suffix hne hsuffix
    have hlast : last ++ suffix ≠ [] := fun hnil => hne (List.append_eq_nil_iff.mp hnil).2
    unfold parse
    rw [hsplit suffix hsuffix, List.filter_append, List.filter_singleton, decide_eq_true hlast,
      List.map_append]
    rfl

/-- An ampersand parts an input into inputs of their own. -/
lemma parse_append_ampersand (front back : List UInt8) :
    parse (front ++ 0x26 :: back) = parse front ++ parse back := by
  unfold parse
  rw [List.splitOn_eq_splitOnP, List.splitOnP_append_cons _ _ (by decide),
    ← List.splitOn_eq_splitOnP, ← List.splitOn_eq_splitOnP, List.filter_append, List.map_append]

/-- A value that is not empty stays so when a plain character is written behind its piece, under
the same name. -/
lemma parsePiece_append_plain {piece suffix : List UInt8} (hvalue : (parsePiece piece).2 ≠ "")
    {b : UInt8} (hb : b ∈ suffix) (hascii : b.toNat ≤ 0x7f) (hhex : hexValue b = none)
    (hpercent : b ≠ 0x25) (hplus : b ≠ 0x2b) :
    (parsePiece (piece ++ suffix)).1 = (parsePiece piece).1 ∧
      (parsePiece (piece ++ suffix)).2 ≠ "" := by
  by_cases hmem : (0x3d : UInt8) ∈ piece
  · obtain ⟨name, value, rfl, hname⟩ := List.eq_append_cons_of_mem hmem
    rw [List.append_assoc, List.cons_append, parsePiece_append hname, parsePiece_append hname]
    refine ⟨rfl, ?_⟩
    intro hempty
    have hdecoded := @mem_decode b hascii hhex hpercent hplus (value ++ suffix)
      (List.mem_append_right value hb)
    rw [show decode (value ++ suffix) = "" from hempty] at hdecoded
    cases hdecoded
  · -- a piece without an equals sign has no value
    have hdrop : piece.dropWhile (· ≠ 0x3d) = [] := by
      rw [List.dropWhile_eq_nil_iff]
      intro c hc
      rw [decide_eq_true_eq]
      rintro rfl
      exact hmem hc
    apply absurd _ hvalue
    show decode (piece.dropWhile (· ≠ 0x3d)).tail = ""
    rw [hdrop]
    rfl

/-- A slash of a piece is in its name or in its value. -/
lemma slash_parsePiece {piece : List UInt8} (h : 0x2f ∈ piece) :
    '/' ∈ (parsePiece piece).1.toList ∨ '/' ∈ (parsePiece piece).2.toList := by
  have hsplit : (0x2f : UInt8) ∈ (splitPair piece).1 ∨ (0x2f : UInt8) ∈ (splitPair piece).2 := by
    unfold splitPair
    rw [← List.takeWhile_append_dropWhile (p := (· ≠ 0x3d)) (l := piece), List.mem_append] at h
    rcases h with h | h
    · exact Or.inl h
    · right
      cases hrest : piece.dropWhile (· ≠ 0x3d) with
      | nil =>
        rw [hrest] at h
        cases h
      | cons b rest =>
        rw [hrest] at h
        rcases List.mem_cons.mp h with rfl | h
        · have hnot := List.head?_dropWhile_not (· ≠ (0x3d : UInt8)) piece
          rw [hrest, List.head?_cons] at hnot
          exact absurd (show decide ((0x2f : UInt8) ≠ 0x3d) = false from hnot) (by decide)
        · exact h
  rcases hsplit with h | h
  · exact Or.inl (slash_mem_decode h)
  · exact Or.inr (slash_mem_decode h)

/-- An encoded list of pairs is ASCII without a question mark. -/
lemma serialize_spec {pairs : List (String × String)} {b : UInt8} (h : b ∈ serialize pairs) :
    b.toNat ≤ 0x7f ∧ b ≠ 0x3f := by
  have hpiece : ∀ pair : String × String, ∀ b ∈ serializePair pair, b.toNat ≤ 0x7f ∧ b ≠ 0x3f := by
    intro pair b hb
    unfold serializePair at hb
    rw [List.mem_append, List.mem_cons] at hb
    rcases hb with hb | rfl | hb
    · obtain ⟨hascii, hmem⟩ := encode_spec hb
      exact ⟨hascii, fun heq => hmem (by simp [heq])⟩
    · decide
    · obtain ⟨hascii, hmem⟩ := encode_spec hb
      exact ⟨hascii, fun heq => hmem (by simp [heq])⟩
  unfold serialize at h
  induction pairs with
  | nil => cases h
  | cons pair pairs ih =>
    cases pairs with
    | nil =>
      rw [List.map_singleton, List.intercalate_singleton] at h
      exact hpiece pair b h
    | cons next pairs =>
      rw [List.map_cons, List.map_cons, List.intercalate_cons_cons, List.mem_append,
        List.mem_append, List.mem_singleton] at h
      rcases h with (h | rfl) | h
      · exact hpiece pair b h
      · decide
      · exact ih h

end FormUrlencoded
