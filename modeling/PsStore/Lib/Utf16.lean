import Mathlib.Tactic.NormNum
import PsStore.Lib.DecodeBy

set_option relaxedAutoImplicit false
set_option autoImplicit false

/-!
# UTF-16

Texts as code units. A character past U+FFFF is a pair of surrogates; a surrogate without its other
half stands for no character.

## Main definitions

* `utf16EncodeChar`, `toUtf16` — the code units of a character and of a text.
* `fromUtf16` — the text of code units without a lone surrogate.
* `fromUtf16Lossy` — the text of code units, with a replacement for every lone surrogate.
* `HighAt`, `LowAt`, `LoneAt` — the surrogates of code units, and those without their other half.

## Main results

* `fromUtf16_toUtf16`, `fromUtf16Lossy_toUtf16` — a text survives its code units.
* `toUtf16_of_fromUtf16` — code units that are read as a text are its code units.
* `exists_toUtf16_iff` — the code units of texts are the ones without a lone surrogate.
* `loneAt_take_iff` — the lone surrogates of the units before a cut.
-/

/-- The code units of a character. -/
def utf16EncodeChar (c : Char) : List UInt16 :=
  if c.toNat < 0x10000 then [UInt16.ofNat c.toNat]
  else
    [UInt16.ofNat (0xd800 + (c.toNat - 0x10000) / 1024),
      UInt16.ofNat (0xdc00 + (c.toNat - 0x10000) % 1024)]

/-- The code units of a text. -/
def toUtf16 (text : List Char) : List UInt16 := text.flatMap utf16EncodeChar

/-- The character that starts at a code unit, and how many of the units after it belong to it. -/
def utf16Step (a : UInt16) : List UInt16 → Option Char × ℕ
  | b :: _ =>
    if a.toNat < 0xd800 ∨ 0xdfff < a.toNat then (some (Char.ofNat a.toNat), 0)
    else if a.toNat ≤ 0xdbff ∧ 0xdc00 ≤ b.toNat ∧ b.toNat ≤ 0xdfff then
      (some (Char.ofNat (0x10000 + (a.toNat - 0xd800) * 1024 + (b.toNat - 0xdc00))), 1)
    else (none, 0)
  | [] =>
    if a.toNat < 0xd800 ∨ 0xdfff < a.toNat then (some (Char.ofNat a.toNat), 0) else (none, 0)

/-- The characters of code units, and `none` for each lone surrogate. -/
def codePoints (units : List UInt16) : List (Option Char) := decodeBy utf16Step units

/-- The text of code units without a lone surrogate. -/
def fromUtf16 (units : List UInt16) : Option (List Char) := (codePoints units).mapM id

/-- The text of code units, with a replacement for every lone surrogate. -/
def fromUtf16Lossy (units : List UInt16) : List Char :=
  (codePoints units).map fun c => c.getD '\ufffd'

/-! ## One character -/

/-- The value of a code unit below 2^16. -/
lemma toNat_ofNat_lt_two_pow_16 {n : ℕ} (h : n < 0x10000) : (UInt16.ofNat n).toNat = n := by
  rw [UInt16.toNat_ofNat']
  omega

/-- The value of a character that is no surrogate. -/
lemma toNat_charOfNat {n : ℕ} (h : n < 0xd800 ∨ (0xdfff < n ∧ n < 0x110000)) :
    (Char.ofNat n).toNat = n := by
  have hvalid : n.isValidChar := h
  unfold Char.ofNat
  rw [dif_pos hvalid]
  rfl

/-- **The units of a character**: one unit that is no surrogate, or the two surrogates of a pair. -/
lemma utf16EncodeChar_cases (c : Char) :
    (∃ a, utf16EncodeChar c = [a] ∧ a.toNat = c.toNat ∧ (a.toNat < 0xd800 ∨ 0xdfff < a.toNat)) ∨
      ∃ a b, utf16EncodeChar c = [a, b] ∧ (0xd800 ≤ a.toNat ∧ a.toNat ≤ 0xdbff) ∧
        (0xdc00 ≤ b.toNat ∧ b.toNat ≤ 0xdfff) ∧
        c.toNat = 0x10000 + (a.toNat - 0xd800) * 1024 + (b.toNat - 0xdc00) := by
  have hvalid : c.toNat < 0xd800 ∨ (0xdfff < c.toNat ∧ c.toNat < 0x110000) := c.valid
  unfold utf16EncodeChar
  split_ifs with hone
  · have ha : (UInt16.ofNat c.toNat).toNat = c.toNat := toNat_ofNat_lt_two_pow_16 hone
    exact Or.inl ⟨_, rfl, ha, by omega⟩
  · have ha : (UInt16.ofNat (0xd800 + (c.toNat - 0x10000) / 1024)).toNat =
        0xd800 + (c.toNat - 0x10000) / 1024 := toNat_ofNat_lt_two_pow_16 (by omega)
    have hb : (UInt16.ofNat (0xdc00 + (c.toNat - 0x10000) % 1024)).toNat =
        0xdc00 + (c.toNat - 0x10000) % 1024 := toNat_ofNat_lt_two_pow_16 (by omega)
    exact Or.inr ⟨_, _, rfl, by omega, by omega, by omega⟩

/-- The units of a character are read as the character. -/
lemma utf16Step_encode (c : Char) (rest : List UInt16) :
    ∃ a code, utf16EncodeChar c = a :: code ∧
      utf16Step a (code ++ rest) = (some c, code.length) := by
  rcases utf16EncodeChar_cases c with ⟨a, hcode, ha, hplain⟩ | ⟨a, b, hcode, ha, hb, hvalue⟩
  · refine ⟨a, [], hcode, ?_⟩
    have hchar : Char.ofNat a.toNat = c := by
      rw [ha]
      exact Char.ofNat_toNat c
    cases rest with
    | nil =>
      rw [List.append_nil, utf16Step, if_pos hplain, hchar]
      rfl
    | cons next rest =>
      rw [List.nil_append, utf16Step, if_pos hplain, hchar]
      rfl
  · refine ⟨a, [b], hcode, ?_⟩
    rw [List.singleton_append, utf16Step, if_neg (by omega), if_pos ⟨ha.2, hb⟩, ← hvalue,
      Char.ofNat_toNat]
    rfl

/-- A character that is read stands there with its units.

**Proof sketch.** A unit outside the surrogates is its own character. A high surrogate is read only
with a low one after it, and the two give back their ten bits each. -/
lemma exists_of_utf16Step {a : UInt16} {rest : List UInt16} {c : Char} {n : ℕ}
    (h : utf16Step a rest = (some c, n)) :
    ∃ code tail, utf16EncodeChar c = a :: code ∧ rest = code ++ tail ∧ n = code.length := by
  have hlt := UInt16.toNat_lt a
  have hplain : a.toNat < 0xd800 ∨ 0xdfff < a.toNat →
      utf16EncodeChar (Char.ofNat a.toNat) = [a] := by
    intro hplain
    unfold utf16EncodeChar
    rw [toNat_charOfNat (by omega), if_pos (by omega), UInt16.ofNat_toNat]
  cases rest with
  | nil =>
    rw [utf16Step] at h
    split_ifs at h with hunit
    · obtain ⟨hc, rfl⟩ := Prod.mk.inj h
      rw [← Option.some.inj hc]
      exact ⟨[], [], hplain hunit, rfl, rfl⟩
    · obtain ⟨hc, -⟩ := Prod.mk.inj h
      cases hc
  | cons b rest =>
    rw [utf16Step] at h
    split_ifs at h with hunit hpair
    · obtain ⟨hc, rfl⟩ := Prod.mk.inj h
      rw [← Option.some.inj hc]
      exact ⟨[], b :: rest, hplain hunit, rfl, rfl⟩
    · obtain ⟨hc, rfl⟩ := Prod.mk.inj h
      rw [← Option.some.inj hc]
      refine ⟨[b], rest, ?_, rfl, rfl⟩
      have hhigh : UInt16.ofNat (0xd800 + (a.toNat - 0xd800)) = a := by
        rw [show 0xd800 + (a.toNat - 0xd800) = a.toNat by omega, UInt16.ofNat_toNat]
      have hlow : UInt16.ofNat (0xdc00 + (b.toNat - 0xdc00)) = b := by
        rw [show 0xdc00 + (b.toNat - 0xdc00) = b.toNat by omega, UInt16.ofNat_toNat]
      unfold utf16EncodeChar
      rw [toNat_charOfNat (by omega), if_neg (by omega)]
      rw [show (0x10000 + (a.toNat - 0xd800) * 1024 + (b.toNat - 0xdc00) - 0x10000) / 1024 =
          a.toNat - 0xd800 by omega,
        show (0x10000 + (a.toNat - 0xd800) * 1024 + (b.toNat - 0xdc00) - 0x10000) % 1024 =
          b.toNat - 0xdc00 by omega, hhigh, hlow]
    · obtain ⟨hc, -⟩ := Prod.mk.inj h
      cases hc

/-! ## Texts -/

/-- The characters of the units of a text. -/
lemma codePoints_toUtf16 (text : List Char) : codePoints (toUtf16 text) = text.map some := by
  induction text with
  | nil => rfl
  | cons c text ih =>
    obtain ⟨a, code, hencode, hstep⟩ := utf16Step_encode c (toUtf16 text)
    have hunits : toUtf16 (c :: text) = a :: (code ++ toUtf16 text) := by
      rw [toUtf16, List.flatMap_cons, hencode]
      rfl
    rw [hunits, codePoints, decodeBy_cons_append hstep, List.map_cons, ← ih]
    rfl

/-- A text survives its units. -/
lemma fromUtf16_toUtf16 (text : List Char) : fromUtf16 (toUtf16 text) = some text := by
  have hall : ∀ text : List Char, (text.map some).mapM id = some text := by
    intro text
    induction text with
    | nil => rfl
    | cons c text ih =>
      rw [List.map_cons, List.mapM_cons, ih]
      rfl
  unfold fromUtf16
  rw [codePoints_toUtf16, hall]

/-- **The units of the text that they are read as.** -/
lemma toUtf16_of_fromUtf16 {units : List UInt16} {text : List Char}
    (h : fromUtf16 units = some text) : toUtf16 text = units := by
  -- by the length of the units: a character is read off the front
  generalize hlength : units.length = n
  induction n using Nat.strongRecOn generalizing units text with
  | ind n ih =>
    cases units with
    | nil =>
      obtain rfl : [] = text := Option.some.inj h
      rfl
    | cons a rest =>
      obtain ⟨head, count, hstep⟩ : ∃ head count, utf16Step a rest = (head, count) := ⟨_, _, rfl⟩
      have hcons : codePoints (a :: rest) = head :: decodeSkip utf16Step count rest := by
        rw [codePoints, decodeBy, decodeSkip, hstep]
      unfold fromUtf16 at h
      cases head with
      | none =>
        rw [hcons, List.mapM_cons] at h
        cases h
      | some c =>
        obtain ⟨code, tail, hencode, rfl, rfl⟩ := exists_of_utf16Step hstep
        rw [codePoints, decodeBy_cons_append hstep, List.mapM_cons] at h
        obtain ⟨_, hhead, h⟩ := Option.bind_eq_some_iff.mp h
        obtain ⟨more, hmore, h⟩ := Option.bind_eq_some_iff.mp h
        cases hhead
        cases h
        have htail : toUtf16 more = tail := by
          refine ih tail.length ?_ hmore rfl
          rw [← hlength, List.length_cons, List.length_append]
          omega
        rw [toUtf16, List.flatMap_cons, hencode, List.cons_append]
        exact congrArg (a :: code ++ ·) htail

/-- A text survives its units, with no replacement. -/
lemma fromUtf16Lossy_toUtf16 (text : List Char) : fromUtf16Lossy (toUtf16 text) = text := by
  unfold fromUtf16Lossy
  rw [codePoints_toUtf16, List.map_map]
  exact List.map_id text

/-! ## Lone surrogates -/

/-- A high surrogate stands at an index. -/
def HighAt (units : List UInt16) (i : ℕ) : Prop :=
  ∃ u, units[i]? = some u ∧ 0xd800 ≤ u.toNat ∧ u.toNat ≤ 0xdbff

/-- A low surrogate stands at an index. -/
def LowAt (units : List UInt16) (i : ℕ) : Prop :=
  ∃ u, units[i]? = some u ∧ 0xdc00 ≤ u.toNat ∧ u.toNat ≤ 0xdfff

/-- A surrogate stands at an index without its other half beside it. -/
def LoneAt (units : List UInt16) (i : ℕ) : Prop :=
  (HighAt units i ∧ ¬ LowAt units (i + 1)) ∨ (LowAt units i ∧ ∀ j, j + 1 = i → ¬ HighAt units j)

/-- A high surrogate behind the first unit. -/
@[simp] lemma highAt_cons_succ (a : UInt16) (rest : List UInt16) (i : ℕ) :
    HighAt (a :: rest) (i + 1) ↔ HighAt rest i := Iff.rfl

/-- A low surrogate behind the first unit. -/
@[simp] lemma lowAt_cons_succ (a : UInt16) (rest : List UInt16) (i : ℕ) :
    LowAt (a :: rest) (i + 1) ↔ LowAt rest i := Iff.rfl

/-- A high surrogate as the first unit. -/
@[simp] lemma highAt_cons_zero (a : UInt16) (rest : List UInt16) :
    HighAt (a :: rest) 0 ↔ 0xd800 ≤ a.toNat ∧ a.toNat ≤ 0xdbff := by
  simp [HighAt]

/-- A low surrogate as the first unit. -/
@[simp] lemma lowAt_cons_zero (a : UInt16) (rest : List UInt16) :
    LowAt (a :: rest) 0 ↔ 0xdc00 ≤ a.toNat ∧ a.toNat ≤ 0xdfff := by
  simp [LowAt]

/-- Behind a unit that is no high surrogate, or past the next unit, nothing changes. -/
lemma loneAt_cons_succ {a : UInt16} {i : ℕ} (h : ¬(0xd800 ≤ a.toNat ∧ a.toNat ≤ 0xdbff) ∨ 0 < i)
    (rest : List UInt16) : LoneAt (a :: rest) (i + 1) ↔ LoneAt rest i := by
  have hbefore : (∀ j, j + 1 = i + 1 → ¬ HighAt (a :: rest) j) ↔
      ∀ j, j + 1 = i → ¬ HighAt rest j := by
    cases i with
    | zero =>
      have ha := h.resolve_right (by omega)
      constructor
      · intro _ j hj
        omega
      · intro _ j hj
        obtain rfl : j = 0 := by omega
        rwa [highAt_cons_zero]
    | succ i =>
      constructor
      · intro hall j hj
        obtain rfl : j = i := by omega
        exact hall (j + 1) rfl
      · intro hall j hj
        obtain rfl : j = i + 1 := by omega
        exact hall i rfl
  unfold LoneAt
  rw [hbefore]
  rfl

/-- No lone surrogate stands in the units of a character. -/
lemma not_loneAt_encode (c : Char) (rest : List UInt16) {i : ℕ}
    (h : i < (utf16EncodeChar c).length) : ¬ LoneAt (utf16EncodeChar c ++ rest) i := by
  rcases utf16EncodeChar_cases c with ⟨a, hcode, -, hplain⟩ | ⟨a, b, hcode, ha, hb, -⟩
  · rw [hcode] at h ⊢
    obtain rfl : i = 0 := by simpa using h
    rw [List.singleton_append]
    rintro (⟨hhigh, -⟩ | ⟨hlow, -⟩)
    · rw [highAt_cons_zero] at hhigh
      omega
    · rw [lowAt_cons_zero] at hlow
      omega
  · rw [hcode] at h ⊢
    rw [List.cons_append, List.singleton_append]
    match i, h with
    | 0, _ =>
      rintro (⟨-, hnext⟩ | ⟨hlow, -⟩)
      · rw [lowAt_cons_succ, lowAt_cons_zero] at hnext
        exact hnext hb
      · rw [lowAt_cons_zero] at hlow
        omega
    | 1, _ =>
      rintro (⟨hhigh, -⟩ | ⟨-, hprevious⟩)
      · rw [highAt_cons_succ, highAt_cons_zero] at hhigh
        omega
      · exact hprevious 0 rfl ((highAt_cons_zero a _).mpr ha)

/-- The units of a character in front move the lone surrogates. -/
lemma loneAt_encode_append (c : Char) (rest : List UInt16) (i : ℕ) :
    LoneAt (utf16EncodeChar c ++ rest) ((utf16EncodeChar c).length + i) ↔ LoneAt rest i := by
  rcases utf16EncodeChar_cases c with ⟨a, hcode, -, hplain⟩ | ⟨a, b, hcode, -, hb, -⟩
  · rw [hcode, List.singleton_append, List.length_singleton, Nat.add_comm,
      loneAt_cons_succ (Or.inl (by omega))]
  · rw [hcode, List.cons_append, List.singleton_append, List.length_cons, List.length_singleton,
      Nat.add_comm, loneAt_cons_succ (Or.inr (by omega)), loneAt_cons_succ (Or.inl (by omega))]

/-- A character is read where no lone surrogate stands. -/
lemma exists_utf16Step_of_not_loneAt {a : UInt16} {rest : List UInt16}
    (h : ¬ LoneAt (a :: rest) 0) : ∃ c n, utf16Step a rest = (some c, n) := by
  unfold LoneAt at h
  rw [highAt_cons_zero, lowAt_cons_zero, lowAt_cons_succ, not_or, not_and, not_not, not_and] at h
  obtain ⟨hhigh, hlow⟩ := h
  by_cases hplain : a.toNat < 0xd800 ∨ 0xdfff < a.toNat
  · cases rest with
    | nil => exact ⟨_, _, if_pos hplain⟩
    | cons b rest => exact ⟨_, _, if_pos hplain⟩
  · by_cases hrange : a.toNat ≤ 0xdbff
    · have hnext := hhigh ⟨by omega, hrange⟩
      cases rest with
      | nil =>
        obtain ⟨u, hu, -⟩ := hnext
        cases hu
      | cons b rest =>
        rw [lowAt_cons_zero] at hnext
        exact ⟨_, _, (if_neg hplain).trans (if_pos ⟨hrange, hnext⟩)⟩
    · refine absurd ?_ (hlow ⟨by omega, by omega⟩)
      intro j hj
      omega

/-- **The code units of texts** are the ones without a lone surrogate.

**Proof sketch.** The units of a character have no lone surrogate, and behind them the units of the
rest are looked at as they are (`loneAt_encode_append`). The other way, units without a lone
surrogate begin with those of a character, and the rest is shorter. -/
theorem exists_toUtf16_iff (units : List UInt16) :
    (∃ text, units = toUtf16 text) ↔ ∀ i, ¬ LoneAt units i := by
  constructor
  · intro h
    obtain ⟨text, rfl⟩ := h
    induction text with
    | nil =>
      rintro i (⟨⟨u, hu, -⟩, -⟩ | ⟨⟨u, hu, -⟩, -⟩)
      · cases hu
      · cases hu
    | cons c text ih =>
      intro i
      rw [toUtf16, List.flatMap_cons]
      rcases lt_or_ge i (utf16EncodeChar c).length with hi | hi
      · exact not_loneAt_encode c _ hi
      · obtain ⟨j, rfl⟩ := Nat.exists_eq_add_of_le hi
        rw [loneAt_encode_append]
        exact ih j
  · intro h
    -- by the length of the units: a character is read off the front
    generalize hlength : units.length = n
    induction n using Nat.strongRecOn generalizing units with
    | ind n ih =>
      cases units with
      | nil => exact ⟨[], rfl⟩
      | cons a rest =>
        obtain ⟨c, count, hstep⟩ := exists_utf16Step_of_not_loneAt (h 0)
        obtain ⟨code, tail, hencode, rfl, -⟩ := exists_of_utf16Step hstep
        have htail : ∀ i, ¬ LoneAt tail i := by
          intro i hi
          apply h ((utf16EncodeChar c).length + i)
          rw [← List.cons_append, ← hencode]
          exact (loneAt_encode_append c tail i).mpr hi
        obtain ⟨text, rfl⟩ := ih tail.length (by
          rw [← hlength, List.length_cons, List.length_append]
          omega) tail htail rfl
        refine ⟨c :: text, ?_⟩
        show _ = (c :: text).flatMap utf16EncodeChar
        rw [List.flatMap_cons, hencode]
        rfl

/-- The units up to an index have a lone surrogate where the units have one, or where the cut falls
between the halves of a pair. -/
lemma loneAt_take_iff (units : List UInt16) (n i : ℕ) :
    LoneAt (units.take n) i ↔
      i < n ∧ (LoneAt units i ∨ (i + 1 = n ∧ HighAt units i ∧ LowAt units n)) := by
  have hhigh : ∀ i, HighAt (units.take n) i ↔ i < n ∧ HighAt units i := by
    intro i
    unfold HighAt
    rw [List.getElem?_take]
    split_ifs with hi <;> simp [hi]
  have hlow : ∀ i, LowAt (units.take n) i ↔ i < n ∧ LowAt units i := by
    intro i
    unfold LowAt
    rw [List.getElem?_take]
    split_ifs with hi <;> simp [hi]
  have hbefore : i < n → ((∀ j, j + 1 = i → ¬ HighAt (units.take n) j) ↔
      ∀ j, j + 1 = i → ¬ HighAt units j) := by
    intro hi
    constructor
    · intro h j hj hhalf
      exact h j hj ((hhigh j).mpr ⟨by omega, hhalf⟩)
    · intro h j hj hhalf
      exact h j hj ((hhigh j).mp hhalf).2
  by_cases hi : i < n
  · unfold LoneAt
    rw [hhigh, hlow, hlow, hbefore hi]
    by_cases hlast : i + 1 = n
    · subst hlast
      by_cases hnext : LowAt units (i + 1)
      · simp [hnext, or_comm]
      · simp [hnext]
    · have hnext : i + 1 < n := by omega
      simp [hi, hnext, hlast]
  · unfold LoneAt
    simp [hhigh, hlow, hi]
