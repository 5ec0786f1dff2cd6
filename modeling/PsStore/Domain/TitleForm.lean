import PsStore.Domain.CriticMatch
import PsStore.Lib.SuffixStrip
import PsStore.Lib.Words

set_option relaxedAutoImplicit false
set_option autoImplicit false

/-!
# The normal form of a title

A normalised title is some words with single spaces between them: the words of the collapsed title,
less the edition phrases at their end. Normalising it again changes nothing.

## Main definitions

* `UnicodeData.Lawful` — what the normal form needs of the Unicode data.
* `titleWords` — the collapsed words of a title.
* `editionPhrases` — the edition suffixes as lists of words.

## Main results

* `collapse_eq_joinWords` — the loop over the characters joins the words of the text.
* `stripLoop_eq` — the strip loop ends.
* `longestSuffix_perm` — the order of the suffixes does not matter.
* `stripEditionSuffixes_stripsTo` — the strip loop strips phrases of words.
* `normalizeTitle_canonical` — the normal form is canonical.
-/

namespace PsStore

variable {unicode : UnicodeData}

/-! ## The words of the collapsed title -/

/-- A letter or a number goes on with the open word `w`, or starts one after a space. -/
lemma collapseStep_word {us : List (List Char)} {w : List Char} {gap : Bool} {c : Char}
    (hc : unicode.isWordChar c = true)
    (hus : ∀ u ∈ us, u ≠ []) (hw : ∀ a ∈ w, unicode.isWordChar a = true)
    (hgap : gap = true → w = []) (hstart : gap = false → w = [] → us = []) :
    unicode.collapseStep (joinWords ' ' (us ++ words unicode.isWordChar w), gap) c =
      (joinWords ' ' (us ++ words unicode.isWordChar (w ++ [c])), false) := by
  have hopen : IsWord unicode.isWordChar (w ++ [c]) :=
    ⟨by simp, List.forall_mem_append.mpr ⟨hw, List.forall_mem_singleton.mpr hc⟩⟩
  unfold UnicodeData.collapseStep
  dsimp only
  rw [if_pos hc, words_of_isWord hopen]
  by_cases hnil : w = []
  · have hjoin : joinWords ' ' us = [] ↔ us = [] := joinWords_eq_nil_iff hus
    rw [hnil, words_nil, List.append_nil, List.nil_append]
    by_cases hempty : us = []
    · rw [hempty]
      simp
    · have hgap' : gap = true := by
        by_contra hfalse
        exact hempty (hstart (eq_false_of_ne_true hfalse) hnil)
      have hfull : (joinWords ' ' us).isEmpty = false := by
        rw [← Bool.not_eq_true, List.isEmpty_iff, hjoin]
        exact hempty
      rw [hgap', hfull, joinWords_append hempty (List.cons_ne_nil _ _)]
      simp
  · have hgap' : gap = false := by
      by_contra htrue
      exact hnil (hgap (eq_true_of_ne_false htrue))
    rw [words_of_isWord ⟨hnil, hw⟩, hgap', Bool.false_and, if_neg Bool.false_ne_true,
      joinWords_append_last]

/-- The loop over the characters, between two of them. The text so far has the words `us`, and `w`
is the word that is still open; a gap closes it. -/
lemma foldl_collapseStep (text : List Char) {us : List (List Char)} {w : List Char} {gap : Bool}
    (hus : ∀ u ∈ us, u ≠ []) (hw : ∀ c ∈ w, unicode.isWordChar c = true)
    (hgap : gap = true → w = []) (hstart : gap = false → w = [] → us = []) :
    (text.foldl unicode.collapseStep
        (joinWords ' ' (us ++ words unicode.isWordChar w), gap)).1 =
      joinWords ' ' (us ++ words unicode.isWordChar (w ++ text)) := by
  induction text generalizing us w gap with
  | nil => rw [List.foldl_nil, List.append_nil]
  | cons c text ih =>
    rw [List.foldl_cons]
    by_cases hc : unicode.isWordChar c = true
    · have hw' : ∀ a ∈ w ++ [c], unicode.isWordChar a = true :=
        List.forall_mem_append.mpr ⟨hw, List.forall_mem_singleton.mpr hc⟩
      rw [collapseStep_word hc hus hw hgap hstart,
        ih hus hw' (fun h => absurd h Bool.false_ne_true) (fun _ h => absurd h (by simp)),
        List.append_assoc]
      rfl
    · have hclosed : ∀ u ∈ us ++ words unicode.isWordChar w, u ≠ [] :=
        List.forall_mem_append.mpr ⟨hus, fun u hu => (isWord_of_mem_words hu).1.1⟩
      have hstep : unicode.collapseStep
          (joinWords ' ' (us ++ words unicode.isWordChar w), gap) c =
            (joinWords ' ' (us ++ words unicode.isWordChar w ++ words unicode.isWordChar []),
              true) := by
        unfold UnicodeData.collapseStep
        dsimp only
        rw [if_neg hc, words_nil, List.append_nil]
      rw [hstep, ih hclosed (fun a ha => absurd ha List.not_mem_nil) (fun _ => rfl)
        (fun h => absurd h.symm Bool.false_ne_true), List.nil_append,
        words_append_cons w text (eq_false_of_ne_true hc), List.append_assoc]

/-- **The loop over the characters joins the words of the text.** -/
theorem collapse_eq_joinWords (text : List Char) :
    unicode.collapse text = joinWords ' ' (words unicode.isWordChar text) := by
  have hrun := @foldl_collapseStep unicode text [] [] false
    (fun u hu => absurd hu List.not_mem_nil) (fun c hc => absurd hc List.not_mem_nil)
    (fun _ => rfl) (fun _ _ => rfl)
  rw [words_nil, List.append_nil, List.nil_append, List.nil_append] at hrun
  exact hrun

/-! ## One round of the strip loop -/

/-- A suffix matches where it ends the text after a space. -/
lemma suffixMatch_eq_some_iff {current suffix : List Char} {suffixLength restLength : ℕ} :
    suffixMatch current suffix = some (suffixLength, restLength) ↔
      ∃ rest, current = rest ++ ' ' :: suffix ∧ suffix.length = suffixLength ∧
        rest.length = restLength := by
  have hdrop : ∀ {text tail rest : List Char},
      text.dropSuffix? tail = some rest ↔ text = rest ++ tail := by
    intro text tail rest
    rw [List.dropSuffix?_eq_some_iff]
    simp
  unfold suffixMatch
  rw [Option.bind_eq_bind, Option.bind_eq_some_iff]
  constructor
  · intro h
    obtain ⟨beforeSuffix, hbefore, hmatch⟩ := h
    rw [Option.bind_eq_some_iff] at hmatch
    obtain ⟨rest, hrest, hlengths⟩ := hmatch
    have hpair := Prod.mk.inj (Option.some.inj hlengths)
    refine ⟨rest, ?_, hpair.1, hpair.2⟩
    rw [hdrop.mp hbefore, hdrop.mp hrest, List.append_assoc]
    rfl
  · intro h
    obtain ⟨rest, rfl, rfl, rfl⟩ := h
    refine ⟨rest ++ [' '], hdrop.mpr ?_, ?_⟩
    · rw [List.append_assoc]
      rfl
    · rw [hdrop.mpr rfl]
      rfl

/-- The two lengths of a match and the space make up the text. -/
lemma length_of_suffixMatch {current suffix : List Char} {lengths : ℕ × ℕ}
    (h : suffixMatch current suffix = some lengths) :
    lengths.1 + lengths.2 + 1 = current.length := by
  obtain ⟨rest, rfl, hsuffix, hrest⟩ := suffixMatch_eq_some_iff.mp h
  simp only [List.length_append, List.length_cons]
  omega

/-- **The order of the suffixes does not matter.** Two matches of one length leave the same rest. -/
theorem longestSuffix_perm {suffixes suffixes' : List (List Char)} (h : suffixes.Perm suffixes')
    (current : List Char) : longestSuffix suffixes current = longestSuffix suffixes' current := by
  unfold longestSuffix
  refine maxByKey_perm (h.filterMap _) fun a ha b hb hlength => ?_
  obtain ⟨_, _, hmatcha⟩ := List.mem_filterMap.mp ha
  obtain ⟨_, _, hmatchb⟩ := List.mem_filterMap.mp hb
  have hsuma := length_of_suffixMatch hmatcha
  have hsumb := length_of_suffixMatch hmatchb
  exact Prod.ext hlength (by omega)

/-- Two suffixes of one length that match are one. -/
lemma suffix_eq_of_length_eq {current suffix other rest rest' : List Char}
    (hsuffix : current = rest ++ ' ' :: suffix) (hother : current = rest' ++ ' ' :: other)
    (hlength : suffix.length = other.length) : suffix = other := by
  have heq := hsuffix.symm.trans hother
  have htails := List.append_inj_right' heq (by simp [hlength])
  exact (List.cons.inj htails).2

/-- No suffix is chosen exactly where none matches. -/
lemma longestSuffix_eq_none_iff {suffixes : List (List Char)} {current : List Char} :
    longestSuffix suffixes current = none ↔
      ∀ suffix ∈ suffixes, ∀ rest, current ≠ rest ++ ' ' :: suffix := by
  unfold longestSuffix
  rw [maxByKey_eq_none_iff, List.filterMap_eq_nil_iff]
  constructor
  · intro h suffix hmem rest heq
    have hmatch := suffixMatch_eq_some_iff.mpr ⟨rest, heq, rfl, rfl⟩
    rw [h suffix hmem] at hmatch
    cases hmatch
  · intro h suffix hmem
    rw [Option.eq_none_iff_forall_ne_some]
    rintro ⟨suffixLength, restLength⟩ hmatch
    obtain ⟨rest, heq, -, -⟩ := suffixMatch_eq_some_iff.mp hmatch
    exact h suffix hmem rest heq

/-- The suffix that is chosen matches, and no longer one does. -/
lemma longestSuffix_spec {suffixes : List (List Char)} {current : List Char}
    {suffixLength restLength : ℕ}
    (h : longestSuffix suffixes current = some (suffixLength, restLength)) :
    ∃ suffix ∈ suffixes, ∃ rest, current = rest ++ ' ' :: suffix ∧ rest.length = restLength ∧
      ∀ other ∈ suffixes, ∀ rest', current = rest' ++ ' ' :: other →
        other.length ≤ suffix.length := by
  obtain ⟨hmem, hmax⟩ := maxByKey_spec h
  obtain ⟨suffix, hsuffix, hmatch⟩ := List.mem_filterMap.mp hmem
  obtain ⟨rest, heq, hlength, hrest⟩ := suffixMatch_eq_some_iff.mp hmatch
  refine ⟨suffix, hsuffix, rest, heq, hrest, fun other hother rest' heq' => ?_⟩
  have hmatch' := suffixMatch_eq_some_iff.mpr ⟨rest', heq', rfl, rfl⟩
  have hle := hmax _ (List.mem_filterMap.mpr ⟨other, hother, hmatch'⟩)
  rw [hlength]
  exact hle

/-! ## The strip loop ends -/

/-- What a round leaves is shorter. -/
lemma length_truncateTrimmed_lt {suffixes : List (List Char)} {current : List Char}
    {suffixLength restLength : ℕ}
    (h : longestSuffix suffixes current = some (suffixLength, restLength)) :
    (truncateTrimmed current restLength).length < current.length := by
  obtain ⟨suffix, -, rest, rfl, rfl, -⟩ := longestSuffix_spec h
  have htrim := (List.rdropWhile_prefix (· == ' ')
    ((rest ++ ' ' :: suffix).take rest.length)).length_le
  have htake := List.length_take_le rest.length (rest ++ ' ' :: suffix)
  unfold truncateTrimmed
  simp only [List.length_append, List.length_cons]
  omega

/-- With more rounds than characters the loop ends, and more rounds change nothing. -/
theorem stripLoop_eq_of_lt {suffixes : List (List Char)} {fuel fuel' : ℕ} {current : List Char}
    (h : current.length < fuel) (h' : current.length < fuel') :
    ∃ out, stripLoop suffixes fuel current = some out ∧
      stripLoop suffixes fuel' current = some out := by
  induction fuel generalizing fuel' current with
  | zero => exact absurd h (Nat.not_lt_zero _)
  | succ fuel ih =>
    obtain ⟨fuel', rfl⟩ := Nat.exists_eq_add_one_of_ne_zero (Nat.ne_zero_of_lt h')
    unfold stripLoop
    cases hlongest : longestSuffix suffixes current with
    | none => exact ⟨current, rfl, rfl⟩
    | some lengths =>
      obtain ⟨suffixLength, restLength⟩ := lengths
      have hshorter := length_truncateTrimmed_lt hlongest
      exact ih (by omega) (by omega)

/-- **The strip loop ends.** -/
theorem stripLoop_eq {fuel : ℕ} {current : List Char} (h : current.length < fuel) :
    stripLoop (editionSuffixes.map String.toList) fuel current =
      some (stripEditionSuffixes current) := by
  obtain ⟨out, hfuel, hdefault⟩ :=
    @stripLoop_eq_of_lt (editionSuffixes.map String.toList) _ _ _ h (Nat.lt_succ_self _)
  unfold stripEditionSuffixes
  rw [hfuel, hdefault]
  rfl

/-- Where the loop ends, no suffix matches. -/
lemma longestSuffix_of_stripLoop {suffixes : List (List Char)} {fuel : ℕ} {current text : List Char}
    (h : stripLoop suffixes fuel current = some text) : longestSuffix suffixes text = none := by
  induction fuel generalizing current with
  | zero => cases h
  | succ fuel ih =>
    unfold stripLoop at h
    cases hlongest : longestSuffix suffixes current with
    | none =>
      rw [hlongest] at h
      rw [← Option.some.inj h]
      exact hlongest
    | some lengths =>
      rw [hlongest] at h
      exact ih h

/-- No suffix matches what is left. -/
lemma longestSuffix_stripEditionSuffixes (current : List Char) :
    longestSuffix (editionSuffixes.map String.toList) (stripEditionSuffixes current) = none :=
  longestSuffix_of_stripLoop (stripLoop_eq (Nat.lt_succ_self current.length))

/-- A text that no suffix matches is left as it is. -/
lemma stripEditionSuffixes_of_none {current : List Char}
    (h : longestSuffix (editionSuffixes.map String.toList) current = none) :
    stripEditionSuffixes current = current := by
  have hloop := stripLoop_eq (Nat.lt_succ_self current.length)
  unfold stripLoop at hloop
  rw [h] at hloop
  exact (Option.some.inj hloop).symm

/-! ## The strip loop on words -/

/-- The words of a suffix. -/
def phraseWords (suffix : String) : List (List Char) := words (· != ' ') suffix.toList

/-- The edition suffixes as lists of words. -/
def editionPhrases : List (List (List Char)) := editionSuffixes.map phraseWords

/-- The phrases are the suffixes, word by word. -/
lemma joinWords_editionPhrases :
    editionPhrases.map (joinWords ' ') = editionSuffixes.map String.toList := by
  decide +kernel

/-- Every phrase has words, and no word is empty or has a space. -/
lemma editionPhrases_words : ∀ p ∈ editionPhrases, p ≠ [] ∧ ∀ w ∈ p, w ≠ [] ∧ ' ' ∉ w := by
  decide +kernel

section Phrases

variable {phrases : List (List (List Char))} {ws : List (List Char)}

/-- No suffix matches exactly where no phrase is left to strip. -/
lemma longestSuffix_eq_none_iff_stripped (hspace : unicode.isWordChar ' ' = false)
    (hphrases : ∀ p ∈ phrases, p ≠ [] ∧ ∀ w ∈ p, w ≠ [] ∧ ' ' ∉ w)
    (hws : ∀ w ∈ ws, IsWord unicode.isWordChar w) :
    longestSuffix (phrases.map (joinWords ' ')) (joinWords ' ' ws) = none ↔
      Stripped phrases ws := by
  rw [longestSuffix_eq_none_iff]
  constructor
  · intro h p hp us hus heq
    obtain ⟨hne, hp'⟩ := hphrases p hp
    have hjoin := (joinWords_eq_append_iff hspace hws hp' hne).mpr ⟨us, hus, heq, rfl⟩
    exact h _ (List.mem_map_of_mem hp) _ hjoin
  · intro h suffix hsuffix rest heq
    obtain ⟨p, hp, rfl⟩ := List.mem_map.mp hsuffix
    obtain ⟨hne, hp'⟩ := hphrases p hp
    obtain ⟨us, hus, hsplit, -⟩ := (joinWords_eq_append_iff hspace hws hp' hne).mp heq
    exact h p hp us hus hsplit

/-- The rest of a match has no space at its end. -/
lemma truncateTrimmed_append {us : List (List Char)} (hus : ∀ w ∈ us, w ≠ [] ∧ ' ' ∉ w)
    (tail : List Char) :
    truncateTrimmed (joinWords ' ' us ++ tail) (joinWords ' ' us).length = joinWords ' ' us := by
  unfold truncateTrimmed
  rw [List.take_left, List.rdropWhile_eq_self_iff]
  intro hne hspace
  have hlast := getLast?_joinWords_ne hus
  rw [List.getLast?_eq_some_getLast hne] at hlast
  exact hlast (congrArg some (beq_iff_eq.mp hspace))

/-- A round strips the longest phrase: a longer suffix of a text has more words. -/
lemma stripsOnce_of_longestSuffix (hspace : unicode.isWordChar ' ' = false)
    (hphrases : ∀ p ∈ phrases, p ≠ [] ∧ ∀ w ∈ p, w ≠ [] ∧ ' ' ∉ w)
    (hws : ∀ w ∈ ws, IsWord unicode.isWordChar w) {suffixLength restLength : ℕ}
    (h : longestSuffix (phrases.map (joinWords ' ')) (joinWords ' ' ws) =
      some (suffixLength, restLength)) :
    ∃ us, StripsOnce phrases ws us ∧
      truncateTrimmed (joinWords ' ' ws) restLength = joinWords ' ' us := by
  obtain ⟨suffix, hsuffix, rest, heq, rfl, hlongest⟩ := longestSuffix_spec h
  obtain ⟨p, hp, rfl⟩ := List.mem_map.mp hsuffix
  obtain ⟨hne, hp'⟩ := hphrases p hp
  obtain ⟨us, hus, hsplit, rfl⟩ := (joinWords_eq_append_iff hspace hws hp' hne).mp heq
  have hwords : ∀ w ∈ us, w ≠ [] ∧ ' ' ∉ w := fun w hw =>
    (hws w (hsplit ▸ List.mem_append_left p hw)).not_mem hspace
  refine ⟨us, ⟨hus, p, hp, hsplit, fun q hq vs hvs hother => ?_⟩, ?_⟩
  · obtain ⟨hneq, hq'⟩ := hphrases q hq
    have hjoin := (joinWords_eq_append_iff hspace hws hq' hneq).mpr ⟨vs, hvs, hother, rfl⟩
    have hle := hlongest _ (List.mem_map_of_mem hq) _ hjoin
    by_contra hlonger
    have hsuffixes : p <:+ q :=
      List.suffix_of_suffix_length_le (hsplit ▸ List.suffix_append us p)
        (hother ▸ List.suffix_append vs q) (by omega)
    obtain ⟨x, rfl⟩ := hsuffixes
    have hx : x ≠ [] := by
      rintro rfl
      exact hlonger le_rfl
    rw [joinWords_append hx hne, List.length_append, List.length_cons] at hle
    omega
  · rw [heq]
    exact truncateTrimmed_append hwords _

/-- **The strip loop strips phrases of words**, where the text is joined words.

**Proof sketch.** By induction on the fuel. A round finds no suffix, where no phrase ends the words
(`longestSuffix_eq_none_iff_stripped`), or strips the longest one, which is a phrase of whole words
(`stripsOnce_of_longestSuffix`), and goes on with the words before it. -/
theorem stripLoop_stripsTo (hspace : unicode.isWordChar ' ' = false)
    (hphrases : ∀ p ∈ phrases, p ≠ [] ∧ ∀ w ∈ p, w ≠ [] ∧ ' ' ∉ w)
    (hws : ∀ w ∈ ws, IsWord unicode.isWordChar w) {fuel : ℕ} {text : List Char}
    (h : stripLoop (phrases.map (joinWords ' ')) fuel (joinWords ' ' ws) = some text) :
    ∃ out, StripsTo phrases ws out ∧ text = joinWords ' ' out := by
  induction fuel generalizing ws with
  | zero => cases h
  | succ fuel ih =>
    unfold stripLoop at h
    cases hlongest : longestSuffix (phrases.map (joinWords ' ')) (joinWords ' ' ws) with
    | none =>
      rw [hlongest] at h
      have hstripped := (longestSuffix_eq_none_iff_stripped hspace hphrases hws).mp hlongest
      exact ⟨ws, .stop hstripped, (Option.some.inj h).symm⟩
    | some lengths =>
      obtain ⟨suffixLength, restLength⟩ := lengths
      obtain ⟨us, honce, htrim⟩ := stripsOnce_of_longestSuffix hspace hphrases hws hlongest
      rw [hlongest] at h
      dsimp only at h
      rw [htrim] at h
      obtain ⟨p, -, hsplit, -⟩ := honce.longest
      have hus : ∀ w ∈ us, IsWord unicode.isWordChar w := fun w hw =>
        hws w (hsplit ▸ List.mem_append_left p hw)
      obtain ⟨out, hrun, htext⟩ := ih hus h
      exact ⟨out, .round honce hrun, htext⟩

end Phrases

/-- The edition suffixes are stripped from joined words as phrases of words. -/
lemma stripEditionSuffixes_stripsTo (hspace : unicode.isWordChar ' ' = false)
    {ws : List (List Char)} (hws : ∀ w ∈ ws, IsWord unicode.isWordChar w) :
    ∃ out, StripsTo editionPhrases ws out ∧
      stripEditionSuffixes (joinWords ' ' ws) = joinWords ' ' out := by
  have hloop := stripLoop_eq (Nat.lt_succ_self (joinWords ' ' ws).length)
  rw [← joinWords_editionPhrases] at hloop
  exact stripLoop_stripsTo hspace editionPhrases_words hws hloop

/-! ## The Unicode data -/

/-- What the normal form needs of the Unicode data: the removed symbols, `&` and the space are
neither letters nor numbers, and text that is already decomposed, stripped of marks and in lower
case is unchanged by doing so again. -/
structure UnicodeData.Lawful (unicode : UnicodeData) : Prop where
  isWordChar_space : unicode.isWordChar ' ' = false
  isWordChar_ampersand : unicode.isWordChar '&' = false
  isWordChar_symbol : ∀ c, isRemovedSymbol c = true → unicode.isWordChar c = false
  fold_and : unicode.fold "and".toList = "and".toList
  fold_eq : ∀ text : List Char,
    (∀ c ∈ text, c = ' ' ∨ unicode.isWordChar c = true ∧ ∃ folded, c ∈ unicode.fold folded) →
      unicode.fold text = text

/-- The letters and numbers of the text that is collapsed are folded already. -/
lemma mem_fold_of_mem_lower (h : unicode.Lawful) {name : List Char} {c : Char}
    (hc : c ∈ unicode.lower name) (hword : unicode.isWordChar c = true) :
    ∃ folded, c ∈ unicode.fold folded := by
  obtain ⟨d, hd, hmem⟩ := List.mem_flatMap.mp hc
  split_ifs at hmem with hampersand
  · have hand : c = ' ' ∨ c ∈ "and".toList := by
      simp at hmem
      simp
      tauto
    rcases hand with rfl | hand
    · rw [h.isWordChar_space] at hword
      cases hword
    · exact ⟨"and".toList, h.fold_and.symm ▸ hand⟩
  · rw [List.mem_singleton.mp hmem]
    exact ⟨_, hd⟩

/-- Folded letters and numbers, and spaces, are collapsed as they are. -/
lemma lower_eq_self (h : unicode.Lawful) {text : List Char}
    (htext : ∀ c ∈ text,
      c = ' ' ∨ unicode.isWordChar c = true ∧ ∃ folded, c ∈ unicode.fold folded) :
    unicode.lower text = text := by
  have hsymbols : text.filter (fun c => !isRemovedSymbol c) = text := by
    refine List.filter_eq_self.mpr fun c hc => ?_
    rw [Bool.not_eq_true']
    by_contra hremoved
    have hword := h.isWordChar_symbol c (eq_true_of_ne_false hremoved)
    rcases htext c hc with rfl | ⟨hc', -⟩
    · exact hremoved (by decide)
    · rw [hc'] at hword
      cases hword
  have hampersand : ∀ c ∈ text, (c == '&') = false := by
    intro c hc
    rw [beq_eq_false_iff_ne]
    rintro rfl
    rcases htext _ hc with hspace | ⟨hword, -⟩
    · exact absurd hspace (by decide)
    · rw [h.isWordChar_ampersand] at hword
      cases hword
  unfold UnicodeData.lower replaceAmpersand
  rw [hsymbols, h.fold_eq text htext]
  calc
    (text.flatMap fun c => if (c == '&') = true then " and ".toList else [c])
        = text.flatMap fun c => [c] :=
      List.flatMap_congr fun c hc => by rw [hampersand c hc]; rfl
    _ = text := List.flatMap_singleton' text

/-! ## The normal form -/

variable (unicode) in
/-- The collapsed words of a title. -/
def titleWords (title : String) : List (List Char) :=
  words unicode.isWordChar (unicode.collapse (unicode.lower title.toList))

/-- The collapsed words are words. -/
lemma isWord_of_mem_titleWords {title : String} :
    ∀ w ∈ titleWords unicode title, IsWord unicode.isWordChar w := fun _ hw =>
  (isWord_of_mem_words hw).1

/-- The collapsed words are the words of the text before it is collapsed. -/
lemma titleWords_eq (hspace : unicode.isWordChar ' ' = false) (title : String) :
    titleWords unicode title = words unicode.isWordChar (unicode.lower title.toList) := by
  unfold titleWords
  rw [collapse_eq_joinWords, words_joinWords hspace fun w hw => (isWord_of_mem_words hw).1]

/-- **The normal form strips phrases from the collapsed words.** -/
theorem normalizeTitle_stripsTo (hspace : unicode.isWordChar ' ' = false) (title : String) :
    ∃ out, StripsTo editionPhrases (titleWords unicode title) out ∧
      (normalizeTitle unicode title).toList = joinWords ' ' out := by
  obtain ⟨out, hrun, htext⟩ := stripEditionSuffixes_stripsTo hspace isWord_of_mem_titleWords
  refine ⟨out, hrun, ?_⟩
  unfold normalizeTitle
  rw [String.toList_ofList, collapse_eq_joinWords, ← titleWords_eq hspace title]
  exact htext

/-- The normal form of a title, as a canonical form. -/
structure CanonicalTitle (unicode : UnicodeData) (title : String) : Prop where
  /-- It is words of letters and numbers with single spaces, the first of the collapsed words. -/
  words : ∃ ws, (∀ w ∈ ws, IsWord unicode.isWordChar w) ∧ ws <+: titleWords unicode title ∧
    (normalizeTitle unicode title).toList = joinWords ' ' ws
  head_ne : (normalizeTitle unicode title).toList.head? ≠ some ' '
  getLast_ne : (normalizeTitle unicode title).toList.getLast? ≠ some ' '
  /-- No edition suffix ends it after a space. -/
  stripped : ∀ suffix ∈ editionSuffixes, ∀ rest,
    (normalizeTitle unicode title).toList ≠ rest ++ ' ' :: suffix.toList
  ne_empty : titleWords unicode title ≠ [] → normalizeTitle unicode title ≠ ""
  idempotent : normalizeTitle unicode (normalizeTitle unicode title) = normalizeTitle unicode title

/-- What the strip loop does for its list of suffixes. -/
structure StripLoopLaws : Prop where
  /-- It ends: a round for each character and one more are enough. -/
  ends : ∀ fuel current, current.length < fuel →
    stripLoop (editionSuffixes.map String.toList) fuel current =
      some (stripEditionSuffixes current)
  /-- The lengths that a round chooses do not depend on the order of the suffixes. -/
  order : ∀ suffixes : List String, suffixes.Perm editionSuffixes → ∀ current,
    longestSuffix (suffixes.map String.toList) current =
      longestSuffix (editionSuffixes.map String.toList) current
  /-- One suffix has the length that is chosen. -/
  unique : ∀ current suffixLength restLength,
    longestSuffix (editionSuffixes.map String.toList) current = some (suffixLength, restLength) →
      ∃! suffix, suffix ∈ editionSuffixes ∧
        suffixMatch current suffix.toList = some (suffixLength, restLength)

/-- **The laws of the loop hold.** -/
lemma stripLoopLaws : StripLoopLaws := by
  refine ⟨fun _ _ h => stripLoop_eq h, fun _ h => longestSuffix_perm (h.map String.toList),
    fun current suffixLength restLength h => ?_⟩
  have hmem := (maxByKey_spec h).1
  obtain ⟨text, htext, hmatch⟩ := List.mem_filterMap.mp hmem
  obtain ⟨suffix, hsuffix, rfl⟩ := List.mem_map.mp htext
  refine ⟨suffix, ⟨hsuffix, hmatch⟩, fun other hother => ?_⟩
  obtain ⟨_, heq, hlength, -⟩ := suffixMatch_eq_some_iff.mp hmatch
  obtain ⟨_, heq', hlength', -⟩ := suffixMatch_eq_some_iff.mp hother.2
  have hsame := suffix_eq_of_length_eq heq' heq (hlength'.trans hlength.symm)
  exact String.toList_inj.mp hsame

/-- No suffix matches the normal form. -/
lemma longestSuffix_normalizeTitle (title : String) :
    longestSuffix (editionSuffixes.map String.toList) (normalizeTitle unicode title).toList =
      none := by
  unfold normalizeTitle
  rw [String.toList_ofList]
  exact longestSuffix_stripEditionSuffixes _

/-- The characters of the collapsed words are folded letters and numbers. -/
lemma folded_of_mem_titleWords (h : unicode.Lawful) {title : String} {w : List Char} {c : Char}
    (hw : w ∈ titleWords unicode title) (hc : c ∈ w) :
    unicode.isWordChar c = true ∧ ∃ folded, c ∈ unicode.fold folded := by
  rw [titleWords_eq h.isWordChar_space] at hw
  obtain ⟨⟨-, hword⟩, hmem⟩ := isWord_of_mem_words hw
  exact ⟨hword c hc, mem_fold_of_mem_lower h (hmem c hc) (hword c hc)⟩

/-- Joined words of folded letters and numbers, with no suffix to strip, are their normal form. -/
lemma normalizeTitle_eq_self (h : unicode.Lawful) {title : String} {ws : List (List Char)}
    (htitle : title.toList = joinWords ' ' ws) (hws : ∀ w ∈ ws, IsWord unicode.isWordChar w)
    (hfolded : ∀ w ∈ ws, ∀ c ∈ w, ∃ folded, c ∈ unicode.fold folded)
    (hstripped : longestSuffix (editionSuffixes.map String.toList) title.toList = none) :
    normalizeTitle unicode title = title := by
  have hchars : ∀ c ∈ title.toList,
      c = ' ' ∨ unicode.isWordChar c = true ∧ ∃ folded, c ∈ unicode.fold folded := by
    intro c hc
    rw [htitle] at hc
    rcases mem_joinWords hc with hspace | ⟨w, hw, hcw⟩
    · exact Or.inl hspace
    · exact Or.inr ⟨(hws w hw).2 c hcw, hfolded w hw c hcw⟩
  have hcollapse : unicode.collapse title.toList = title.toList := by
    rw [collapse_eq_joinWords, htitle, words_joinWords h.isWordChar_space hws]
  unfold normalizeTitle
  rw [lower_eq_self h hchars, hcollapse, stripEditionSuffixes_of_none hstripped,
    String.ofList_toList]

/-- **The normal form is canonical**, and the strip loop ends and does not depend on the order of
the suffixes.

**Proof sketch.** The loop over the characters joins the words of the text, and the strip loop
strips phrases from these words. What is left is joined words of folded letters and numbers: to
fold, to collapse and to strip them again changes nothing. -/
theorem normalizeTitle_canonical (h : unicode.Lawful) (title : String) :
    CanonicalTitle unicode title ∧ StripLoopLaws := by
  refine ⟨?_, stripLoopLaws⟩
  obtain ⟨out, hrun, htext⟩ := normalizeTitle_stripsTo h.isWordChar_space title
  have hmem : ∀ w ∈ out, w ∈ titleWords unicode title := fun w hw => hrun.isPrefix.subset hw
  have hwords : ∀ w ∈ out, IsWord unicode.isWordChar w := fun w hw =>
    isWord_of_mem_titleWords w (hmem w hw)
  have hplain : ∀ w ∈ out, w ≠ [] ∧ ' ' ∉ w := fun w hw =>
    (hwords w hw).not_mem h.isWordChar_space
  have hstripped := @longestSuffix_normalizeTitle unicode title
  refine ⟨⟨out, hwords, hrun.isPrefix, htext⟩, ?_, ?_, ?_, ?_, ?_⟩
  · rw [htext]
    exact head?_joinWords_ne hplain
  · rw [htext]
    exact getLast?_joinWords_ne hplain
  · intro suffix hsuffix
    exact longestSuffix_eq_none_iff.mp hstripped _ (List.mem_map_of_mem hsuffix)
  · intro htitle hempty
    have hnil : joinWords ' ' out = [] := by
      rw [← htext, hempty]
      rfl
    exact hrun.ne_nil htitle ((joinWords_eq_nil_iff fun w hw => (hplain w hw).1).mp hnil)
  · exact normalizeTitle_eq_self h htext hwords
      (fun w hw c hc => (folded_of_mem_titleWords h (hmem w hw) hc).2) hstripped

/-! ## ASCII text -/

/-- A letter in lower case stays. -/
lemma toLower_toLower (c : Char) : c.toLower.toLower = c.toLower := by
  have hupper : ¬ (c.toLower.val ≥ 'A'.val ∧ c.toLower.val ≤ 'Z'.val) := by
    unfold Char.toLower
    split
    · next h =>
      simp only [ge_iff_le, UInt32.le_iff_toNat_le] at h ⊢
      intro h'
      simp [UInt32.toNat_add] at h h'
      omega
    · next h => exact h
  exact dif_neg hupper

/-- An ASCII letter or digit is no combining mark. -/
lemma isCombiningMark_of_isWordChar {c : Char} (h : UnicodeData.ascii.isWordChar c = true) :
    isCombiningMark c = false := by
  -- the ranges of the letters and the digits
  rw [show UnicodeData.ascii.isWordChar c = ((decide (65 ≤ c.val ∧ c.val ≤ 90) ||
    (decide (97 ≤ c.val) && decide (c.val ≤ 122))) ||
    (decide (48 ≤ c.val) && decide (c.val ≤ 57))) from rfl] at h
  simp only [Bool.or_eq_true, Bool.and_eq_true, decide_eq_true_eq, UInt32.le_iff_toNat_le] at h
  unfold isCombiningMark
  rw [Bool.and_eq_false_iff, decide_eq_false_iff_not, Char.le_def, UInt32.le_iff_toNat_le]
  left
  simp at h ⊢
  omega

/-- The data of ASCII text is lawful. -/
lemma UnicodeData.ascii_lawful : UnicodeData.ascii.Lawful := by
  refine ⟨by decide, by decide, fun c hc => ?_, by decide, fun text htext => ?_⟩
  · unfold isRemovedSymbol at hc
    simp only [Bool.or_eq_true, beq_iff_eq] at hc
    rcases hc with (((rfl | rfl) | rfl) | rfl) | rfl
    all_goals decide
  · have hmarks : text.filter (fun c => !isCombiningMark c) = text := by
      refine List.filter_eq_self.mpr fun c hc => ?_
      rcases htext c hc with rfl | ⟨hword, -⟩
      · decide
      · rw [isCombiningMark_of_isWordChar hword]
        rfl
    have hlower : ∀ c ∈ text, c.toLower = c := by
      intro c hc
      rcases htext c hc with rfl | ⟨-, folded, hmem⟩
      · decide
      · obtain ⟨d, -, rfl⟩ := List.mem_map.mp hmem
        exact toLower_toLower d
    show (text.filter fun c => !isCombiningMark c).map Char.toLower = text
    rw [hmarks]
    exact (List.map_congr_left hlower).trans (List.map_id' text)

/-- A title with two edition suffixes. -/
theorem normalizeTitle_canonical_editions :
    CanonicalTitle UnicodeData.ascii "Synthetic Quest (PS4 & PS5) Deluxe Edition" ∧
      normalizeTitle UnicodeData.ascii "Synthetic Quest (PS4 & PS5) Deluxe Edition" =
        "synthetic quest" :=
  ⟨(normalizeTitle_canonical UnicodeData.ascii_lawful _).1, by decide +kernel⟩

end PsStore
