import PsStore.Domain.TitleForm

set_option relaxedAutoImplicit false
set_option autoImplicit false

/-!
# Titles of edition words alone

A title whose collapsed words are a concatenation of edition suffixes. The strip loop leaves the
first of them whole, except where a shorter suffix ends it: `digital deluxe edition`, `ps4 ps5` and
`ps4 and ps5` are cut into a fragment.

## Main definitions

* `StaysWhole` — the normal form is a whole edition suffix, and one suffix alone stays.

## Main results

* `editionPhrases_separable` — how the suffixes overlap.
* `staysWhole_iff` — when a title of edition words alone stays whole.
* `stripped_editionPhrases_iff` — the three suffixes that another one ends.
-/

namespace PsStore

/-! ## How the suffixes overlap -/

/-- **How the suffixes overlap.** What stands before a suffix inside another one (`digital`, `ps4`
and `ps4 and`) neither ends like a suffix nor starts with one. -/
theorem editionPhrases_separable : Separable editionPhrases :=
  ⟨by decide +kernel, by decide +kernel, by decide +kernel⟩

/-- A shorter suffix ends three of the suffixes. -/
theorem stripped_editionPhrases_iff : ∀ suffix ∈ editionSuffixes,
    Stripped editionPhrases (phraseWords suffix) ↔
      suffix ≠ "digital deluxe edition" ∧ suffix ≠ "ps4 ps5" ∧ suffix ≠ "ps4 and ps5" := by
  decide +kernel

/-! ## The normal form -/

variable {unicode : UnicodeData}

/-- The normal form of a title is a whole edition suffix, and the words of a title that is one
suffix stay as they are. -/
structure StaysWhole (unicode : UnicodeData) (title : String) : Prop where
  mem : normalizeTitle unicode title ∈ editionSuffixes
  eq : titleWords unicode title ∈ editionPhrases →
    (normalizeTitle unicode title).toList = joinWords ' ' (titleWords unicode title)

/-- A text is an edition suffix where its words are an edition phrase. -/
lemma mem_editionSuffixes_iff {text : String} {ws : List (List Char)}
    (htext : text.toList = joinWords ' ' ws) (hws : ∀ w ∈ ws, w ≠ [] ∧ ' ' ∉ w) :
    text ∈ editionSuffixes ↔ ws ∈ editionPhrases := by
  constructor
  · intro h
    have hmem : joinWords ' ' ws ∈ editionPhrases.map (joinWords ' ') := by
      rw [joinWords_editionPhrases, ← htext]
      exact List.mem_map_of_mem h
    obtain ⟨p, hp, hjoin⟩ := List.mem_map.mp hmem
    rw [← joinWords_inj (editionPhrases_words p hp).2 hws hjoin]
    exact hp
  · intro h
    have hmem : text.toList ∈ editionSuffixes.map String.toList := by
      rw [← joinWords_editionPhrases, htext]
      exact List.mem_map_of_mem h
    obtain ⟨suffix, hsuffix, heq⟩ := List.mem_map.mp hmem
    rw [← String.toList_inj.mp heq]
    exact hsuffix

/-- **When a title of edition words alone stays whole.** For a title whose collapsed words are a
concatenation of edition phrases: exactly where no other phrase ends the first of them.

**Proof sketch.** The normal form of a title of edition words is what a run of `StripsTo` leaves of
its phrases (`normalizeTitle_stripsTo`). A run strips every phrase but the first one, and then what
ends the first (`StripsTo.isWhole_iff`), so a whole phrase is left exactly where no other phrase
ends it. -/
theorem staysWhole_iff (hspace : unicode.isWordChar ' ' = false) {title : String}
    {p : List (List Char)} {ps : List (List (List Char))} (hp : p ∈ editionPhrases)
    (hps : ∀ q ∈ ps, q ∈ editionPhrases) (htitle : titleWords unicode title = (p :: ps).flatten) :
    StaysWhole unicode title ↔ Stripped editionPhrases p := by
  obtain ⟨out, hrun, htext⟩ := normalizeTitle_stripsTo hspace title
  have hwords : ∀ w ∈ titleWords unicode title, w ≠ [] ∧ ' ' ∉ w := fun w hw =>
    (isWord_of_mem_titleWords w hw).not_mem hspace
  have hout : ∀ w ∈ out, w ≠ [] ∧ ' ' ∉ w := fun w hw => hwords w (hrun.isPrefix.subset hw)
  have hmem := mem_editionSuffixes_iff htext hout
  have hsame : (normalizeTitle unicode title).toList = joinWords ' ' (titleWords unicode title) ↔
      out = titleWords unicode title := by
    rw [htext]
    exact ⟨fun h => joinWords_inj hout hwords h, fun h => by rw [h]⟩
  have hflatten : StripsTo editionPhrases (p :: ps).flatten out := htitle ▸ hrun
  rw [← hflatten.isWhole_iff editionPhrases_separable hp hps, ← htitle]
  constructor
  · intro h
    exact ⟨hmem.mp h.mem, fun hphrase => hsame.mp (h.eq hphrase)⟩
  · intro h
    obtain ⟨hphrase, heq⟩ := h
    exact ⟨hmem.mpr hphrase, fun htitle' => hsame.mpr (heq htitle')⟩

/-- Two suffixes in a row: the first one stays. -/
theorem staysWhole_iff_standard :
    StaysWhole UnicodeData.ascii "Standard Edition (PS4 & PS5)" ∧
      normalizeTitle UnicodeData.ascii "Standard Edition (PS4 & PS5)" = "standard edition" := by
  have hfirst : phraseWords "standard edition" ∈ editionPhrases := by decide +kernel
  have hsecond : ∀ q ∈ [phraseWords "ps4 and ps5"], q ∈ editionPhrases := by decide +kernel
  have htitle : titleWords UnicodeData.ascii "Standard Edition (PS4 & PS5)" =
      [phraseWords "standard edition", phraseWords "ps4 and ps5"].flatten := by decide +kernel
  have hstripped : Stripped editionPhrases (phraseWords "standard edition") := by decide +kernel
  exact ⟨(staysWhole_iff (by decide) hfirst hsecond htitle).mpr hstripped, by decide +kernel⟩

/-- The title `PS4 PS5` is an edition suffix, and it is cut into `ps4`, which is none. -/
theorem not_staysWhole_ps4Ps5 :
    titleWords UnicodeData.ascii "PS4 PS5" = phraseWords "ps4 ps5" ∧
      phraseWords "ps4 ps5" ∈ editionPhrases ∧
      normalizeTitle UnicodeData.ascii "PS4 PS5" = "ps4" ∧
      ¬ StaysWhole UnicodeData.ascii "PS4 PS5" := by
  have hcut : normalizeTitle UnicodeData.ascii "PS4 PS5" = "ps4" := by decide +kernel
  refine ⟨by decide +kernel, by decide +kernel, hcut, fun h => ?_⟩
  have hmem := h.mem
  rw [hcut] at hmem
  exact absurd hmem (by decide +kernel)

end PsStore
