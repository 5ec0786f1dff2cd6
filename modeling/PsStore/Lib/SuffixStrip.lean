import Mathlib.Data.List.Basic
import Mathlib.Data.List.Induction
import Mathlib.Order.Nat

set_option relaxedAutoImplicit false
set_option autoImplicit false

/-!
# Stripping phrases from the end

A list loses the longest phrase that ends it after something else, again and again, until no phrase
ends it so.

## Main definitions

* `Stripped`, `StripsOnce`, `StripsTo` — no phrase is left to strip, one round, and a whole run.
* `Separable` — phrases that can be told apart from the end of a concatenation of them.

## Main results

* `StripsTo.isPrefix`, `StripsTo.ne_nil`, `StripsTo.stripped` — what a run leaves.
* `StripsTo.of_flatten` — of a concatenation of phrases, a run leaves what it leaves of the first.
* `StripsTo.isWhole_iff` — when that is a whole phrase.
-/

namespace PsStore

universe u

variable {α : Type u} (phrases : List (List α))

/-! ## Runs -/

/-- No phrase ends the list after something else. -/
def Stripped (ws : List α) : Prop := ∀ p ∈ phrases, ∀ us, us ≠ [] → ws ≠ us ++ p

/-- The longest phrase that ends `ws` after something else is stripped, and `us` is left. -/
structure StripsOnce (ws us : List α) : Prop where
  ne_nil : us ≠ []
  longest : ∃ p ∈ phrases, ws = us ++ p ∧
    ∀ q ∈ phrases, ∀ vs, vs ≠ [] → ws = vs ++ q → q.length ≤ p.length

/-- The rounds from a list to the list that is left at the end. -/
inductive StripsTo : List α → List α → Prop
  | stop {ws : List α} (h : Stripped phrases ws) : StripsTo ws ws
  | round {ws us out : List α} (h : StripsOnce phrases ws us) (rest : StripsTo us out) :
      StripsTo ws out

variable {phrases} {ws out : List α}

/-- What is left of `x ++ q` without its first elements, as many as `x` has. -/
lemma drop_length_pred_succ {x : List α} (hx : x ≠ []) (q : List α) :
    (x ++ q).drop (x.length - 1 + 1) = q := by
  rw [Nat.sub_add_cancel (List.length_pos_iff.mpr hx), List.drop_left]

/-- What ends a list after something else is the list without its first elements. -/
lemma stripped_iff :
    Stripped phrases ws ↔ ∀ n < ws.length, ws.drop (n + 1) ∉ phrases := by
  constructor
  · intro h n hn hmem
    have hfront : ws.take (n + 1) ≠ [] := by
      rw [← List.length_pos_iff, List.length_take]
      omega
    exact h _ hmem _ hfront (List.take_append_drop (n + 1) ws).symm
  · rintro h p hp us hus rfl
    have hpos := List.length_pos_iff.mpr hus
    refine h (us.length - 1) ?_ ?_
    · simp
      omega
    · rw [drop_length_pred_succ hus p]
      exact hp

instance [DecidableEq α] : Decidable (Stripped phrases ws) := decidable_of_iff' _ stripped_iff

/-- A run leaves a prefix. -/
lemma StripsTo.isPrefix (h : StripsTo phrases ws out) : out <+: ws := by
  induction h with
  | stop => exact List.prefix_refl _
  | round h _ ih =>
    obtain ⟨p, -, hws, -⟩ := h.longest
    rw [hws]
    exact ih.trans (List.prefix_append _ p)

/-- A run leaves something of a list that is not empty. -/
lemma StripsTo.ne_nil (h : StripsTo phrases ws out) (hws : ws ≠ []) : out ≠ [] := by
  induction h with
  | stop => exact hws
  | round h _ ih => exact ih h.ne_nil

/-- A run ends where no phrase is left to strip. -/
lemma StripsTo.stripped (h : StripsTo phrases ws out) : Stripped phrases out := by
  induction h with
  | stop h => exact h
  | round _ _ ih => exact ih

/-- A run leaves a stripped list as it is. -/
lemma StripsTo.eq_of_stripped (h : StripsTo phrases ws out) (hws : Stripped phrases ws) :
    out = ws := by
  cases h with
  | stop => rfl
  | round h _ =>
    obtain ⟨p, hp, heq, -⟩ := h.longest
    exact absurd heq (hws p hp _ h.ne_nil)

/-! ## Concatenations of phrases -/

/-- Phrases that can be told apart from the end of a concatenation of them: what stands inside a
phrase before another one neither ends like a phrase nor starts with one. -/
structure Separable (phrases : List (List α)) : Prop where
  ne_nil : ∀ p ∈ phrases, p ≠ []
  getLast?_ne : ∀ q ∈ phrases, ∀ n < q.length, q.drop (n + 1) ∈ phrases →
    ∀ r ∈ phrases, r.getLast? ≠ q[n]?
  not_isPrefix : ∀ q ∈ phrases, ∀ n < q.length, q.drop (n + 1) ∈ phrases →
    ∀ r ∈ phrases, ¬ r <+: q.take (n + 1)

/-- What stands inside a phrase before another one does not end like a phrase. -/
lemma Separable.getLast?_append_ne (h : Separable phrases) {x q : List α} (hx : x ≠ [])
    (hxq : x ++ q ∈ phrases) (hq : q ∈ phrases) {r : List α} (hr : r ∈ phrases) :
    r.getLast? ≠ x.getLast? := by
  have hpos := List.length_pos_iff.mpr hx
  have hne := h.getLast?_ne (x ++ q) hxq (x.length - 1) (by simp; omega)
    ((drop_length_pred_succ hx q).symm ▸ hq) r hr
  rw [List.getElem?_append_left (by omega), ← List.getLast?_eq_getElem?] at hne
  exact hne

/-- What stands inside a phrase before another one does not start with a phrase. -/
lemma Separable.not_isPrefix_append (h : Separable phrases) {x q : List α} (hx : x ≠ [])
    (hxq : x ++ q ∈ phrases) (hq : q ∈ phrases) {r : List α} (hr : r ∈ phrases) :
    ¬ r <+: x := by
  have hpos := List.length_pos_iff.mpr hx
  have hnot := h.not_isPrefix (x ++ q) hxq (x.length - 1) (by simp; omega)
    ((drop_length_pred_succ hx q).symm ▸ hq) r hr
  rw [Nat.sub_add_cancel hpos, List.take_left] at hnot
  exact hnot

/-- A concatenation of phrases is not empty. -/
lemma Separable.flatten_ne_nil (h : Separable phrases) {p : List α} (hp : p ∈ phrases)
    (ps : List (List α)) : (p :: ps).flatten ≠ [] := fun hnil =>
  h.ne_nil p hp (List.flatten_eq_nil_iff.mp hnil p List.mem_cons_self)

/-- A concatenation of phrases ends like a phrase. -/
lemma getLast?_flatten {ps : List (List α)} (hne : ∀ p ∈ ps, p ≠ []) (hps : ps ≠ []) :
    ∃ r ∈ ps, ps.flatten.getLast? = r.getLast? := by
  obtain rfl | ⟨front, last, rfl⟩ := ps.eq_nil_or_concat'
  · exact absurd rfl hps
  · have hlast : last ≠ [] := hne last (by simp)
    refine ⟨last, by simp, ?_⟩
    rw [List.flatten_append, List.flatten_singleton, List.getLast?_append_of_ne_nil _ hlast]

/-- **A concatenation of phrases.** A run strips every phrase but the first, so it leaves what it
leaves of the first.

**Proof sketch.** By induction on the phrases from the end. The last one ends the concatenation
after the others, so the phrase that the round strips is at least as long. Were it longer, it would
hold the last phrase after an element that ends another phrase. -/
theorem StripsTo.of_flatten (hphrases : Separable phrases) {p : List α} {ps : List (List α)}
    (hp : p ∈ phrases) (hps : ∀ q ∈ ps, q ∈ phrases)
    (h : StripsTo phrases (p :: ps).flatten out) : StripsTo phrases p out := by
  induction ps using List.reverseRecOn with
  | nil => simpa using h
  | append_singleton ps q ih =>
    have hq : q ∈ phrases := hps q (by simp)
    have hmem : ∀ r ∈ p :: ps, r ∈ phrases := by
      intro r hr
      rcases List.mem_cons.mp hr with rfl | hr
      · exact hp
      · exact hps r (List.mem_append_left [q] hr)
    have hne : ∀ r ∈ p :: ps, r ≠ [] := fun r hr => hphrases.ne_nil r (hmem r hr)
    have hfront := hphrases.flatten_ne_nil hp ps
    have hsplit : (p :: (ps ++ [q])).flatten = (p :: ps).flatten ++ q := by simp
    rw [hsplit] at h
    cases h with
    | stop hstripped => exact absurd rfl (hstripped q hq _ hfront)
    | round hround hrest =>
      obtain ⟨r, hr, heq, hlongest⟩ := hround.longest
      have hlength := hlongest q hq _ hfront rfl
      have hsuffix : q <:+ r :=
        List.suffix_of_suffix_length_le (heq ▸ List.suffix_append _ q) (List.suffix_append _ r)
          hlength
      obtain ⟨x, rfl⟩ := hsuffix
      rw [← List.append_assoc] at heq
      have hfrontx := List.append_cancel_right heq
      by_cases hx : x = []
      · rw [hx, List.append_nil] at hfrontx
        rw [← hfrontx] at hrest
        exact ih (fun r hr => hps r (List.mem_append_left [q] hr)) hrest
      · -- the last element of `x` ends the phrases before `q`
        obtain ⟨r, hrmem, hlast⟩ := getLast?_flatten hne (List.cons_ne_nil p ps)
        rw [hfrontx, List.getLast?_append_of_ne_nil _ hx] at hlast
        exact absurd hlast.symm (hphrases.getLast?_append_ne hx hr hq (hmem r hrmem))

/-- A first phrase that no other phrase ends is left as it is. -/
lemma StripsTo.eq_of_flatten (hphrases : Separable phrases) {p : List α} {ps : List (List α)}
    (hp : p ∈ phrases) (hps : ∀ q ∈ ps, q ∈ phrases)
    (h : StripsTo phrases (p :: ps).flatten out) (hfirst : Stripped phrases p) : out = p :=
  (h.of_flatten hphrases hp hps).eq_of_stripped hfirst

/-- A phrase that another phrase ends is cut, and no phrase is left. -/
lemma StripsTo.not_mem_of_flatten (hphrases : Separable phrases) {p : List α} {ps : List (List α)}
    (hp : p ∈ phrases) (hps : ∀ q ∈ ps, q ∈ phrases)
    (h : StripsTo phrases (p :: ps).flatten out) (hfirst : ¬ Stripped phrases p) :
    out ∉ phrases := by
  have hcut := h.of_flatten hphrases hp hps
  cases hcut with
  | stop hstripped => exact absurd hstripped hfirst
  | @round _ us _ hround hrest =>
    obtain ⟨q, hq, rfl, -⟩ := hround.longest
    intro hout
    exact hphrases.not_isPrefix_append hround.ne_nil hp hq hout hrest.isPrefix

/-- A concatenation of phrases that is a phrase itself is the first of them. -/
lemma Separable.flatten_eq (hphrases : Separable phrases) {p : List α} {ps : List (List α)}
    (hp : p ∈ phrases) (hps : ∀ q ∈ ps, q ∈ phrases) (hmem : (p :: ps).flatten ∈ phrases) :
    (p :: ps).flatten = p := by
  obtain rfl | ⟨front, q, rfl⟩ := ps.eq_nil_or_concat'
  · simp
  · have hq : q ∈ phrases := hps q (by simp)
    have hsplit : (p :: (front ++ [q])).flatten = (p :: front).flatten ++ q := by simp
    have hfront := hphrases.flatten_ne_nil hp front
    rw [hsplit] at hmem
    refine absurd ?_ (hphrases.not_isPrefix_append hfront hmem hq hp)
    rw [List.flatten_cons]
    exact List.prefix_append p _

/-- **A whole phrase is left of a concatenation of phrases exactly where no other phrase ends the
first of them.** A concatenation that is one phrase is then left as it is. -/
theorem StripsTo.isWhole_iff (hphrases : Separable phrases) {p : List α} {ps : List (List α)}
    (hp : p ∈ phrases) (hps : ∀ q ∈ ps, q ∈ phrases)
    (h : StripsTo phrases (p :: ps).flatten out) :
    (out ∈ phrases ∧ ((p :: ps).flatten ∈ phrases → out = (p :: ps).flatten)) ↔
      Stripped phrases p := by
  constructor
  · intro h
    obtain ⟨hout, -⟩ := h
    by_contra hfirst
    exact h.not_mem_of_flatten hphrases hp hps hfirst hout
  · intro hfirst
    have hout := h.eq_of_flatten hphrases hp hps hfirst
    rw [hout]
    exact ⟨hp, fun hmem => (hphrases.flatten_eq hp hps hmem).symm⟩

end PsStore
