import Mathlib.Algebra.Order.Group.Int
import Mathlib.Algebra.Order.Group.Abs
import PsStore.Application.Games
import PsStore.Web.GamesQuery

set_option relaxedAutoImplicit false
set_option autoImplicit false

/-!
# The day split of NEW and UPCOMING

The server sends each of NEW and UPCOMING a superset of the client's split at the start of the
viewer's next local day; the client keeps its own side of each. The windows of the server are in
`PsStore.Domain.Listing`; the split is that of `modules/releaseDay.ts`, where `Date.parse` of the
browser is a parameter.

## Main definitions

* `Web.splitByReleaseDay` — the client's side of a list.

## Main results

* `Web.splitByReleaseDay_perm` — the client's side of a window that covers the side of the whole
  list is that side.
* `Web.day_split` — the two lists, whole and by pages, split as the merged list does.
-/

namespace PsStore

namespace Web

/-! ## The split of the client -/

/-- The features of the client's game lists. -/
inductive GamesFeature where
  | new
  | upcoming
  | discounted
  | monthly
deriving DecidableEq

/-- NEW keeps a dated game released before the boundary. UPCOMING keeps the rest, including a game
without a date. Other views stay unchanged. `dateParse` is the browser's `Date.parse`, with `none`
for `NaN`. -/
def splitByReleaseDay (dateParse : String → Option ℤ) (feature : GamesFeature) (games : List Game)
    (boundaryMs : ℤ) : List Game :=
  if feature ≠ .new ∧ feature ≠ .upcoming then games
  else games.filter fun game =>
    let beforeBoundary := (dateParse game.date).any fun releaseMs => decide (releaseMs < boundaryMs)
    if feature = .new then beforeBoundary else !beforeBoundary

/-- The client's feature of a release window. -/
def featureOf : Window → GamesFeature
  | .new => .new
  | .upcoming => .upcoming

/-- A game is on the client's side of a window. -/
def onSide (dateParse : String → Option ℤ) (window : Window) (boundaryMs : ℤ) (game : Game) :
    Bool :=
  let beforeBoundary := (dateParse game.date).any fun releaseMs => decide (releaseMs < boundaryMs)
  match window with
  | .new => beforeBoundary
  | .upcoming => !beforeBoundary

variable (dateParse : String → Option ℤ)

/-- The client keeps its side of a list. -/
lemma splitByReleaseDay_eq (window : Window) (games : List Game) (boundaryMs : ℤ) :
    splitByReleaseDay dateParse (featureOf window) games boundaryMs =
      games.filter (onSide dateParse window boundaryMs) := by
  cases window <;> rfl

/-- The server's condition of a window. -/
def inWindow (window : Window) (nowMs : ℤ) (game : Game) : Bool :=
  match window with
  | .new =>
    (releaseMs game).any fun ms => decide (ms < nowMs + maxLocalDayMs + clientClockMarginMs)
  | .upcoming => (releaseMs game).all fun ms => decide (nowMs - clientClockMarginMs ≤ ms)

/-- The server's list of a window holds the games that meet its condition. -/
lemma windowGames_perm (window : Window) (games : List Game) (nowMs : ℤ) :
    (window.games games nowMs).Perm (games.filter (inWindow window nowMs)) := by
  cases window with
  | new => exact sortByDate_perm _ _
  | upcoming => exact sortByDate_perm _ _

variable {dateParse}

/-- **The windows cover the sides.** A game on the client's side of a window meets the server's
condition, for a client clock within 12 hours and a boundary in the client's next 25 hours.

**Proof sketch.** A game before the boundary is released at most 25 hours after the clock of the
client, and so at most 37 hours after the one of the server; a game on the other side is released
after the clock of the client, and so at most 12 hours before the one of the server. -/
theorem inWindow_of_onSide {window : Window} {nowMs clientNow boundaryMs : ℤ} {game : Game}
    (hparse : dateParse game.date = parseDateMs game.date)
    (hclock : |clientNow - nowMs| ≤ clientClockMarginMs) (hafter : clientNow < boundaryMs)
    (hday : boundaryMs ≤ clientNow + maxLocalDayMs)
    (hside : onSide dateParse window boundaryMs game = true) :
    inWindow window nowMs game = true := by
  obtain ⟨hlow, hhigh⟩ := abs_le.mp hclock
  unfold onSide at hside
  rw [hparse] at hside
  unfold inWindow releaseMs
  cases window with
  | new =>
    cases hdate : parseDateMs game.date with
    | none => simp [hdate] at hside
    | some ms =>
      simp only [hdate, Option.any_some, decide_eq_true_eq] at hside ⊢
      omega
  | upcoming =>
    cases hdate : parseDateMs game.date with
    | none => rfl
    | some ms =>
      simp only [hdate, Option.any_some, Bool.not_eq_true', decide_eq_false_iff_not] at hside
      simp only [Option.all_some, decide_eq_true_eq]
      omega

/-- **The client's side of the server's list** is its side of the merged list. -/
theorem splitByReleaseDay_perm {merged : List Game} {nowMs clientNow boundaryMs : ℤ}
    (hparse : ∀ game ∈ merged, dateParse game.date = parseDateMs game.date)
    (hclock : |clientNow - nowMs| ≤ clientClockMarginMs) (hafter : clientNow < boundaryMs)
    (hday : boundaryMs ≤ clientNow + maxLocalDayMs) (window : Window) :
    (splitByReleaseDay dateParse (featureOf window) (window.games merged nowMs) boundaryMs).Perm
      (splitByReleaseDay dateParse (featureOf window) merged boundaryMs) := by
  rw [splitByReleaseDay_eq, splitByReleaseDay_eq]
  refine ((windowGames_perm window merged nowMs).filter _).trans ?_
  rw [List.filter_filter]
  refine List.Perm.of_eq (List.filter_congr fun game hgame => ?_)
  cases hside : onSide dateParse window boundaryMs game with
  | false => rfl
  | true => rw [inWindow_of_onSide (hparse game hgame) hclock hafter hday hside, Bool.and_true]

/-- The two sides of the boundary part the games. -/
lemma mem_splitByReleaseDay_iff (window : Window) {games : List Game} {boundaryMs : ℤ}
    {game : Game} :
    game ∈ splitByReleaseDay dateParse (featureOf window) games boundaryMs ↔
      game ∈ games ∧ onSide dateParse window boundaryMs game = true := by
  rw [splitByReleaseDay_eq, List.mem_filter]

/-- A window has at most the games of the list. -/
lemma length_windowGames_le (window : Window) (games : List Game) (nowMs : ℤ) :
    (window.games games nowMs).length ≤ games.length := by
  rw [(windowGames_perm window games nowMs).length_eq]
  exact List.length_filter_le _ _

/-- **The day split.** For every merged release list, every server clock at the answer of each list,
every client clock within 12 hours of it and every boundary in the client's next 25 hours:

* the client's side of each server list is its side of the merged list;
* every merged game is shown in exactly one of the two views;
* following the pages of a server list ends, and the client's side of what they give is its side
  of the merged list too.

The browser reads the dates of the merged list as the server does.

**Proof sketch.** A game that the client puts on one side of its day has an instant on that side of
the boundary, which lies at most 25 hours after the clock of the client and so at most 37 hours
after the one of the server: the window of the server's list contains it (`splitByReleaseDay_perm`).
The two sides are complements of each other, and the pages of a list together are the list
(`follow_paginate`). -/
theorem day_split {merged : List Game} {serverNow : Window → ℤ} {clientNow boundaryMs : ℤ}
    (hparse : ∀ game ∈ merged, dateParse game.date = parseDateMs game.date)
    (hclock : ∀ window, |clientNow - serverNow window| ≤ clientClockMarginMs)
    (hafter : clientNow < boundaryMs) (hday : boundaryMs ≤ clientNow + maxLocalDayMs) :
    (∀ window : Window,
      (splitByReleaseDay dateParse (featureOf window)
        (window.games merged (serverNow window)) boundaryMs).Perm
      (splitByReleaseDay dateParse (featureOf window) merged boundaryMs)) ∧
    (∀ game ∈ merged, Xor
      (game ∈ splitByReleaseDay dateParse .new
        (Window.new.games merged (serverNow .new)) boundaryMs)
      (game ∈ splitByReleaseDay dateParse .upcoming
        (Window.upcoming.games merged (serverNow .upcoming)) boundaryMs)) ∧
    ∀ (u : Lookups) (window : Window) (size : ℕ), u.releaseGames = .ok merged →
      u.clock .releaseWindow = serverNow window → merged.length ≤ usizeMax → 1 ≤ size →
      ∃ pages, follow (fun offset => u.releaseListing window { offset, size })
          PageResult.nextOffset (merged.length + 1) 0 = .ok (pages, none) ∧
        (splitByReleaseDay dateParse (featureOf window) (pages.flatMap PageResult.games)
          boundaryMs).Perm
        (splitByReleaseDay dateParse (featureOf window) merged boundaryMs) := by
  have hperm : ∀ window : Window,
      (splitByReleaseDay dateParse (featureOf window)
        (window.games merged (serverNow window)) boundaryMs).Perm
      (splitByReleaseDay dateParse (featureOf window) merged boundaryMs) := by
    intro window
    exact splitByReleaseDay_perm hparse (hclock window) hafter hday window
  refine ⟨hperm, ?_, ?_⟩
  · intro game hgame
    have hnew : game ∈ splitByReleaseDay dateParse .new
          (Window.new.games merged (serverNow .new)) boundaryMs ↔
        onSide dateParse .new boundaryMs game = true := by
      refine ((hperm .new).mem_iff.trans (mem_splitByReleaseDay_iff .new)).trans ?_
      simp [hgame]
    have hupcoming : game ∈ splitByReleaseDay dateParse .upcoming
          (Window.upcoming.games merged (serverNow .upcoming)) boundaryMs ↔
        onSide dateParse .upcoming boundaryMs game = true := by
      refine ((hperm .upcoming).mem_iff.trans (mem_splitByReleaseDay_iff .upcoming)).trans ?_
      simp [hgame]
    rw [hnew, hupcoming]
    -- the upcoming side is the complement of the new side
    change Xor (onSide dateParse .new boundaryMs game = true)
      ((!onSide dateParse .new boundaryMs game) = true)
    cases onSide dateParse .new boundaryMs game <;> simp
  · intro u window size hmerged hnow hlength hsize
    have hshort := length_windowGames_le window merged (serverNow window)
    have hlisting : (fun offset => u.releaseListing window { offset, size }) =
        fun offset => .ok (paginate (window.games merged (serverNow window)) offset size) := by
      funext offset
      unfold Lookups.releaseListing
      rw [hmerged, hnow]
      rfl
    have hfuel : (window.games merged (serverNow window)).length < merged.length + 1 + 0 := by
      omega
    obtain ⟨pages, hpages, hgames⟩ := follow_paginate (hshort.trans hlength) hsize hfuel (by omega)
    refine ⟨pages, hlisting ▸ hpages, ?_⟩
    rw [hgames, List.drop_zero]
    exact hperm window

/-- A card that is released later on the first day of the epoch. -/
def laterToday : Game :=
  { conceptToGame sampleConcept sampleProduct.toGameId 0 with date := "1970-01-01T20:00:00.000Z" }

/-- A game of the same day is in both server lists, and the client shows it in NEW alone. -/
theorem day_split_later_today :
    (splitByReleaseDay parseDateMs .new (Window.new.games [laterToday] 0) 86400000).Perm
        (splitByReleaseDay parseDateMs .new [laterToday] 86400000) ∧
      (splitByReleaseDay parseDateMs .upcoming (Window.upcoming.games [laterToday] 0) 86400000).Perm
        (splitByReleaseDay parseDateMs .upcoming [laterToday] 86400000) := by
  obtain ⟨hperm, -⟩ := @day_split parseDateMs [laterToday] (fun _ => 0) 0 86400000
    (fun _ _ => rfl) (fun _ => by decide) (by decide) (by decide)
  exact ⟨hperm .new, hperm .upcoming⟩

end Web

end PsStore
