import Mathlib.Algebra.BigOperators.Group.List.Basic
import PsStore.Application.Games
import PsStore.Lib.Paging

set_option relaxedAutoImplicit false
set_option autoImplicit false

/-!
# The raw paging of search and BROWSE

A request of search or BROWSE reads raw pages until one gives a game, and the client follows the
next offset from request to request. Together they read every raw page exactly once and in order,
up to the first one that Sony flags as the last.

## Main definitions

* `Lookups.searchReference`, `browseReference` — a raw page with its lookups one after the other.
* `rawRequest` — a request with the raw offsets that it reads.
* `StopsAtGames`, `ReadsPages` — what one request reads, and what following the requests reads.

## Main results

* `rawPages_spec` — the loop of one request.
* `readsPages_of_follow` — following the next offset, by induction on the requests.
* `Lookups.raw_paging` — both for search and for BROWSE.
-/

namespace PsStore

/-! ## Raw pages without concurrency -/

namespace Lookups

variable (u : Lookups)

/-- A raw search page with its candidates resolved one after the other. -/
def searchReference (term : String) (size rawOffset : ℕ) : Except UpstreamError RawPage :=
  (u.searchPage term rawOffset size).map fun found =>
    { games := (found.candidates.mapIdx
        (u.resolveSearchCandidate (u.clock (.searchPage rawOffset)))).reduceOption
      isLast := found.isLast }

/-- A raw BROWSE page with its concepts resolved one after the other. -/
def browseReference (genre : GenreKey) (order : BrowseOrder) (size rawOffset : ℕ) :
    Except UpstreamError RawPage :=
  (u.browsePage { genre, order, offset := rawOffset, size }).bind fun page =>
    browseRawPage page.isLast
      (page.concepts.map (u.resolveBrowseConcept (u.clock (.browsePage rawOffset))))

/-- The order in which the lookups of a search page end does not show. -/
lemma readSearchPage_eq (term : String) (size : ℕ) :
    u.readSearchPage term size = u.searchReference term size := by
  have hlimit : 1 ≤ searchDetailConcurrency := by decide
  funext rawOffset
  unfold readSearchPage searchReference searchPageGames
  cases u.searchPage term rawOffset size with
  | error e => rfl
  | ok found =>
    simp only [inOrderBounded_eq _ _ hlimit]
    rfl

/-- The order in which the lookups of a BROWSE page end does not show. -/
lemma readBrowseRawPage_eq (genre : GenreKey) (order : BrowseOrder) (size : ℕ) :
    u.readBrowseRawPage genre order size = u.browseReference genre order size := by
  have hlimit : 1 ≤ browseDetailConcurrency := by decide
  funext rawOffset
  unfold readBrowseRawPage browseReference browseResolutions
  simp only [inOrderBounded_eq _ _ hlimit]
  congr 1
  funext page
  congr 1
  refine List.ext_getElem? fun i => ?_
  simp

end Lookups

/-! ## One request -/

/-- The games of a raw page; none where it failed. -/
def gamesOf : Except UpstreamError RawPage → List Game
  | .ok page => page.games
  | .error _ => []

/-- Sony flags the raw page as the last. -/
def FlaggedLast (raw : Except UpstreamError RawPage) : Prop :=
  ∃ page, raw = .ok page ∧ page.isLast = true

/-- The raw offsets that a request reads, and its answer, where it does not fail. -/
def rawRequest (reads : List ℕ × Except UpstreamError PageResult) :
    Except UpstreamError (List ℕ × PageResult) :=
  reads.2.map fun answer => (reads.1, answer)

variable (raw : ℕ → Except UpstreamError RawPage) (size : ℕ)

/-- A request reads at most `bound` raw pages and stops at the first one that yields a game or is
the last. -/
structure StopsAtGames (bound : ℕ) (answer : List ℕ × PageResult) : Prop where
  /-- At most `bound` raw pages are read. -/
  length_le : answer.1.length ≤ bound
  /-- Every page before the last one read has no game and is not Sony's last; the answer has the
  games of the last one read, which yields a game or is Sony's last, or uses up the bound. -/
  stops : ∃ init last page, answer.1 = init ++ [last] ∧
    (∀ offset ∈ init, raw offset = .ok { games := [], isLast := false }) ∧
    raw last = .ok page ∧ answer.2.games = page.games ∧
    answer.2.totalCount = page.games.length ∧
    (page.games ≠ [] ∨ page.isLast = true ∨ answer.1.length = bound)

/-- What reading `count` raw pages from page `first` on gives, page after page: `next` is the
offset that is left to follow. -/
structure ReadsPages (bound first count : ℕ) (answers : List (List ℕ × PageResult))
    (next : Option ℕ) : Prop where
  /-- The raw offsets read are those of the pages, each exactly once and in order. -/
  reads : answers.flatMap Prod.fst = (List.range' first count).map (· * size)
  /-- The games of the answers are the games of the pages, in order. -/
  games : answers.flatMap (fun answer => answer.2.games) =
    (List.range' first count).flatMap fun k => gamesOf (raw (k * size))
  /-- No page before the last one read is Sony's last. -/
  inner : ∀ k, first ≤ k → k + 1 < first + count → ¬FlaggedLast (raw (k * size))
  /-- Where nothing is left to follow, the last page read is Sony's last. -/
  ended : next = none → 0 < count ∧ FlaggedLast (raw ((first + count - 1) * size))
  /-- What is left to follow is the offset of the next page, and no page read is Sony's last. -/
  continues : ∀ offset, next = some offset → offset = (first + count) * size ∧
    ∀ k, first ≤ k → k < first + count → ¬FlaggedLast (raw (k * size))
  /-- Every request stops at games. -/
  requests : ∀ answer ∈ answers, StopsAtGames raw bound answer

/-- No raw offset that the requests read is so large that the next one saturates. -/
def Unsaturated (answers : List (List ℕ × PageResult)) : Prop :=
  ∀ offset ∈ answers.flatMap Prod.fst, offset + size ≤ usizeMax

/-- What following the requests from offset 0 reads. -/
structure FollowsPages (bound fuel : ℕ) (answers : List (List ℕ × PageResult))
    (next : Option ℕ) : Prop where
  /-- The requests read the pages from page 0 on. -/
  reads : ∃ count, ReadsPages raw size bound 0 count answers next
  /-- No raw offset is read twice. -/
  once : (answers.flatMap Prod.fst).Nodup
  /-- Following ends where it can reach a page that Sony flags as the last. -/
  ends : ∀ last < fuel, FlaggedLast (raw (last * size)) → next = none

variable {raw size}

/-- Where a request has no games, no raw page that it read has one. -/
lemma StopsAtGames.empty {bound : ℕ} {answer : List ℕ × PageResult}
    (h : StopsAtGames raw bound answer) (hempty : answer.2.games = []) {offset : ℕ}
    (hoffset : offset ∈ answer.1) : ∃ page, raw offset = .ok page ∧ page.games = [] := by
  obtain ⟨init, last, page, hreads, hinit, hlast, hgames, -, -⟩ := h.stops
  rw [hreads, List.mem_append, List.mem_singleton] at hoffset
  rcases hoffset with hinner | rfl
  · exact ⟨_, hinit offset hinner, rfl⟩
  · exact ⟨page, hlast, hgames.symm.trans hempty⟩

/-- A page that is not saturated has the next page at the next offset. -/
lemma saturatingAdd_page {k : ℕ} (h : k * size + size ≤ usizeMax) :
    saturatingAdd (k * size) size = (k + 1) * size := by
  unfold saturatingAdd
  rw [Nat.succ_mul]
  omega

/-- A raw page that failed fails the request. -/
lemma rawPages_of_error {pagesLeft offset : ℕ} {e : UpstreamError} (h : raw offset = .error e) :
    rawPages raw size pagesLeft offset = ([offset], .error e) := by
  cases pagesLeft <;> rw [rawPages, h]

/-- A raw page that yields a game, is the last, or uses up the bound ends the request. -/
lemma rawPages_of_stop {pagesLeft offset : ℕ} {page : RawPage} (h : raw offset = .ok page)
    (hstop : page.games ≠ [] ∨ page.isLast = true ∨ pagesLeft = 0) :
    rawPages raw size pagesLeft offset = ([offset], .ok
      { games := page.games
        totalCount := page.games.length
        nextOffset := if page.isLast then none else some (saturatingAdd offset size) }) := by
  cases pagesLeft with
  | zero => rw [rawPages, h]
  | succ pagesLeft =>
    rw [rawPages, h]
    dsimp only
    rw [if_neg]
    rintro ⟨hgames, hlast⟩
    rcases hstop with hne | htrue | hzero
    · exact hne hgames
    · rw [hlast] at htrue
      cases htrue
    · cases hzero

/-- A raw page without games that is not the last hands over to the next one. -/
lemma rawPages_of_empty {pagesLeft offset : ℕ}
    (h : raw offset = .ok { games := [], isLast := false }) :
    rawPages raw size (pagesLeft + 1) offset =
      (offset :: (rawPages raw size pagesLeft (saturatingAdd offset size)).1,
        (rawPages raw size pagesLeft (saturatingAdd offset size)).2) := by
  rw [rawPages, h]
  rfl

/-- A page that does not end the loop has no games and is not the last. -/
lemma eq_of_not_stop {page : RawPage} (h : ¬(page.games ≠ [] ∨ page.isLast = true)) :
    page = { games := [], isLast := false } := by
  cases page
  simp_all

/-- The games of an answer are those of one raw page. -/
lemma exists_page_of_rawPages {pagesLeft offset : ℕ} {answer : PageResult}
    (h : (rawPages raw size pagesLeft offset).2 = .ok answer) :
    ∃ offset' page, raw offset' = .ok page ∧ answer.games = page.games := by
  induction pagesLeft generalizing offset with
  | zero =>
    cases hpage : raw offset with
    | error e =>
      rw [rawPages_of_error hpage] at h
      cases h
    | ok page =>
      rw [rawPages_of_stop hpage (Or.inr (Or.inr rfl))] at h
      cases h
      exact ⟨offset, page, hpage, rfl⟩
  | succ pagesLeft ih =>
    cases hpage : raw offset with
    | error e =>
      rw [rawPages_of_error hpage] at h
      cases h
    | ok page =>
      by_cases hstop : page.games ≠ [] ∨ page.isLast = true
      · rw [rawPages_of_stop hpage (hstop.imp_right Or.inl)] at h
        cases h
        exact ⟨offset, page, hpage, rfl⟩
      · obtain rfl := eq_of_not_stop hstop
        rw [rawPages_of_empty hpage] at h
        exact ih h

/-- **The loop of one request**, at the offset of page `first`: it reads pages without games that
are not the last, and then one that yields a game, is the last, or uses up the bound.

**Proof sketch.** Induction on the pages left. A page that ends the loop is the only one read; a
page without games that is not the last hands over to the page after it. -/
theorem rawPages_spec {pagesLeft first : ℕ} {reads : List ℕ} {answer : PageResult}
    (h : rawPages raw size pagesLeft (first * size) = (reads, .ok answer))
    (hsat : ∀ offset ∈ reads, offset + size ≤ usizeMax) :
    ∃ m page, m ≤ pagesLeft ∧ reads = (List.range' first (m + 1)).map (· * size) ∧
      (∀ k, first ≤ k → k < first + m → raw (k * size) = .ok { games := [], isLast := false }) ∧
      raw ((first + m) * size) = .ok page ∧
      answer =
        { games := page.games
          totalCount := page.games.length
          nextOffset := if page.isLast then none else some ((first + m + 1) * size) } ∧
      (page.games ≠ [] ∨ page.isLast = true ∨ m = pagesLeft) := by
  induction pagesLeft generalizing first reads answer with
  | zero =>
    cases hpage : raw (first * size) with
    | error e =>
      rw [rawPages_of_error hpage] at h
      cases h
    | ok page =>
      rw [rawPages_of_stop hpage (Or.inr (Or.inr rfl))] at h
      cases h
      rw [saturatingAdd_page (hsat _ List.mem_cons_self)]
      refine ⟨0, page, le_rfl, rfl, fun k hk hlt => ?_, hpage, rfl, Or.inr (Or.inr rfl)⟩
      omega
  | succ pagesLeft ih =>
    cases hpage : raw (first * size) with
    | error e =>
      rw [rawPages_of_error hpage] at h
      cases h
    | ok page =>
      by_cases hstop : page.games ≠ [] ∨ page.isLast = true
      · rw [rawPages_of_stop hpage (hstop.imp_right Or.inl)] at h
        cases h
        rw [saturatingAdd_page (hsat _ List.mem_cons_self)]
        refine ⟨0, page, by omega, rfl, fun k hk hlt => ?_, hpage, rfl, hstop.imp_right Or.inl⟩
        omega
      · -- an empty page that is not the last: the loop goes on at the next offset
        obtain rfl := eq_of_not_stop hstop
        rw [rawPages_of_empty hpage] at h
        cases hrest : rawPages raw size pagesLeft (saturatingAdd (first * size) size) with
        | mk rest result =>
        rw [hrest] at h
        cases h
        rw [saturatingAdd_page (hsat _ List.mem_cons_self)] at hrest
        obtain ⟨m, page, hm, rfl, hinner, hpage', rfl, hstop'⟩ :=
          ih hrest fun offset hoffset => hsat offset (List.mem_cons_of_mem _ hoffset)
        have hfirst : first + 1 + m = first + (m + 1) := by omega
        rw [hfirst] at hpage'
        refine ⟨m + 1, page, by omega, rfl, ?_, hpage', by rw [hfirst], ?_⟩
        · intro k hk hlt
          by_cases heq : k = first
          · rw [heq, hpage]
          · exact hinner k (by omega) (by omega)
        · rcases hstop' with hgames | hlast | rfl
          · exact Or.inl hgames
          · exact Or.inr (Or.inl hlast)
          · exact Or.inr (Or.inr rfl)

/-! ## Following the requests -/

/-- What one request reads.

**Proof sketch.** The loop of a request reads pages without games until one has games, is the last
one or is the third (`rawPages_spec`). Its answer has the games of the last page it read, which are
those of all pages it read, and names the offset behind that page unless it is flagged as the last
one. -/
lemma readsPages_of_request {pagesLeft first : ℕ} {answer : List ℕ × PageResult}
    (h : rawRequest (rawPages raw size pagesLeft (first * size)) = .ok answer)
    (hsat : ∀ offset ∈ answer.1, offset + size ≤ usizeMax) :
    ∃ count, ReadsPages raw size (pagesLeft + 1) first count [answer] answer.2.nextOffset := by
  cases hloop : rawPages raw size pagesLeft (first * size) with
  | mk reads result =>
  rw [hloop] at h
  cases result with
  | error e => cases h
  | ok answer =>
  cases h
  obtain ⟨m, page, hm, rfl, hinner, hpage, rfl, hstop⟩ := rawPages_spec hloop hsat
  have hnotLast : ∀ k, first ≤ k → k < first + m → ¬FlaggedLast (raw (k * size)) := by
    rintro k hk hlt ⟨page', hpage', hlast⟩
    rw [hinner k hk hlt] at hpage'
    cases hpage'
    cases hlast
  have hlastIndex : first + (m + 1) - 1 = first + m := by omega
  refine ⟨m + 1, ?_⟩
  constructor
  case reads => simp
  case games =>
    have hempty : (List.range' first m).flatMap (fun k => gamesOf (raw (k * size))) = [] := by
      rw [List.flatMap_eq_nil_iff]
      intro k hk
      obtain ⟨i, hi, rfl⟩ := List.mem_range'.mp hk
      rw [hinner _ (by omega) (by omega)]
      rfl
    rw [List.range'_concat, List.flatMap_append, hempty]
    simp [hpage, gamesOf]
  case inner =>
    intro k hk hlt
    exact hnotLast k hk (by omega)
  case ended =>
    intro hnone
    rw [hlastIndex]
    refine ⟨by omega, page, hpage, ?_⟩
    by_contra hlast
    rw [if_neg hlast] at hnone
    cases hnone
  case continues =>
    intro offset hsome
    dsimp only at hsome
    split_ifs at hsome with hlast
    cases hsome
    refine ⟨rfl, fun k hk hlt => ?_⟩
    by_cases heq : k = first + m
    · intro h
      obtain ⟨page', hpage', hlast'⟩ := h
      rw [heq, hpage] at hpage'
      cases hpage'
      exact hlast hlast'
    · exact hnotLast k hk (by omega)
  case requests =>
    intro answer hanswer
    obtain rfl := List.mem_singleton.mp hanswer
    refine ⟨by simpa using hm, (List.range' first m).map (· * size), (first + m) * size, page,
      ?_, ?_, hpage, rfl, rfl, ?_⟩
    · rw [List.range'_concat, List.map_append]
      simp
    · intro offset hoffset
      obtain ⟨k, hk, rfl⟩ := List.mem_map.mp hoffset
      obtain ⟨i, hi, rfl⟩ := List.mem_range'.mp hk
      exact hinner _ (by omega) (by omega)
    · rcases hstop with hgames | hlast | rfl
      · exact Or.inl hgames
      · exact Or.inr (Or.inl hlast)
      · exact Or.inr (Or.inr (by simp))

/-- Reading pages and then the pages after them reads all of them.

**Proof sketch.** The pages of the first part are open, since it names a next offset, and the second
part starts at this offset. So the ranges of the two parts join, and what ends the second ends both.
-/
lemma ReadsPages.append {bound first count count' : ℕ}
    {answers answers' : List (List ℕ × PageResult)} {offset : ℕ} {next : Option ℕ}
    (h : ReadsPages raw size bound first count answers (some offset))
    (h' : ReadsPages raw size bound (first + count) count' answers' next) :
    ReadsPages raw size bound first (count + count') (answers ++ answers') next := by
  obtain ⟨-, hopen⟩ := h.continues offset rfl
  have hsum : first + (count + count') = first + count + count' := by omega
  constructor
  case reads =>
    rw [List.flatMap_append, h.reads, h'.reads, ← List.range'_append_1, List.map_append]
  case games =>
    rw [List.flatMap_append, h.games, h'.games, ← List.range'_append_1, List.flatMap_append]
  case inner =>
    intro k hk hlt
    by_cases hin : k < first + count
    · exact hopen k hk hin
    · exact h'.inner k (by omega) (by omega)
  case ended =>
    intro hnone
    obtain ⟨hpos, hlast⟩ := h'.ended hnone
    rw [hsum]
    exact ⟨by omega, hlast⟩
  case continues =>
    intro offset' hsome
    obtain ⟨rfl, hopen'⟩ := h'.continues offset' hsome
    refine ⟨by rw [hsum], fun k hk hlt => ?_⟩
    by_cases hin : k < first + count
    · exact hopen k hk hin
    · exact hopen' k (by omega) (by omega)
  case requests =>
    intro answer hanswer
    rcases List.mem_append.mp hanswer with hleft | hright
    · exact h.requests answer hleft
    · exact h'.requests answer hright

/-- **Following the requests.** From the offset of page `first`, as long as no request fails, the
requests read the pages from `first` on, one after the other.

**Proof sketch.** Induction on the requests: the next offset of a request is that of the page
after its last one, where the next request starts. -/
theorem readsPages_of_follow {request : ℕ → Except UpstreamError (List ℕ × PageResult)}
    {pagesLeft : ℕ}
    (hrequest : ∀ offset, request offset = rawRequest (rawPages raw size pagesLeft offset))
    {fuel first : ℕ} {answers : List (List ℕ × PageResult)} {next : Option ℕ}
    (h : follow request (fun answer => answer.2.nextOffset) fuel (first * size) =
      .ok (answers, next))
    (hsat : Unsaturated size answers) :
    ∃ count, ReadsPages raw size (pagesLeft + 1) first count answers next := by
  induction fuel generalizing first answers with
  | zero =>
    cases h
    refine ⟨0, rfl, rfl, fun k hk hlt => ?_, fun hnone => ?_, fun offset hsome => ?_, ?_⟩
    · omega
    · cases hnone
    · cases hsome
      exact ⟨rfl, fun k hk hlt => by omega⟩
    · simp
  | succ fuel ih =>
    obtain ⟨answer, hanswer, ⟨hnext, rfl, rfl⟩ | ⟨offset, rest, hnext, rfl, hrest⟩⟩ :=
      follow_succ_eq_ok_iff.mp h
    · rw [hrequest] at hanswer
      obtain ⟨count, hreads⟩ := readsPages_of_request hanswer (by simpa [Unsaturated] using hsat)
      rw [hnext] at hreads
      exact ⟨count, hreads⟩
    · rw [hrequest] at hanswer
      rw [Unsaturated, List.flatMap_cons] at hsat
      obtain ⟨count, hreads⟩ := readsPages_of_request hanswer fun o ho =>
        hsat o (List.mem_append_left _ ho)
      rw [hnext] at hreads
      -- the next request starts at the page after the last one read
      obtain ⟨rfl, -⟩ := hreads.continues offset rfl
      obtain ⟨count', hreads'⟩ := ih hrest fun o ho => hsat o (List.mem_append_right _ ho)
      exact ⟨count + count', hreads.append hreads'⟩

/-- Every request reads a page, so following ends at the first page that Sony flags as the last. -/
lemma ReadsPages.ends {bound count : ℕ} {answers : List (List ℕ × PageResult)} {next : Option ℕ}
    (h : ReadsPages raw size bound 0 count answers next) {last : ℕ}
    (hlast : FlaggedLast (raw (last * size))) (hlength : next ≠ none → last < answers.length) :
    next = none := by
  by_contra hnext
  obtain ⟨offset, hoffset⟩ := Option.ne_none_iff_exists'.mp hnext
  have hcount : answers.length ≤ count := by
    have hreads : (answers.flatMap Prod.fst).length = count := by
      rw [h.reads]
      simp
    have hone : ∀ n ∈ answers.map fun answer => answer.1.length, 1 ≤ n := by
      intro n hn
      obtain ⟨answer, hanswer, rfl⟩ := List.mem_map.mp hn
      obtain ⟨init, final, page, hinit, -⟩ := (h.requests answer hanswer).stops
      rw [hinit]
      simp
    rw [← hreads, List.length_flatMap]
    simpa using List.length_le_sum_of_one_le _ hone
  have hread : last < answers.length := hlength hnext
  exact (h.continues offset hoffset).2 last (by omega) (by omega) hlast

/-- **Following the requests from offset 0.** -/
lemma followsPages_of_follow {request : ℕ → Except UpstreamError (List ℕ × PageResult)}
    {pagesLeft : ℕ} (hsize : 1 ≤ size)
    (hrequest : ∀ offset, request offset = rawRequest (rawPages raw size pagesLeft offset))
    {fuel : ℕ} {answers : List (List ℕ × PageResult)} {next : Option ℕ}
    (h : follow request (fun answer => answer.2.nextOffset) fuel 0 = .ok (answers, next))
    (hsat : Unsaturated size answers) :
    FollowsPages raw size (pagesLeft + 1) fuel answers next := by
  have hzero : 0 * size = 0 := Nat.zero_mul size
  obtain ⟨count, hreads⟩ := readsPages_of_follow hrequest (hzero.symm ▸ h) hsat
  refine ⟨⟨count, hreads⟩, ?_, ?_⟩
  · rw [hreads.reads]
    refine List.Nodup.map ?_ List.nodup_range'
    intro i j hij
    exact Nat.eq_of_mul_eq_mul_right hsize hij
  · intro last hlt hlast
    refine hreads.ends hlast fun hnext => ?_
    obtain ⟨offset, rfl⟩ := Option.ne_none_iff_exists'.mp hnext
    rw [length_of_follow h]
    exact hlt

namespace Lookups

variable (u : Lookups)

/-! ## Search and BROWSE -/

/-- A search request with the raw offsets that it reads. -/
def searchRequest (term : String) (size offset : ℕ) : Except UpstreamError (List ℕ × PageResult) :=
  rawRequest (u.searchReads term { offset, size })

/-- A BROWSE request with the raw offsets that it reads. -/
def browseRequest (genre : GenreKey) (order : BrowseOrder) (size offset : ℕ) :
    Except UpstreamError (List ℕ × PageResult) :=
  rawRequest (u.browseReads { genre, order, offset, size })

/-- A card of BROWSE is that of a product whose detail proves a PS5 game. -/
lemma exists_of_mem_browseGames {genre : GenreKey} {order : BrowseOrder} {page : Page}
    {result : PageResult} (h : u.browseGames genre order page = .ok result) {card : Game}
    (hcard : card ∈ result.games) :
    ∃ offset concept p detail, u.strictDetail p = .ok detail ∧
      isPs5Game detail.platforms detail.storeDisplayClassification = true ∧
      browseConceptToGame concept p (detail.releaseDate.getD "") detail.genres
        (u.clock (.browsePage offset)) = card := by
  obtain ⟨offset, raw, hraw, hgames⟩ := exists_page_of_rawPages h
  rw [readBrowseRawPage_eq, browseReference] at hraw
  obtain ⟨grid, -, hpage⟩ := bind_eq_ok hraw
  rw [hgames, (browseRawPage_eq_ok hpage).1] at hcard
  obtain ⟨resolution, hmem, hgame⟩ :=
    List.mem_filterMap.mp ((firstWins_sublist _ _).subset hcard)
  obtain ⟨concept, -, rfl⟩ := List.mem_map.mp hmem
  have hresolved : u.resolveBrowseConcept (u.clock (.browsePage offset)) concept = .game card := by
    cases hresolution : u.resolveBrowseConcept (u.clock (.browsePage offset)) concept with
    | dropped =>
      rw [hresolution] at hgame
      cases hgame
    | failed =>
      rw [hresolution] at hgame
      cases hgame
    | game found =>
      rw [hresolution] at hgame
      rw [Option.some.inj hgame]
  exact ⟨offset, concept, exists_of_resolveCandidates_eq_game hresolved⟩

/-- A concept is dropped only where the lookups of all its candidates succeeded. -/
lemma ok_of_resolveCandidates_eq_dropped {concept : Concept} {nowMs : ℤ} {ids : List ProductId}
    (h : u.resolveCandidates concept nowMs ids = .dropped) {p : ProductId} (hp : p ∈ ids) :
    ∃ detail, u.strictDetail p = .ok detail := by
  induction ids with
  | nil => cases hp
  | cons id ids ih =>
    rw [resolveCandidates] at h
    cases hdetail : u.strictDetail id with
    | error e =>
      rw [hdetail] at h
      cases h
    | ok detail =>
      rw [hdetail] at h
      dsimp only at h
      split_ifs at h
      rcases List.mem_cons.mp hp with rfl | hp
      · exact ⟨detail, hdetail⟩
      · exact ih h hp

/-- **No outage reads as an empty genre.** A raw BROWSE page is read without games only where no
product lookup of it failed.

**Proof sketch.** The page has no games and did not fail, so every concept of it was dropped
(`browseRawPage_eq_ok`): none gave a game and none failed. A dropped concept had every one of its
lookups answered (`ok_of_resolveCandidates_eq_dropped`). -/
lemma ok_of_browseReference_empty {genre : GenreKey} {order : BrowseOrder} {size offset : ℕ}
    {raw : RawPage} (h : u.browseReference genre order size offset = .ok raw)
    (hempty : raw.games = []) {page : BrowsePage}
    (hpage : u.browsePage { genre, order, offset, size } = .ok page) {concept : Concept}
    (hconcept : concept ∈ page.concepts) {p : ProductId} (hp : p ∈ browseCandidateIds concept) :
    ∃ detail, u.strictDetail p = .ok detail := by
  set resolve := u.resolveBrowseConcept (u.clock (.browsePage offset))
  have hraw : browseRawPage page.isLast (page.concepts.map resolve) = .ok raw := by
    rw [← h, browseReference, hpage]
    rfl
  -- no concept gave a game, and none failed
  obtain ⟨hkept, -, hnone⟩ := browseRawPage_eq_ok hraw
  have hgames := (firstWins_eq_nil_iff Game.id).mp (hkept ▸ hempty)
  have hmem : resolve concept ∈ page.concepts.map resolve := List.mem_map_of_mem hconcept
  have hdropped : resolve concept = .dropped := by
    cases hresolved : resolve concept with
    | dropped => rfl
    | failed =>
      rw [hresolved] at hmem
      exact absurd hmem (hnone hempty)
    | game card =>
      rw [hresolved] at hmem
      have hnot := List.filterMap_eq_nil_iff.mp hgames _ hmem
      cases hnot
  exact u.ok_of_resolveCandidates_eq_dropped hdropped hp

/-- **Raw paging of search and BROWSE.** For any fixed upstream paging and product details and every
size, following the next offset from offset 0, as long as no request fails and no offset
saturates, reads the raw pages at offsets `0`, `size`, `2 * size`, … each exactly once and in order
and ends exactly at the first page that Sony flags as the last. The games of the answers are those
of the raw pages in order, and every request stops at the first page that yields a game or is the
last, after three pages at most. A BROWSE answer has no games only where no product lookup failed
on any raw page that its request read.

**Proof sketch.** Search and BROWSE are instances of one loop over raw pages.
`followsPages_of_follow` is by induction on the requests: the offset of a request is the one that
the request before it names, so the raw pages follow each other, and each request is a loop of at
most three pages that stops at the first page with a game or a flag. -/
theorem raw_paging {size : ℕ} (hsize : 1 ≤ size) (fuel : ℕ) :
    (∀ term answers next,
      follow (u.searchRequest term size) (fun answer => answer.2.nextOffset) fuel 0 =
        .ok (answers, next) →
      Unsaturated size answers →
      FollowsPages (u.searchReference term size) size 3 fuel answers next) ∧
    ∀ genre order answers next,
      follow (u.browseRequest genre order size) (fun answer => answer.2.nextOffset) fuel 0 =
        .ok (answers, next) →
      Unsaturated size answers →
      FollowsPages (u.browseReference genre order size) size 3 fuel answers next ∧
      ∀ answer ∈ answers, answer.2.games = [] → ∀ offset ∈ answer.1,
        ∀ page, u.browsePage { genre, order, offset, size } = .ok page →
          ∀ concept ∈ page.concepts, ∀ p ∈ browseCandidateIds concept,
            ∃ detail, u.strictDetail p = .ok detail := by
  constructor
  · intro term answers next hfollow hsat
    refine followsPages_of_follow hsize (fun offset => ?_) hfollow hsat
    unfold searchRequest searchReads
    rw [readSearchPage_eq]
    rfl
  · intro genre order answers next hfollow hsat
    have hpages : FollowsPages (u.browseReference genre order size) size 3 fuel answers next := by
      refine followsPages_of_follow hsize (fun offset => ?_) hfollow hsat
      unfold browseRequest browseReads
      rw [readBrowseRawPage_eq]
      rfl
    refine ⟨hpages, fun answer hanswer hempty offset hoffset page hpage concept hconcept p hp => ?_⟩
    obtain ⟨count, hreads⟩ := hpages.reads
    obtain ⟨raw, hraw, hgames⟩ := (hreads.requests answer hanswer).empty hempty hoffset
    exact u.ok_of_browseReference_empty hraw hgames hpage hconcept hp

/-- Two raw search pages without games, the second one the last: one request reads both. -/
theorem raw_paging_two_pages :
    FollowsPages (Lookups.searchReference (Catalog.lookups { Catalog.empty with
        searchPage := fun _ offset _ =>
          .ok { candidates := [], isLast := offset == 2, rawCount := 0 } }) "a" 2)
      2 3 1 [([0, 2], { games := [], totalCount := 0, nextOffset := none })] none := by
  refine (raw_paging _ (by decide) 1).1 "a" _ none rfl ?_
  intro offset hoffset
  rcases List.mem_cons.mp hoffset with rfl | hoffset
  · decide
  · rcases List.mem_singleton.mp hoffset with rfl
    decide

end Lookups

end PsStore
