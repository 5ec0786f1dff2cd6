import PsStore.Sources.Sony.SignIn

set_option relaxedAutoImplicit false
set_option autoImplicit false

/-!
# The redirect with the one-time code

`access_code` of `sources/sony/account/session.rs` with its query parser, against the parts of the
`Location`: the registered target, the query and the fragment. The prefix test accepts a longer name
after the target, and the first question mark may stand in the fragment.

## Main definitions

* `PointsTo`, `urlQuery` — the registered target, and the query of a URL.
* `KeepsTarget` — a code is taken only from the query of the registered target.
* `KeepsPairs` — the form encoding of pairs after the target gives their first code.
* `GivesCode` — the location points to the target and its query has a code.
* `ForeignCode`, `FragmentCode` — the locations that give a code against the parts of their URL.

## Main results

* `accessCode_isSome_iff_givesCode` — the locations that give a code, by the parts of their URL.
* `accessCode_iff` — the locations and the targets for which the code keeps to the parts of a URL.
-/

namespace PsStore

open FormUrlencoded (dropQuestion)

/-! ## The parts of the location -/

/-- The value of the first pair named `code`, where it is not empty. -/
def firstCode (pairs : List (String × String)) : Option String :=
  ((pairs.find? fun pair => pair.1 == "code").map Prod.snd).filter (· ≠ "")

/-- The code of a query. -/
def queryCode (query : List Char) : Option String := firstCode (parseUrlQuery (dropQuestion query))

/-- The location is the target, with nothing after it or with a path, a query or a fragment. -/
def PointsTo (redirectUri : String) (location : List Char) : Prop :=
  ∃ rest, location = redirectUri.toList ++ rest ∧ ∀ c ∈ rest.head?, c ∈ ['/', '?', '#']

/-- The query of a URL: what stands between the first question mark before the fragment and the
fragment. -/
def urlQuery (location : List Char) : Option (List Char) :=
  (splitOnce '?' (location.takeWhile (· ≠ '#'))).map Prod.snd

/-- A code is taken only from a location that points to the target and whose query has a code. -/
def KeepsTarget (redirectUri : String) (location : List Char) : Prop :=
  ∀ code, accessCode parseUrlQuery (some location) redirectUri = some code →
    PointsTo redirectUri location ∧
      ∃ query value, urlQuery location = some query ∧ queryCode query = some value

/-- The location of the target with the form encoding of pairs as its query. -/
def encodedLocation (redirectUri : String) (pairs : List (String × String)) : List Char :=
  redirectUri.toList ++ '/' :: '?' :: asciiText (FormUrlencoded.serialize pairs)

/-- The form encoding of pairs after the target gives the value of the first pair named `code`, or
nothing where there is none or it is empty. -/
def KeepsPairs (redirectUri : String) (pairs : List (String × String)) : Prop :=
  accessCode parseUrlQuery (some (encodedLocation redirectUri pairs)) redirectUri =
    (firstCode pairs).map fun code => { expose := code }

/-! ## The locations that go wrong -/

/-- What follows the first question mark has a code. -/
def HasCode (location : List Char) : Prop :=
  ∃ before query value, splitOnce '?' location = some (before, query) ∧
    queryCode query = some value

/-- The location continues the target with another character, and has a code. -/
def ForeignCode (redirectUri : String) (location : List Char) : Prop :=
  (∃ c rest, location = redirectUri.toList ++ c :: rest ∧ c ∉ ['/', '?', '#']) ∧ HasCode location

/-- The location starts with the target and has a code, but none before its fragment. -/
def FragmentCode (redirectUri : String) (location : List Char) : Prop :=
  redirectUri.toList <+: location ∧ HasCode location ∧
    ∃ before fragment, location = before ++ '#' :: fragment ∧ '#' ∉ before ∧ ¬ HasCode before

/-! ## The code of a location -/

/-- The code of a location with the target as a prefix is the code after its first question mark. -/
lemma accessCode_eq {redirectUri : String} {location : List Char}
    (h : redirectUri.toList <+: location) :
    accessCode parseUrlQuery (some location) redirectUri =
      (splitOnce '?' location).bind fun parts =>
        (queryCode parts.2).map fun code => { expose := code } := by
  unfold accessCode queryCode firstCode dropQuestion
  rw [Option.bind_eq_bind, Option.bind_some, if_pos h]
  cases splitOnce '?' location with
  | none => rfl
  | some parts =>
    obtain ⟨before, query⟩ := parts
    dsimp only [Option.bind_eq_bind, Option.bind_some]
    cases (parseUrlQuery (if query.head? = some '?' then query.tail else query)).find?
        fun pair => pair.1 == "code" with
    | none => rfl
    | some pair =>
      obtain ⟨name, code⟩ := pair
      by_cases hempty : code = ""
      · simp [hempty]
      · simp [hempty]

/-- **The code of a location** that starts with the target is the first code of what follows its
first question mark. -/
lemma accessCode_eq_some_iff {redirectUri : String} {location : List Char} {code : Secret} :
    accessCode parseUrlQuery (some location) redirectUri = some code ↔
      redirectUri.toList <+: location ∧ ∃ before query,
        splitOnce '?' location = some (before, query) ∧ queryCode query = some code.expose := by
  by_cases hstarts : redirectUri.toList <+: location
  · rw [accessCode_eq hstarts, and_iff_right hstarts]
    constructor
    · intro h
      obtain ⟨⟨before, query⟩, hsplit, hquery⟩ := Option.bind_eq_some_iff.mp h
      obtain ⟨value, hvalue, rfl⟩ := Option.map_eq_some_iff.mp hquery
      exact ⟨before, query, hsplit, hvalue⟩
    · intro h
      obtain ⟨before, query, hsplit, hvalue⟩ := h
      rw [hsplit, Option.bind_some, hvalue]
      rfl
  · refine iff_of_false ?_ fun h => hstarts h.1
    unfold accessCode
    rw [Option.bind_eq_bind, Option.bind_some, if_neg hstarts]
    nofun

/-- A code comes from a location that starts with the target and has a code. -/
lemma accessCode_isSome_iff (redirectUri : String) (location : List Char) :
    (∃ code, accessCode parseUrlQuery (some location) redirectUri = some code) ↔
      redirectUri.toList <+: location ∧ HasCode location := by
  simp only [accessCode_eq_some_iff]
  constructor
  · intro h
    obtain ⟨code, hstarts, before, query, hsplit, hvalue⟩ := h
    exact ⟨hstarts, before, query, code.expose, hsplit, hvalue⟩
  · intro h
    obtain ⟨hstarts, before, query, value, hsplit, hvalue⟩ := h
    exact ⟨{ expose := value }, hstarts, before, query, hsplit, hvalue⟩

/-- The query of a URL has a code where what stands before the fragment has one. -/
lemma urlQuery_iff (location : List Char) :
    (∃ query value, urlQuery location = some query ∧ queryCode query = some value) ↔
      HasCode (location.takeWhile (· ≠ '#')) := by
  unfold urlQuery HasCode
  constructor
  · intro h
    obtain ⟨query, value, hquery, hvalue⟩ := h
    obtain ⟨⟨before, query⟩, hsplit, rfl⟩ := Option.map_eq_some_iff.mp hquery
    exact ⟨before, query, value, hsplit, hvalue⟩
  · intro h
    obtain ⟨before, query, value, hsplit, hvalue⟩ := h
    refine ⟨query, value, ?_, hvalue⟩
    rw [hsplit]
    rfl

/-- The part before the fragment. -/
lemma takeWhile_fragment {before : List Char} (h : '#' ∉ before) (fragment : List Char) :
    (before ++ '#' :: fragment).takeWhile (· ≠ '#') = before := by
  have hbefore : ∀ c ∈ before, decide (c ≠ '#') = true := by
    intro c hc
    rw [decide_eq_true_eq]
    rintro rfl
    exact h hc
  rw [List.takeWhile_append_of_pos hbefore, List.takeWhile_cons_of_neg (by decide),
    List.append_nil]

/-- A location without a fragment, or the part before it. -/
lemma fragment_cases (location : List Char) :
    location.takeWhile (· ≠ '#') = location ∨
      ∃ before fragment, location = before ++ '#' :: fragment ∧ '#' ∉ before := by
  by_cases hmem : '#' ∈ location
  · obtain ⟨before, fragment, hlocation, hbefore⟩ := List.eq_append_cons_of_mem hmem
    exact Or.inr ⟨before, fragment, hlocation, hbefore⟩
  · refine Or.inl (List.takeWhile_eq_self_iff.mpr ?_)
    intro c hc
    rw [decide_eq_true_eq]
    rintro rfl
    exact hmem hc

/-- **The locations that keep to the target.**

**Proof sketch.** A code is found exactly where the location starts with the target and a code
stands behind its question mark (`accessCode_isSome_iff`). So keeping to the target fails in two
ways: the target goes on with another character, or the code is only in the fragment, behind which
the query of the URL ends. -/
lemma keepsTarget_iff (redirectUri : String) (location : List Char) :
    KeepsTarget redirectUri location ↔
      ¬ ForeignCode redirectUri location ∧ ¬ FragmentCode redirectUri location := by
  constructor
  · intro h
    constructor
    · rintro ⟨⟨c, rest, hlocation, hc⟩, hhas⟩
      have hstarts : redirectUri.toList <+: location := ⟨c :: rest, hlocation.symm⟩
      obtain ⟨code, hcode⟩ := (accessCode_isSome_iff redirectUri location).mpr ⟨hstarts, hhas⟩
      obtain ⟨⟨rest', hrest, hhead⟩, -⟩ := h code hcode
      rw [hlocation] at hrest
      obtain rfl := List.append_cancel_left hrest
      exact hc (hhead c rfl)
    · rintro ⟨hstarts, hhas, before, fragment, hlocation, hbefore, hnone⟩
      obtain ⟨code, hcode⟩ := (accessCode_isSome_iff redirectUri location).mpr ⟨hstarts, hhas⟩
      have hquery := (urlQuery_iff location).mp (h code hcode).2
      rw [hlocation, takeWhile_fragment hbefore] at hquery
      exact hnone hquery
  · intro h code hcode
    obtain ⟨hforeign, hfragment⟩ := h
    obtain ⟨hstarts, hhas⟩ := (accessCode_isSome_iff redirectUri location).mp ⟨code, hcode⟩
    constructor
    · obtain ⟨rest, hrest⟩ := hstarts
      refine ⟨rest, hrest.symm, ?_⟩
      intro c hc
      by_contra hother
      obtain ⟨tail, rfl⟩ := List.head?_eq_some_iff.mp hc
      exact hforeign ⟨⟨c, tail, hrest.symm, hother⟩, hhas⟩
    · rw [urlQuery_iff]
      rcases fragment_cases location with hself | ⟨before, fragment, hlocation, hbefore⟩
      · rw [hself]
        exact hhas
      · by_contra hnone
        rw [hlocation, takeWhile_fragment hbefore] at hnone
        exact hfragment ⟨hstarts, hhas, before, fragment, hlocation, hbefore, hnone⟩

/-! ## A code and a fragment behind it -/

/-- A first code stays a code where the pairs go on. -/
lemma firstCode_append {pairs : List (String × String)} {value : String}
    (h : firstCode pairs = some value) (more : List (String × String)) :
    firstCode (pairs ++ more) = some value := by
  unfold firstCode at h ⊢
  rw [List.find?_append]
  cases hfind : pairs.find? fun pair => pair.1 == "code" with
  | none =>
    rw [hfind] at h
    cases h
  | some pair =>
    rw [hfind] at h
    exact h

/-- A first code stays one, with another value perhaps, where a text with a hash is written behind
the query. -/
lemma exists_firstCode_append {input suffix : List UInt8} {value : String}
    (h : firstCode (FormUrlencoded.parse input) = some value) (hhash : 0x23 ∈ suffix)
    (hsuffix : (0x26 : UInt8) ∉ suffix) :
    ∃ value', firstCode (FormUrlencoded.parse (input ++ suffix)) = some value' := by
  obtain ⟨pairs, last, hself, hparse⟩ := FormUrlencoded.parse_append input
  rw [hparse suffix (List.ne_nil_of_mem hhash) hsuffix]
  rw [hself] at h
  unfold firstCode at h ⊢
  rw [List.find?_append] at h ⊢
  cases hfind : pairs.find? fun pair => pair.1 == "code" with
  | some pair =>
    rw [hfind] at h
    exact ⟨value, h⟩
  | none =>
    -- the code is the last pair, and its value grows
    rw [hfind, Option.none_or] at h
    rw [Option.none_or]
    obtain ⟨hvalue, hne⟩ := Option.filter_eq_some_iff.mp h
    obtain ⟨pair, hpair, rfl⟩ := Option.map_eq_some_iff.mp hvalue
    have hname : pair.1 = "code" := by simpa using List.find?_some hpair
    have hmem := List.mem_of_find?_eq_some hpair
    split_ifs at hmem with hlast
    · cases hmem
    · obtain rfl := List.mem_singleton.mp hmem
      obtain ⟨hsame, hnonempty⟩ := @FormUrlencoded.parsePiece_append_plain last suffix
        (by simpa using hne) 0x23 hhash (by decide) (by decide) (by decide) (by decide)
      refine ⟨(FormUrlencoded.parsePiece (last ++ suffix)).2, ?_⟩
      rw [List.find?_cons_of_pos (by simpa [hsame] using hname), Option.map_some]
      exact Option.filter_eq_some_iff.mpr ⟨rfl, by simpa using hnonempty⟩

/-- A query with a code has one with a fragment behind it. -/
lemma exists_queryCode_append {query : List Char} {value : String}
    (h : queryCode query = some value) (fragment : List Char) :
    ∃ value', queryCode (query ++ '#' :: fragment) = some value' := by
  have hbytes : toUtf8 ('#' :: fragment) = 0x23 :: toUtf8 fragment := rfl
  unfold queryCode parseUrlQuery at h ⊢
  rw [FormUrlencoded.dropQuestion_append (by decide), toUtf8_append, hbytes]
  generalize toUtf8 (dropQuestion query) = input at h ⊢
  by_cases hmem : (0x26 : UInt8) ∈ toUtf8 fragment
  · obtain ⟨front, back, hsplit, hfront⟩ := List.eq_append_cons_of_mem hmem
    obtain ⟨value', hvalue⟩ := @exists_firstCode_append input (0x23 :: front) value h
      List.mem_cons_self (by simpa using hfront)
    refine ⟨value', ?_⟩
    rw [hsplit, ← List.cons_append, ← List.append_assoc, FormUrlencoded.parse_append_ampersand]
    exact firstCode_append hvalue _
  · exact exists_firstCode_append h List.mem_cons_self (by simpa using hmem)

/-- A location whose part before the fragment has a code has one. -/
lemma hasCode_of_takeWhile {location : List Char} (h : HasCode (location.takeWhile (· ≠ '#'))) :
    HasCode location := by
  rcases fragment_cases location with hself | ⟨before, fragment, hlocation, hbefore⟩
  · rw [hself] at h
    exact h
  · rw [hlocation, takeWhile_fragment hbefore] at h
    obtain ⟨front, query, value, hsplit, hvalue⟩ := h
    obtain ⟨value', hvalue'⟩ := exists_queryCode_append hvalue fragment
    refine ⟨front, query ++ '#' :: fragment, value', ?_, hvalue'⟩
    obtain ⟨rfl, hfront⟩ := eq_of_splitOnce hsplit
    rw [hlocation, List.append_assoc, List.cons_append]
    exact splitOnce_append hfront _

/-- The location points to the target, and its query has a code. -/
def GivesCode (redirectUri : String) (location : List Char) : Prop :=
  PointsTo redirectUri location ∧
    ∃ query value, urlQuery location = some query ∧ queryCode query = some value

/-- **The locations that give a code**, by the parts of their URL, among those that keep to the
target. -/
theorem accessCode_isSome_iff_givesCode {redirectUri : String} {location : List Char}
    (hforeign : ¬ ForeignCode redirectUri location)
    (hfragment : ¬ FragmentCode redirectUri location) :
    (∃ code, accessCode parseUrlQuery (some location) redirectUri = some code) ↔
      GivesCode redirectUri location := by
  constructor
  · rintro ⟨code, hcode⟩
    exact (keepsTarget_iff redirectUri location).mpr ⟨hforeign, hfragment⟩ code hcode
  · rintro ⟨⟨rest, hrest, -⟩, hquery⟩
    rw [urlQuery_iff] at hquery
    exact (accessCode_isSome_iff redirectUri location).mpr
      ⟨⟨rest, hrest.symm⟩, hasCode_of_takeWhile hquery⟩

/-! ## The encoded pairs -/

/-- The form encoding of pairs has no question mark. -/
lemma question_not_mem_serialize (pairs : List (String × String)) :
    '?' ∉ asciiText (FormUrlencoded.serialize pairs) := by
  intro h
  obtain ⟨b, hb, hchar⟩ := List.mem_map.mp h
  obtain ⟨hascii, hne⟩ := FormUrlencoded.serialize_spec hb
  have hall : ∀ n ≤ 0x7f, Char.ofNat n = '?' → UInt8.ofNat n = 0x3f := by decide
  have hquestion := hall b.toNat hascii hchar
  rw [UInt8.ofNat_toNat] at hquestion
  exact hne hquestion

/-- The form encoding of pairs is read back. -/
lemma queryCode_serialize (pairs : List (String × String)) :
    queryCode (asciiText (FormUrlencoded.serialize pairs)) = firstCode pairs := by
  have hdrop : dropQuestion (asciiText (FormUrlencoded.serialize pairs)) =
      asciiText (FormUrlencoded.serialize pairs) := by
    refine if_neg fun hhead => ?_
    exact question_not_mem_serialize pairs (List.mem_of_head? hhead)
  unfold queryCode parseUrlQuery
  rw [hdrop, toUtf8_asciiText fun b hb => (FormUrlencoded.serialize_spec hb).1,
    FormUrlencoded.parse_serialize]

/-- The code of encoded pairs after a target without a question mark. -/
lemma keepsPairs_of_not_mem {redirectUri : String} (h : '?' ∉ redirectUri.toList)
    (pairs : List (String × String)) : KeepsPairs redirectUri pairs := by
  have hstarts : redirectUri.toList <+: encodedLocation redirectUri pairs := ⟨_, rfl⟩
  have hbefore : '?' ∉ redirectUri.toList ++ ['/'] := by
    rw [List.mem_append, List.mem_singleton]
    rintro (hmem | hmem)
    · exact h hmem
    · exact absurd hmem (by decide)
  have hsplit := splitOnce_append hbefore (asciiText (FormUrlencoded.serialize pairs))
  rw [List.append_assoc, List.singleton_append] at hsplit
  unfold KeepsPairs
  rw [accessCode_eq hstarts, encodedLocation, hsplit, Option.bind_some]
  dsimp only
  rw [queryCode_serialize]

/-! ## A target with a question mark -/

/-- A query with a slash and a value behind it does not give every value.

**Proof sketch.** The text behind the query becomes part of its last piece. If an earlier pair is
the code, it is the same one for both texts. Otherwise the last piece is the code, and its value has
the slash, which is in neither of the two values. -/
lemma queryCode_append_ne (query : List Char) :
    ¬ (queryCode (query ++ "/?code=0".toList) = some "0" ∧
      queryCode (query ++ "/?code=1".toList) = some "1") := by
  rintro ⟨hzero, hone⟩
  unfold queryCode parseUrlQuery at hzero hone
  obtain ⟨pairs, last, -, hparse⟩ := FormUrlencoded.parse_append (toUtf8 (dropQuestion query))
  have hread : ∀ tail : List Char, (0x26 : UInt8) ∉ toUtf8 ('/' :: tail) →
      FormUrlencoded.parse (toUtf8 (dropQuestion (query ++ '/' :: tail))) =
        pairs ++ [FormUrlencoded.parsePiece (last ++ toUtf8 ('/' :: tail))] := by
    intro tail hmem
    rw [FormUrlencoded.dropQuestion_append (by decide), toUtf8_append]
    exact hparse _ (by simp [toUtf8]) hmem
  rw [show "/?code=0".toList = '/' :: "?code=0".toList by decide, hread _ (by decide)] at hzero
  rw [show "/?code=1".toList = '/' :: "?code=1".toList by decide, hread _ (by decide)] at hone
  unfold firstCode at hzero hone
  rw [List.find?_append] at hzero hone
  cases hfind : pairs.find? fun pair => pair.1 == "code" with
  | some pair =>
    -- an earlier pair has the name, whatever the value behind it
    rw [hfind] at hzero hone
    rw [Option.some_or] at hzero hone
    rw [hzero] at hone
    exact absurd (Option.some.inj hone) (by decide)
  | none =>
    -- the last piece has a slash in its name or in its value
    rw [hfind, Option.none_or] at hzero
    obtain ⟨hvalue, -⟩ := Option.filter_eq_some_iff.mp hzero
    obtain ⟨pair, hpair, hcode⟩ := Option.map_eq_some_iff.mp hvalue
    have hname : pair.1 = "code" := by simpa using List.find?_some hpair
    have hmem := List.mem_singleton.mp (List.mem_of_find?_eq_some hpair)
    have hslash := @FormUrlencoded.slash_parsePiece (last ++ toUtf8 ('/' :: "?code=0".toList))
      (List.mem_append_right _ (by decide))
    rw [← hmem, hname, hcode] at hslash
    exact absurd hslash (by decide)

/-- A target with a question mark does not keep every list of pairs.

**Proof sketch.** The query of a location then begins inside the target, so what stands behind the
target is joined to the last pair of that query. If every list of pairs were kept, the codes 0 and 1
would both be read there, which `queryCode_append_ne` refutes. -/
lemma not_keepsPairs_of_mem {redirectUri : String} (h : '?' ∈ redirectUri.toList) :
    ∃ pairs, ¬ KeepsPairs redirectUri pairs := by
  obtain ⟨before, after, hsplit, hbefore⟩ := List.eq_append_cons_of_mem h
  by_contra hall
  rw [not_exists] at hall
  have hcode : ∀ value : String, value ≠ "" → queryCode (after ++ '/' :: '?' ::
      asciiText (FormUrlencoded.serialize [("code", value)])) = some value := by
    intro value hne
    have hkeeps := not_not.mp (hall [("code", value)])
    have hstarts : redirectUri.toList <+: encodedLocation redirectUri [("code", value)] := ⟨_, rfl⟩
    have hlocation : splitOnce '?' (encodedLocation redirectUri [("code", value)]) =
        some (before, after ++ '/' :: '?' ::
          asciiText (FormUrlencoded.serialize [("code", value)])) := by
      unfold encodedLocation
      rw [hsplit, List.append_assoc, List.cons_append]
      exact splitOnce_append hbefore _
    unfold KeepsPairs at hkeeps
    rw [accessCode_eq hstarts, hlocation, Option.bind_some] at hkeeps
    have hfirst : firstCode [("code", value)] = some value := by
      simp [firstCode, hne]
    rw [hfirst, Option.map_some] at hkeeps
    obtain ⟨code, hcode, hsecret⟩ := Option.map_eq_some_iff.mp hkeeps
    obtain rfl : code = value := Secret.mk.inj hsecret
    exact hcode
  apply queryCode_append_ne after
  constructor
  · exact hcode "0" (by decide)
  · exact hcode "1" (by decide)

/-! ## The locations and the targets that keep to the parts -/

/-- **When the code keeps to the parts of a URL.** A code of a location is a code of the query of
the registered target, where and only where the location does not continue the target with another
character before a code, and has no code that stands in the fragment or reaches into it. The code is
the first one of what follows the first question mark, so it is the first one of the query where
there is no fragment. Every list of pairs after the target gives its first code where and only where
the target has no question mark. -/
theorem accessCode_iff (redirectUri : String) :
    (∀ location, KeepsTarget redirectUri location ↔
      ¬ ForeignCode redirectUri location ∧ ¬ FragmentCode redirectUri location) ∧
    (∀ location code, accessCode parseUrlQuery (some location) redirectUri = some code →
      ∃ before query, splitOnce '?' location = some (before, query) ∧
        queryCode query = some code.expose) ∧
    ((∀ pairs, KeepsPairs redirectUri pairs) ↔ '?' ∉ redirectUri.toList) := by
  refine ⟨keepsTarget_iff redirectUri, fun location code h => (accessCode_eq_some_iff.mp h).2, ?_⟩
  constructor
  · intro h hmem
    obtain ⟨pairs, hpairs⟩ := not_keepsPairs_of_mem hmem
    exact hpairs (h pairs)
  · exact keepsPairs_of_not_mem

/-- A longer host name after the target gives a code. -/
theorem accessCode_fails :
    ¬ KeepsTarget "com.scee.psxandroid.scecompcall://redirect"
      "com.scee.psxandroid.scecompcall://redirect.example/?code=v3.synthetic".toList := by
  intro h
  have hcode : accessCode parseUrlQuery
      (some "com.scee.psxandroid.scecompcall://redirect.example/?code=v3.synthetic".toList)
      "com.scee.psxandroid.scecompcall://redirect" = some { expose := "v3.synthetic" } := by
    decide +kernel
  obtain ⟨⟨rest, hrest, hhead⟩, -⟩ := h _ hcode
  have hsplit : "com.scee.psxandroid.scecompcall://redirect.example/?code=v3.synthetic".toList =
      "com.scee.psxandroid.scecompcall://redirect".toList ++
        ".example/?code=v3.synthetic".toList := by decide
  rw [hsplit] at hrest
  obtain rfl := List.append_cancel_left hrest
  exact absurd (hhead '.' rfl) (by decide)

end PsStore
