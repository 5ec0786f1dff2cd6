import PsStore.Http.Problem
import PsStore.Lib.Trim
import PsStore.Sources.Sony.SignIn

set_option relaxedAutoImplicit false
set_option autoImplicit false

/-!
# The sign-in cookie and the way of the NPSSO through it

`sign_in` of `http/session.rs` writes the NPSSO into a `Set-Cookie` header, the browser sends it
back among its other cookies, and `npsso_from_cookie` reads it. A `Cookie` header is a list of
bytes; a header with a byte outside visible ASCII is skipped as a whole, with the NPSSO in it.

## Main definitions

* `npssoFromCookie` — the NPSSO of a request.
* `expireCookieOnRejection` — clears the cookie where the answer is a 401.
* `isValidNpsso`, `signInCookie` — what sign-in accepts, and the cookie that it sets.
* `cookiePairs`, `IsSessionPair`, `HasOtherName` — the pairs of a `Cookie` header.
* `Carries` — the headers hold the pair of sign-in and otherwise pairs with other names.
* `CarriesSession` — the first pair with the name of the session cookie has a value.
* `SetCookieIntact` — the value stays inside the first pair of the `Set-Cookie` header.

## Main results

* `npssoFromCookie_isSome_iff` — the requests with an NPSSO.
* `setCookieIntact` — an accepted value adds no attribute.
* `session_round_trip_iff` — when the NPSSO comes back.
-/

namespace PsStore

/-! ## The cookie -/

/-- The cookie name. -/
def npssoCookieName : List Char := "npsso".toList

/-- The header that clears the cookie. -/
def expiredCookie : String :=
  "npsso=; Max-Age=0; Path=/api; Expires=Thu, 01 Jan 1970 00:00:00 GMT; " ++
    "HttpOnly; Secure; SameSite=Strict"

/-- The NPSSO of the first `npsso` cookie among the `Cookie` headers of a request, or `none` when
the cookie is missing or empty. -/
def npssoFromCookie (headers : List (List UInt8)) : Option Secret := do
  let texts := (headers.filterMap headerText).flatMap (List.splitOn ';')
  let pairs := texts.filterMap fun pair => splitOnce '=' (trimText pair)
  let (_, value) ← pairs.find? fun pair => trimText pair.1 == npssoCookieName
  let value := trimText value
  if value = [] then none else some { expose := String.ofList value }

/-- Adds the clearing header to a 401 answer. -/
def expireCookieOnRejection {α : Type} (response : Response α) : Response α :=
  if response.status = 401 then
    { response with setCookie := response.setCookie ++ [expiredCookie] }
  else response

/-! ## What sign-in sets -/

/-- The characters that a cookie holds verbatim. -/
def isCookieSafe (c : Char) : Bool := c.isAlphanum || c ∈ ['.', '_', '~', '-']

/-- True for an NPSSO of 16 to 512 cookie-safe characters. The source counts bytes; a text that
passes the second check has one byte for each character. -/
def isValidNpsso (value : String) : Bool :=
  decide (16 ≤ value.toList.length) && decide (value.toList.length ≤ 512) &&
    value.toList.all isCookieSafe

/-- The cookie of an accepted NPSSO. -/
def signInCookie (npsso : Secret) : String :=
  String.ofList npssoCookieName ++ "=" ++ npsso.expose ++
    "; Max-Age=2592000; Path=/api; HttpOnly; Secure; SameSite=Strict"

/-- `HeaderValue::from_str`: the bytes of a text of visible ASCII characters and tabs. -/
def headerValueFromStr (text : String) : Option (List UInt8) :=
  if text.toList.all fun c => (decide (32 ≤ c.toNat) && decide (c.toNat < 127)) || c == '\t' then
    some (text.toList.map fun c => c.toNat.toUInt8)
  else none

/-! ## What the browser sends -/

/-- The pairs of a `Cookie` header, with each byte as the character of its code. -/
def cookiePairs (header : List UInt8) : List (List Char) :=
  (header.map fun b => Char.ofNat b.toNat).splitOn ';'

/-- The pair that sign-in set, with blanks around it. -/
def IsSessionPair (npsso : String) (pair : List Char) : Prop :=
  trimText pair = npssoCookieName ++ '=' :: npsso.toList

/-- The pair has another name than the session cookie, or none. -/
def HasOtherName (pair : List Char) : Prop :=
  ∀ name value, splitOnce '=' (trimText pair) = some (name, value) →
    trimText name ≠ npssoCookieName

/-- The headers hold the pair of sign-in and otherwise pairs with other names. -/
def Carries (npsso : String) (headers : List (List UInt8)) : Prop :=
  (∃ header ∈ headers, ∃ pair ∈ cookiePairs header, IsSessionPair npsso pair) ∧
    ∀ header ∈ headers, ∀ pair ∈ cookiePairs header, IsSessionPair npsso pair ∨ HasOtherName pair

/-! ## The session of a request -/

/-- The pair is named like the session cookie. -/
def isNamedSession (pair : List Char) : Bool :=
  (splitOnce '=' (trimText pair)).any fun parts => trimText parts.1 == npssoCookieName

/-- The request carries a session cookie: the first pair with its name, over all headers, has a
value. -/
def CarriesSession (headers : List (List UInt8)) : Prop :=
  ∃ pair name value, (headers.flatMap cookiePairs).find? isNamedSession = some pair ∧
    splitOnce '=' (trimText pair) = some (name, value) ∧ trimText value ≠ []

/-- A header with a byte that is no visible ASCII holds no session cookie. -/
def PlainSession (headers : List (List UInt8)) : Prop :=
  ∀ header ∈ headers, header.all isVisibleAscii = false →
    ∀ pair ∈ cookiePairs header, isNamedSession pair = false

/-- The headers that are skipped hold no pair that is searched for. -/
lemma find?_texts {headers : List (List UInt8)} (h : PlainSession headers) :
    ((headers.filterMap headerText).flatMap (List.splitOn ';')).find? isNamedSession =
      (headers.flatMap cookiePairs).find? isNamedSession := by
  induction headers with
  | nil => rfl
  | cons header headers ih =>
    obtain ⟨hheader, hrest⟩ := List.forall_mem_cons.mp h
    rw [List.flatMap_cons, List.find?_append, ← ih hrest]
    by_cases hvisible : header.all isVisibleAscii = true
    · have htext : headerText header = some (header.map fun b => Char.ofNat b.toNat) :=
        if_pos hvisible
      rw [List.filterMap_cons_some htext, List.flatMap_cons, List.find?_append]
      rfl
    · have htext : headerText header = none := if_neg hvisible
      have hnone : (cookiePairs header).find? isNamedSession = none := by
        rw [List.find?_eq_none]
        intro pair hpair
        rw [hheader (by simpa using hvisible) pair hpair]
        exact Bool.false_ne_true
      rw [List.filterMap_cons_none htext, hnone, Option.none_or]

/-- **The cookie that is read.** A request has an NPSSO exactly where it carries a session cookie,
if no header with other bytes holds one.

**Proof sketch.** The search of the code runs over the parts of the pairs, so it is the search for
the first pair with the name (`List.find?_filterMap`). The headers that the code skips hold no such
pair (`find?_texts`). -/
theorem npssoFromCookie_isSome_iff {headers : List (List UInt8)} (h : PlainSession headers) :
    (npssoFromCookie headers).isSome = true ↔ CarriesSession headers := by
  unfold npssoFromCookie CarriesSession
  rw [← find?_texts h]
  dsimp only
  rw [List.find?_filterMap]
  show (Option.isSome (Option.bind (Option.bind (List.find? isNamedSession _) _) _)) = true ↔ _
  cases hfind : ((headers.filterMap headerText).flatMap (List.splitOn ';')).find?
      isNamedSession with
  | none => simp
  | some pair =>
    have hnamed : isNamedSession pair = true := List.find?_some hfind
    unfold isNamedSession at hnamed
    obtain ⟨⟨name, value⟩, hsplit, -⟩ := (Option.any_eq_true _ _).mp hnamed
    rw [Option.bind_some, hsplit, Option.bind_some]
    dsimp only
    constructor
    · intro hsome
      split_ifs at hsome with hempty
      · cases hsome
      · exact ⟨pair, name, value, rfl, hsplit, hempty⟩
    · rintro ⟨pair', name', value', ⟨⟩, hsplit', hne⟩
      rw [hsplit] at hsplit'
      obtain ⟨rfl, rfl⟩ := Prod.mk.inj (Option.some.inj hsplit')
      rw [if_neg hne]
      rfl

/-! ## The value in the Set-Cookie header -/

/-- The `Set-Cookie` value is a valid header, its first pair is the NPSSO, and the pairs after it do
not depend on the NPSSO. -/
def SetCookieIntact (npsso : String) : Prop :=
  (headerValueFromStr (signInCookie { expose := npsso })).isSome = true ∧
    (signInCookie { expose := npsso }).toList.splitOn ';' =
      (npssoCookieName ++ '=' :: npsso.toList) ::
        [" Max-Age=2592000".toList, " Path=/api".toList, " HttpOnly".toList, " Secure".toList,
          " SameSite=Strict".toList]

/-- The characters of an accepted NPSSO. -/
lemma isCookieSafe_of_isValidNpsso {npsso : String} (h : isValidNpsso npsso = true) :
    npsso.toList ≠ [] ∧ ∀ c ∈ npsso.toList, isCookieSafe c = true := by
  unfold isValidNpsso at h
  simp only [Bool.and_eq_true, decide_eq_true_eq, List.all_eq_true] at h
  refine ⟨?_, h.2⟩
  intro hnil
  rw [hnil] at h
  exact absurd h.1.1 (by decide)

/-- A cookie-safe character is visible, no blank, and no semicolon. -/
lemma isCookieSafe_spec {c : Char} (h : isCookieSafe c = true) :
    (32 ≤ c.toNat ∧ c.toNat < 127) ∧ c.isWhitespace = false ∧ c ≠ ';' := by
  have hlt : c.toNat < 127 := by
    unfold isCookieSafe at h
    -- the ranges of the letters and the digits
    rw [show c.isAlphanum = ((decide (65 ≤ c.val ∧ c.val ≤ 90) ||
      (decide (97 ≤ c.val) && decide (c.val ≤ 122))) ||
      (decide (48 ≤ c.val) && decide (c.val ≤ 57))) from rfl] at h
    simp only [Bool.or_eq_true, Bool.and_eq_true, decide_eq_true_eq, List.mem_cons,
      List.not_mem_nil, or_false] at h
    rcases h with ((h | h) | h) | rfl | rfl | rfl | rfl
    · exact lt_of_le_of_lt (UInt32.le_iff_toNat_le.mp h.2) (by decide)
    · exact lt_of_le_of_lt (UInt32.le_iff_toNat_le.mp h.2) (by decide)
    · exact lt_of_le_of_lt (UInt32.le_iff_toNat_le.mp h.2) (by decide)
    all_goals decide
  have hall : ∀ n < 127, isCookieSafe (Char.ofNat n) = true →
      (32 ≤ n ∧ n < 127) ∧ (Char.ofNat n).isWhitespace = false ∧ Char.ofNat n ≠ ';' := by
    decide
  have hc := hall c.toNat hlt
  rw [Char.ofNat_toNat] at hc
  exact hc h

/-- The pair of an accepted NPSSO has no semicolon. -/
lemma semicolon_not_mem_pair {npsso : String} (h : isValidNpsso npsso = true) :
    ';' ∉ npssoCookieName ++ '=' :: npsso.toList := by
  rw [List.mem_append, List.mem_cons, not_or, not_or]
  refine ⟨by decide, by decide, ?_⟩
  intro hmem
  exact (isCookieSafe_spec ((isCookieSafe_of_isValidNpsso h).2 _ hmem)).2.2 rfl

/-- **An accepted NPSSO adds no attribute.**

**Proof sketch.** The characters of an accepted NPSSO are visible and are no semicolon
(`isCookieSafe_spec`, `semicolon_not_mem_pair`), so the header can be sent, and its first semicolon
is the one before the attributes. -/
theorem setCookieIntact {npsso : String} (h : isValidNpsso npsso = true) :
    SetCookieIntact npsso := by
  have htext : (signInCookie { expose := npsso }).toList =
      (npssoCookieName ++ '=' :: npsso.toList) ++
        ';' :: " Max-Age=2592000; Path=/api; HttpOnly; Secure; SameSite=Strict".toList := by
    unfold signInCookie
    simp only [String.toList_append, String.toList_ofList, List.append_assoc]
    rfl
  constructor
  · have hvisible : ((signInCookie { expose := npsso }).toList.all fun c =>
        (decide (32 ≤ c.toNat) && decide (c.toNat < 127)) || c == '\t') = true := by
      rw [htext, List.all_append, List.all_append, List.all_cons, Bool.and_eq_true,
        Bool.and_eq_true, Bool.and_eq_true]
      refine ⟨⟨by decide, by decide, ?_⟩, by decide⟩
      rw [List.all_eq_true]
      intro c hc
      obtain ⟨⟨hlow, hhigh⟩, -⟩ := isCookieSafe_spec ((isCookieSafe_of_isValidNpsso h).2 c hc)
      simp [hlow, hhigh]
    unfold headerValueFromStr
    rw [if_pos hvisible]
    rfl
  · rw [htext, List.splitOn_eq_splitOnP, List.splitOnP_append_cons _ _ (by decide),
      List.splitOnP_eq_singleton, List.singleton_append]
    · rw [← List.splitOn_eq_splitOnP]
      congr 1
    · intro c hc
      rw [beq_eq_false_iff_ne]
      rintro rfl
      exact semicolon_not_mem_pair h hc

/-! ## The way back -/

/-- The pair of sign-in is read as the session cookie with the NPSSO. -/
lemma splitOnce_sessionPair {npsso : String} {pair : List Char} (h : IsSessionPair npsso pair) :
    splitOnce '=' (trimText pair) = some (npssoCookieName, npsso.toList) := by
  unfold IsSessionPair at h
  rw [h]
  exact splitOnce_append (by decide) npsso.toList

/-- An accepted NPSSO has no blank to trim. -/
lemma trimText_of_isValidNpsso {npsso : String} (h : isValidNpsso npsso = true) :
    trimText npsso.toList = npsso.toList := by
  have hblank : ∀ c ∈ npsso.toList, c.isWhitespace = false := by
    intro c hc
    exact (isCookieSafe_spec ((isCookieSafe_of_isValidNpsso h).2 c hc)).2.1
  have htrimmed : IsTrimmed Char.isWhitespace npsso.toList := by
    constructor
    · intro c hc
      exact hblank c (List.mem_of_mem_head? hc)
    · intro c hc
      exact hblank c (List.mem_of_mem_getLast? hc)
  exact htrimmed.trimBy_eq

/-- The pairs that `npssoFromCookie` reads: those of the headers of visible ASCII. -/
lemma mem_texts_iff {headers : List (List UInt8)} {pair : List Char} :
    pair ∈ (headers.filterMap headerText).flatMap (List.splitOn ';') ↔
      ∃ header ∈ headers, header.all isVisibleAscii = true ∧ pair ∈ cookiePairs header := by
  rw [List.mem_flatMap]
  constructor
  · intro h
    obtain ⟨text, htext, hpair⟩ := h
    obtain ⟨header, hheader, hread⟩ := List.mem_filterMap.mp htext
    unfold headerText at hread
    split_ifs at hread with hvisible
    obtain rfl := Option.some.inj hread
    exact ⟨header, hheader, hvisible, hpair⟩
  · intro h
    obtain ⟨header, hheader, hvisible, hpair⟩ := h
    exact ⟨_, List.mem_filterMap.mpr ⟨header, hheader, if_pos hvisible⟩, hpair⟩

/-- **The session cookie that is read** is a pair of sign-in. -/
lemma sessionPair_of_find? {npsso : String} {texts : List (List Char)}
    (hpairs : ∀ pair ∈ texts, IsSessionPair npsso pair ∨ HasOtherName pair)
    {name value : List Char}
    (h : (texts.filterMap fun pair => splitOnce '=' (trimText pair)).find?
      (fun pair => trimText pair.1 == npssoCookieName) = some (name, value)) :
    value = npsso.toList ∧ ∃ pair ∈ texts, IsSessionPair npsso pair := by
  have hname : trimText name = npssoCookieName := by
    simpa using List.find?_some h
  obtain ⟨pair, hpair, hsplit⟩ := List.mem_filterMap.mp (List.mem_of_find?_eq_some h)
  rcases hpairs pair hpair with hsession | hother
  · rw [splitOnce_sessionPair hsession] at hsplit
    obtain ⟨-, rfl⟩ := Prod.mk.inj (Option.some.inj hsplit)
    exact ⟨rfl, pair, hpair, hsession⟩
  · exact absurd hname (hother name value hsplit)

/-- A pair of sign-in among the texts is found. -/
lemma exists_find?_of_sessionPair {npsso : String} {texts : List (List Char)} {pair : List Char}
    (hpair : pair ∈ texts) (hsession : IsSessionPair npsso pair) :
    ∃ found, (texts.filterMap fun pair => splitOnce '=' (trimText pair)).find?
      (fun pair => trimText pair.1 == npssoCookieName) = some found := by
  have hname : (trimText npssoCookieName == npssoCookieName) = true := by decide
  rw [← Option.isSome_iff_exists, List.find?_isSome]
  exact ⟨(npssoCookieName, npsso.toList),
    List.mem_filterMap.mpr ⟨pair, hpair, splitOnce_sessionPair hsession⟩, hname⟩

/-- **When the NPSSO comes back.** For an accepted NPSSO and headers that hold its pair among pairs
with other names, the cookie is intact on its way out, and the NPSSO is read exactly where one of
the headers that hold the pair has only visible ASCII characters and tabs.

**Proof sketch.** A header with a byte outside the visible range is dropped as a whole, so the pairs
that are searched are those of the visible headers. Every one of them is the pair of the session or
has another name, so the search finds the session exactly where a visible header has its pair. The
value of the pair is the NPSSO, as it has no character that is trimmed or escaped. -/
theorem session_round_trip_iff {npsso : String} {headers : List (List UInt8)}
    (hvalid : isValidNpsso npsso = true) (hcarries : Carries npsso headers) :
    (SetCookieIntact npsso ∧ npssoFromCookie headers = some { expose := npsso }) ↔
      ∃ header ∈ headers, header.all isVisibleAscii = true ∧
        ∃ pair ∈ cookiePairs header, IsSessionPair npsso pair := by
  have hpairs : ∀ pair ∈ (headers.filterMap headerText).flatMap (List.splitOn ';'),
      IsSessionPair npsso pair ∨ HasOtherName pair := by
    intro pair hpair
    obtain ⟨header, hheader, -, hpair⟩ := mem_texts_iff.mp hpair
    exact hcarries.2 header hheader pair hpair
  constructor
  · intro h
    have hread := h.2
    unfold npssoFromCookie at hread
    obtain ⟨⟨name, value⟩, hfind, -⟩ := Option.bind_eq_some_iff.mp hread
    obtain ⟨-, pair, hpair, hsession⟩ := sessionPair_of_find? hpairs hfind
    obtain ⟨header, hheader, hvisible, hpair⟩ := mem_texts_iff.mp hpair
    exact ⟨header, hheader, hvisible, pair, hpair, hsession⟩
  · intro h
    obtain ⟨header, hheader, hvisible, pair, hpair, hsession⟩ := h
    obtain ⟨⟨name, value⟩, hfind⟩ :=
      exists_find?_of_sessionPair (mem_texts_iff.mpr ⟨header, hheader, hvisible, hpair⟩) hsession
    obtain ⟨rfl, -⟩ := sessionPair_of_find? hpairs hfind
    refine ⟨setCookieIntact hvalid, ?_⟩
    unfold npssoFromCookie
    dsimp only
    rw [hfind, Option.bind_eq_bind, Option.bind_some]
    dsimp only
    rw [trimText_of_isValidNpsso hvalid,
      if_neg (isCookieSafe_of_isValidNpsso hvalid).1, String.ofList_toList]

/-- A header with a pair of another name before the pair of sign-in. -/
lemma carries_pair {npsso : String} {header : List UInt8} {other pair : List Char}
    {name value : List Char} (hpairs : cookiePairs header = [other, pair])
    (hother : splitOnce '=' (trimText other) = some (name, value))
    (hname : trimText name ≠ npssoCookieName) (hsession : IsSessionPair npsso pair) :
    Carries npsso [header] := by
  have hotherName : HasOtherName other := by
    intro name' value' h
    rw [hother] at h
    obtain ⟨rfl, -⟩ := Prod.mk.inj (Option.some.inj h)
    exact hname
  unfold Carries
  simp only [forall_eq, exists_eq_left, hpairs, List.mem_cons, List.not_mem_nil, or_false,
    forall_eq_or_imp, exists_eq_or_imp]
  exact ⟨Or.inr hsession, Or.inr hotherName, Or.inl hsession⟩

/-- An NPSSO of 16 characters. -/
def sampleNpsso : String := "abcdefgh01234567"

/-- A `Cookie` header with the text of Latin-1 characters. -/
def latinHeader (text : String) : List UInt8 := text.toList.map fun c => c.toNat.toUInt8

/-- The NPSSO comes back from a header with another cookie. -/
theorem session_round_trip_iff_sample :
    npssoFromCookie [latinHeader "lang=en; npsso=abcdefgh01234567"] =
      some { expose := sampleNpsso } := by
  have hpairs : cookiePairs (latinHeader "lang=en; npsso=abcdefgh01234567") =
      ["lang=en".toList, " npsso=abcdefgh01234567".toList] := by decide
  have hother : splitOnce '=' (trimText "lang=en".toList) = some ("lang".toList, "en".toList) := by
    decide
  have hsession : IsSessionPair sampleNpsso " npsso=abcdefgh01234567".toList := by
    unfold IsSessionPair
    decide
  refine ((session_round_trip_iff (by decide)
    (carries_pair hpairs hother (by decide) hsession)).mpr
      ⟨_, List.mem_singleton_self _, by decide, _, ?_, hsession⟩).2
  rw [hpairs]
  exact List.mem_cons_of_mem _ (List.mem_singleton_self _)

/-- **The NPSSO is missed** where another cookie of its header has a letter with an accent. -/
theorem session_round_trip_fails :
    isValidNpsso sampleNpsso = true ∧
      Carries sampleNpsso [latinHeader "café=1; npsso=abcdefgh01234567"] ∧
      npssoFromCookie [latinHeader "café=1; npsso=abcdefgh01234567"] = none := by
  have hpairs : cookiePairs (latinHeader "café=1; npsso=abcdefgh01234567") =
      ["café=1".toList, " npsso=abcdefgh01234567".toList] := by decide
  have hother : splitOnce '=' (trimText "café=1".toList) =
      some ("café".toList, "1".toList) := by decide
  have hsession : IsSessionPair sampleNpsso " npsso=abcdefgh01234567".toList := by
    unfold IsSessionPair
    decide
  exact ⟨by decide, carries_pair hpairs hother (by decide) hsession, by decide⟩

end PsStore
