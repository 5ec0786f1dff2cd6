import PsStore.Http.SessionEffect
import PsStore.Lib.CookieJar
import PsStore.Lib.Transition

set_option relaxedAutoImplicit false
set_option autoImplicit false

/-!
# A browser in front of the server

A browser in front of the server. It sends any request at any time with the cookies that it keeps
for the path; the server answers the requests in any order, each time with services that answer
anything; answers arrive in any order, requests and answers get lost, and the browser may forget any
cookie. What this is for is a session: the browser is signed in with an NPSSO, or it is not.

## Main definitions

* `Browser`, `BrowserEvent`, `browserSystem` — the browser, its requests on the way, and the server.
* `SessionState`, `sessionSystem` — the session without cookies and headers.
* `session` — the NPSSO that the browser keeps.

## Main results

* `npssoFromCookie_attach` — the server reads the session from the cookies of a request.
* `Browser.inv_of_reachable` — what the browser keeps in every run.
* `Browser.run_events` — a step of the browser is a step of the session.
* `browser_refines_session` — the browser and the server are a session.

The cookies are bytes: a character of the jar stands for the byte of its code. A browser also keeps
cookies of other bytes than visible ASCII, and the server then skips the whole `Cookie` header. The
browser sends the cookies of a request in one header.
-/

namespace PsStore

/-! ## The browser -/

/-- The name and the path of the session cookie. -/
def sessionKey : List Char × List Char := (npssoCookieName, "/api".toList)

/-- The NPSSO that the browser keeps. -/
def session (jar : CookieJar) : Option Secret :=
  (jar.get sessionKey).map fun value => { expose := String.ofList value }

/-- A byte that a browser keeps in a cookie: no control character but the tab, and no semicolon. -/
def isCookieByte (c : Char) : Bool :=
  (c == '\t' || decide (32 ≤ c.toNat)) && decide (c.toNat < 256) && c.toNat != 127 && c != ';'

/-- Another cookie: its name is not `npsso`, and its pair is not read as one. Its bytes need not be
ASCII. -/
def isForeign (name value : List Char) : Bool :=
  (CookieJar.pairText (name, value)).all isCookieByte && name != npssoCookieName &&
    (splitOnce '=' (trimText (CookieJar.pairText (name, value)))).all
      fun pair => trimText pair.1 != npssoCookieName

/-- The bytes of a text whose characters stand for bytes. -/
def headerBytes (text : List Char) : List UInt8 := text.map fun c => UInt8.ofNat c.toNat

/-- A request with the cookies of the browser. -/
def CookieJar.attach (jar : CookieJar) (request : HttpRequest) : HttpRequest :=
  { request with cookies := ((jar.header request.path).map headerBytes).toList }

/-- The cookies of a request are of visible ASCII, so that the server reads their header. -/
def CookieJar.isPlain (jar : CookieJar) (path : List Char) : Bool :=
  (jar.header path).all fun text => (headerBytes text).all isVisibleAscii

/-- The requests that carry the session: those under the path of the cookie, unless another cookie
hides it. -/
def CookieJar.carries (jar : CookieJar) (path : List Char) : Bool :=
  pathMatches path "/api".toList && jar.isPlain path

/-- A request on its way, with its answer once the server gave it. -/
structure HttpExchange where
  request : HttpRequest
  response : Option (Response Payload)

/-- A browser and what is on the way between it and the server. -/
structure Browser where
  jar : CookieJar
  exchanges : List HttpExchange

/-- What happens in a browser and in the server. -/
inductive BrowserEvent where
  /-- The browser sends a request. -/
  | send (request : HttpRequest)
  /-- The server answers a request. -/
  | serve (i : ℕ) (server : Server)
  /-- An answer arrives. -/
  | receive (i : ℕ)
  /-- A request or an answer gets lost. -/
  | lose (i : ℕ)
  /-- The browser keeps another cookie. -/
  | keepOther (name path value : List Char)
  /-- The browser forgets a cookie, for example because it is too old. -/
  | forget (key : List Char × List Char)

namespace Browser

/-- The jar after an answer. -/
def receive (jar : CookieJar) (path : List Char) (setCookie : List String) : CookieJar :=
  setCookie.foldl (fun jar header => jar.store path header.toList) jar

/-- The browser after an event. -/
def step (s : Browser) : BrowserEvent → Option Browser
  | .send request =>
    some { s with exchanges := s.exchanges ++ [⟨CookieJar.attach s.jar request, none⟩] }
  | .serve i server =>
    match s.exchanges[i]? with
    | some ⟨request, none⟩ =>
      some { s with exchanges := s.exchanges.set i ⟨request, some (app server request).response⟩ }
    | _ => none
  | .receive i =>
    match s.exchanges[i]? with
    | some ⟨request, some response⟩ =>
      some ⟨receive s.jar request.path response.setCookie, s.exchanges.eraseIdx i⟩
    | _ => none
  | .lose i =>
    if i < s.exchanges.length then some { s with exchanges := s.exchanges.eraseIdx i } else none
  | .keepOther name path value =>
    if isForeign name value = true then some { s with jar := s.jar.set (name, path) value }
    else none
  | .forget key => some { s with jar := s.jar.erase key }

end Browser

/-- A browser without cookies in front of the server. -/
def browserSystem : TransitionSystem Browser BrowserEvent where
  init := ⟨InsertionMap.empty, []⟩
  step := Browser.step

/-! ## The session -/

/-- The session after an answer. -/
def SessionEffect.apply (current : Option Secret) : SessionEffect → Option Secret
  | .keep => current
  | .enter npsso => some npsso
  | .leave => none

/-- A request on its way: the NPSSO that it carries, and the effect of its answer. -/
structure PendingRequest where
  carried : Option Secret
  effect : Option SessionEffect

/-- A session: the NPSSO of the browser, and the requests on their way. -/
structure SessionState where
  current : Option Secret
  pending : List PendingRequest

/-- What happens in a session. -/
inductive SessionEvent where
  /-- A request starts. It carries the NPSSO, or it does not. -/
  | start (carries : Bool)
  | answer (i : ℕ) (effect : SessionEffect)
  | finish (i : ℕ)
  | lose (i : ℕ)
  | forget

/-- The session after an event. -/
def SessionState.step (s : SessionState) : SessionEvent → Option SessionState
  | .start carries =>
    some { s with pending := s.pending ++ [⟨if carries then s.current else none, none⟩] }
  | .answer i effect =>
    match s.pending[i]? with
    | some ⟨carried, none⟩ => some { s with pending := s.pending.set i ⟨carried, some effect⟩ }
    | _ => none
  | .finish i =>
    match s.pending[i]? with
    | some ⟨_, some effect⟩ => some ⟨effect.apply s.current, s.pending.eraseIdx i⟩
    | _ => none
  | .lose i =>
    if i < s.pending.length then some { s with pending := s.pending.eraseIdx i } else none
  | .forget => some { s with current := none }

/-- A session that starts signed out. -/
def sessionSystem : TransitionSystem SessionState SessionEvent where
  init := ⟨none, []⟩
  step := SessionState.step

/-! ## The headers of the server in the jar -/

/-- The attributes of the cookie of a sign-in. -/
def signInAttributes : List (List Char × List Char) :=
  [("max-age".toList, "2592000".toList), ("path".toList, "/api".toList), ("httponly".toList, []),
    ("secure".toList, []), ("samesite".toList, "Strict".toList)]

/-- A cookie-safe character is no blank of a header. -/
lemma trimBy_isHeaderBlank {text : List Char} (h : ∀ c ∈ text, isCookieSafe c = true) :
    trimBy isHeaderBlank text = text := by
  have hblank : ∀ c ∈ text, isHeaderBlank c = false := by
    intro c hc
    have hspace := (isCookieSafe_spec (h c hc)).2.1
    unfold isHeaderBlank
    rw [Bool.or_eq_false_iff, beq_eq_false_iff_ne, beq_eq_false_iff_ne]
    constructor
    · rintro rfl
      cases hspace
    · rintro rfl
      cases hspace
  apply IsTrimmed.trimBy_eq
  exact ⟨fun c hc => hblank c (List.mem_of_mem_head? hc),
    fun c hc => hblank c (List.mem_of_mem_getLast? hc)⟩

/-- **The cookie of a sign-in** as the browser reads it. -/
lemma parse_signInCookie {npsso : Secret} (h : isValidNpsso npsso.expose = true) :
    SetCookie.parse (signInCookie npsso).toList =
      some ⟨npssoCookieName, npsso.expose.toList, signInAttributes⟩ := by
  have hsplit := (setCookieIntact h).2
  have hpair : nameAndValue (npssoCookieName ++ '=' :: npsso.expose.toList) =
      some (npssoCookieName, npsso.expose.toList) := by
    rw [nameAndValue_append (by decide),
      trimBy_isHeaderBlank (isCookieSafe_of_isValidNpsso h).2]
    rfl
  unfold SetCookie.parse
  rw [hsplit]
  dsimp only
  rw [hpair]
  dsimp only
  rw [if_neg (by decide)]
  have hattributes : [" Max-Age=2592000".toList, " Path=/api".toList, " HttpOnly".toList,
      " Secure".toList, " SameSite=Strict".toList].map SetCookie.attributeOf =
      signInAttributes := by decide
  rw [hattributes]

/-- The cookie of a sign-in is not over. -/
lemma isExpired_signInCookie (value : List Char) :
    SetCookie.isExpired ⟨npssoCookieName, value, signInAttributes⟩ = false := by
  show SetCookie.isExpired ⟨npssoCookieName, [], signInAttributes⟩ = false
  decide

/-- A sign-in sets the session cookie. -/
lemma get_store_signInCookie {npsso : Secret} (h : isValidNpsso npsso.expose = true)
    (jar : CookieJar) (path : List Char) (key : List Char × List Char) :
    (jar.store path (signInCookie npsso).toList).get key =
      if key = sessionKey then some npsso.expose.toList else jar.get key := by
  rw [CookieJar.get_store (parse_signInCookie h), isExpired_signInCookie]
  rfl

/-- A sign-out and a rejection remove the session cookie. -/
lemma get_store_expiredCookie (jar : CookieJar) (path : List Char)
    (key : List Char × List Char) :
    (jar.store path expiredCookie.toList).get key =
      if key = sessionKey then none else jar.get key := by
  have hparse : ∃ cookie, SetCookie.parse expiredCookie.toList = some cookie ∧
      cookie.name = npssoCookieName ∧ cookie.isExpired = true ∧
      (cookie.valuesOf "path").getLast? = some "/api".toList := by
    refine ⟨_, rfl, ?_⟩
    decide
  obtain ⟨cookie, hcookie, hname, hexpired, hpath⟩ := hparse
  have hkey : (cookie.name, cookie.path path) = sessionKey := by
    unfold SetCookie.path sessionKey
    rw [hname, hpath]
    rfl
  rw [CookieJar.get_store hcookie, hkey, hexpired]
  rfl

/-! ## The cookies of a request -/

/-- The browser keeps no cookie but the session cookie, with an NPSSO of the form that sign-in
accepts, and other cookies. -/
def JarOk (jar : CookieJar) : Prop :=
  ∀ name path value, jar.get (name, path) = some value →
    (name, path) = sessionKey ∧ isValidNpsso (String.ofList value) = true ∨
      isForeign name value = true

/-- What another cookie is. -/
lemma isForeign_spec {name value : List Char} (h : isForeign name value = true) :
    (∀ c ∈ CookieJar.pairText (name, value), isCookieByte c = true) ∧ name ≠ npssoCookieName ∧
      HasOtherName (CookieJar.pairText (name, value)) := by
  unfold isForeign at h
  rw [Bool.and_eq_true, Bool.and_eq_true, List.all_eq_true, bne_iff_ne] at h
  obtain ⟨⟨hchars, hname⟩, hother⟩ := h
  refine ⟨hchars, hname, ?_⟩
  intro name' value' hsplit
  rw [hsplit, Option.all_some, bne_iff_ne] at hother
  exact hother

/-- The pair of an accepted NPSSO has no blank and no semicolon. -/
lemma isCookieByte_of_isValidNpsso {npsso : String} (h : isValidNpsso npsso = true) :
    ∀ c ∈ npssoCookieName ++ '=' :: npsso.toList,
      isCookieByte c = true ∧ c.isWhitespace = false := by
  intro c hc
  rw [List.mem_append, List.mem_cons] at hc
  rcases hc with hc | rfl | hc
  · have hname : ∀ c ∈ npssoCookieName, isCookieByte c = true ∧ c.isWhitespace = false := by
      decide
    exact hname c hc
  · decide
  · obtain ⟨⟨hlow, hhigh⟩, hspace, hsemicolon⟩ :=
      isCookieSafe_spec ((isCookieSafe_of_isValidNpsso h).2 c hc)
    have hbyte : c.toNat < 256 := by omega
    have hdelete : c.toNat ≠ 127 := by omega
    unfold isCookieByte
    simp [hlow, hbyte, hdelete, hspace, hsemicolon]

/-- The pair of an accepted NPSSO is the pair of sign-in. -/
lemma isSessionPair_pairText {npsso : String} (h : isValidNpsso npsso = true) :
    IsSessionPair npsso (CookieJar.pairText (npssoCookieName, npsso.toList)) := by
  have htrimmed : IsTrimmed Char.isWhitespace (npssoCookieName ++ '=' :: npsso.toList) := by
    constructor
    · intro c hc
      exact (isCookieByte_of_isValidNpsso h c (List.mem_of_mem_head? hc)).2
    · intro c hc
      exact (isCookieByte_of_isValidNpsso h c (List.mem_of_mem_getLast? hc)).2
  exact htrimmed.trimBy_eq

/-- A character that stands for a byte is read back from it. -/
lemma map_headerBytes {text : List Char} (h : ∀ c ∈ text, c.toNat < 256) :
    ((headerBytes text).map fun b => Char.ofNat b.toNat) = text := by
  unfold headerBytes
  rw [List.map_map]
  conv_rhs => rw [← List.map_id text]
  apply List.map_congr_left
  intro c hc
  show Char.ofNat (UInt8.ofNat c.toNat).toNat = c
  rw [UInt8.toNat_ofNat_of_lt' (h c hc), Char.ofNat_toNat]

/-- What is read from one header. -/
lemma npssoFromCookie_singleton {bytes : List UInt8} {text : List Char}
    (h : headerText bytes = some text) :
    npssoFromCookie [bytes] =
      (((text.splitOn ';').filterMap fun pair => splitOnce '=' (trimText pair)).find?
        fun pair => trimText pair.1 == npssoCookieName).bind fun pair =>
          if trimText pair.2 = [] then none else some ⟨String.ofList (trimText pair.2)⟩ := by
  unfold npssoFromCookie
  rw [List.filterMap_cons_some h, List.filterMap_nil, List.flatMap_singleton]
  rfl

/-- Without a pair of sign-in no session cookie is found. -/
lemma find?_eq_none_of_hasOtherName {texts : List (List Char)}
    (h : ∀ pair ∈ texts, HasOtherName pair) :
    ((texts.filterMap fun pair => splitOnce '=' (trimText pair)).find?
      fun pair => trimText pair.1 == npssoCookieName) = none := by
  rw [List.find?_eq_none]
  rintro ⟨name, value⟩ hmem
  obtain ⟨pair, hpair, hsplit⟩ := List.mem_filterMap.mp hmem
  rw [beq_iff_eq]
  exact h pair hpair name value hsplit

/-- The cookies of a request are the session cookie, under its path, and other cookies. -/
lemma mem_forPath_cases {jar : CookieJar} (hjar : JarOk jar) {path : List Char}
    {cookie : List Char × List Char} (h : cookie ∈ jar.forPath path) :
    (∃ npsso, isValidNpsso npsso = true ∧ cookie = (npssoCookieName, npsso.toList) ∧
      session jar = some { expose := npsso } ∧ pathMatches path "/api".toList = true) ∨
    isForeign cookie.1 cookie.2 = true := by
  obtain ⟨name, value⟩ := cookie
  obtain ⟨cookiePath, hget, hpath⟩ := CookieJar.mem_forPath.mp h
  rcases hjar name cookiePath value hget with ⟨hkey, hvalid⟩ | hforeign
  · left
    rw [hkey] at hget
    obtain ⟨rfl, rfl⟩ := Prod.mk.inj hkey
    refine ⟨String.ofList value, hvalid, by rw [String.toList_ofList], ?_, hpath⟩
    unfold session
    rw [hget]
    rfl
  · exact Or.inr hforeign

/-- The session cookie is sent under its path. -/
lemma mem_forPath_of_session {jar : CookieJar} (hjar : JarOk jar) {path : List Char}
    {npsso : Secret} (h : session jar = some npsso)
    (hpath : pathMatches path "/api".toList = true) :
    isValidNpsso npsso.expose = true ∧
      (npssoCookieName, npsso.expose.toList) ∈ jar.forPath path := by
  unfold session at h
  obtain ⟨value, hget, rfl⟩ := Option.map_eq_some_iff.mp h
  refine ⟨?_, ?_⟩
  · rcases hjar npssoCookieName "/api".toList value hget with ⟨-, hvalid⟩ | hforeign
    · exact hvalid
    · exact absurd rfl (isForeign_spec hforeign).2.1
  · rw [String.toList_ofList]
    exact CookieJar.mem_forPath.mpr ⟨_, hget, hpath⟩

/-- The pairs of the header are the cookies of the request, and its characters stand for bytes.

**Proof sketch.** The header joins the pairs of the cookies with a semicolon and a blank. No pair
has a semicolon of its own, so splitting gives the pairs back, each but the first with a blank
before it, which trimming removes. -/
lemma header_spec {jar : CookieJar} (hjar : JarOk jar) {path text : List Char}
    (h : jar.header path = some text) :
    (∀ c ∈ text, c.toNat < 256) ∧
    (∀ pair ∈ text.splitOn ';', ∃ cookie ∈ jar.forPath path,
      trimText pair = trimText (CookieJar.pairText cookie)) ∧
    ∀ cookie ∈ jar.forPath path, ∃ pair ∈ text.splitOn ';',
      trimText pair = trimText (CookieJar.pairText cookie) := by
  have hbytes : ∀ cookie ∈ jar.forPath path, ∀ c ∈ CookieJar.pairText cookie,
      isCookieByte c = true := by
    intro cookie hcookie c hc
    rcases mem_forPath_cases hjar hcookie with ⟨npsso, hvalid, rfl, -⟩ | hforeign
    · exact (isCookieByte_of_isValidNpsso hvalid c hc).1
    · exact (isForeign_spec hforeign).1 c hc
  have hbyte : ∀ c, isCookieByte c = true → c.toNat < 256 ∧ c ≠ ';' := by
    intro c hc
    unfold isCookieByte at hc
    simp only [Bool.and_eq_true, decide_eq_true_eq, bne_iff_ne] at hc
    exact ⟨hc.1.1.2, hc.2⟩
  obtain ⟨first, rest, hcookies, hsplit⟩ := CookieJar.splitOn_header h (by
    intro cookie hcookie hmem
    exact (hbyte _ (hbytes cookie hcookie _ hmem)).2 rfl)
  have hblank : ∀ pair, trimText (' ' :: pair) = trimText pair := fun pair => rfl
  refine ⟨?_, ?_, ?_⟩
  · intro c hc
    rcases CookieJar.mem_header h hc with rfl | rfl | ⟨cookie, hcookie, hc⟩
    · decide
    · decide
    · exact (hbyte c (hbytes cookie hcookie c hc)).1
  · intro pair hpair
    rw [hsplit, List.mem_cons] at hpair
    rw [hcookies]
    rcases hpair with rfl | hpair
    · exact ⟨first, List.mem_cons_self, rfl⟩
    · obtain ⟨other, hother, rfl⟩ := List.mem_map.mp hpair
      exact ⟨other, List.mem_cons_of_mem _ hother, hblank _⟩
  · intro cookie hcookie
    rw [hcookies, List.mem_cons] at hcookie
    rw [hsplit]
    rcases hcookie with rfl | hcookie
    · exact ⟨_, List.mem_cons_self, rfl⟩
    · exact ⟨_, List.mem_cons_of_mem _ (List.mem_map.mpr ⟨cookie, hcookie, rfl⟩), hblank _⟩

/-- **What is read from the cookies of a request**, where their header is read at all: the session
under the path of the cookie, and nothing elsewhere.

**Proof sketch.** Each pair of the header is that of the session cookie, under its path, or has
another name (`mem_forPath_cases`). So the search for the name finds the session cookie or nothing;
its value is the NPSSO, which has no character that is trimmed. -/
lemma read_header {jar : CookieJar} (hjar : JarOk jar) {path text : List Char}
    (h : jar.header path = some text) :
    (((text.splitOn ';').filterMap fun pair => splitOnce '=' (trimText pair)).find?
      fun pair => trimText pair.1 == npssoCookieName).bind (fun pair =>
        if trimText pair.2 = [] then none else some ⟨String.ofList (trimText pair.2)⟩) =
      if pathMatches path "/api".toList then session jar else none := by
  obtain ⟨-, hpairs, hcookies⟩ := header_spec hjar h
  -- every pair is the session cookie under its path, or another cookie
  have hcases : ∀ pair ∈ text.splitOn ';', (∃ npsso, session jar = some { expose := npsso } ∧
      pathMatches path "/api".toList = true ∧ IsSessionPair npsso pair) ∨
      HasOtherName pair := by
    intro pair hpair
    obtain ⟨cookie, hcookie, htrim⟩ := hpairs pair hpair
    rcases mem_forPath_cases hjar hcookie with ⟨npsso, hvalid, rfl, hsession, hpath⟩ | hforeign
    · exact Or.inl ⟨npsso, hsession, hpath, htrim.trans (isSessionPair_pairText hvalid)⟩
    · right
      intro name value hsplit
      rw [htrim] at hsplit
      exact (isForeign_spec hforeign).2.2 name value hsplit
  have hnone : (∀ npsso, session jar = some npsso → pathMatches path "/api".toList = true → False) →
      ∀ pair ∈ text.splitOn ';', HasOtherName pair := by
    intro h pair hpair
    rcases hcases pair hpair with ⟨npsso, hsession, hpath, -⟩ | hother
    · exact absurd hpath (h _ hsession)
    · exact hother
  split_ifs with hpath
  · cases hsession : session jar with
    | none =>
      have hother := hnone (by
        intro npsso h
        rw [hsession] at h
        cases h)
      rw [find?_eq_none_of_hasOtherName hother]
      rfl
    | some npsso =>
      obtain ⟨hvalid, hmem⟩ := mem_forPath_of_session hjar hsession hpath
      obtain ⟨pair, hpair, htrim⟩ := hcookies _ hmem
      have hcases' : ∀ pair ∈ text.splitOn ';',
          IsSessionPair npsso.expose pair ∨ HasOtherName pair := by
        intro other hother
        rcases hcases other hother with ⟨npsso', hsession', -, hpair'⟩ | hname
        · rw [hsession] at hsession'
          obtain rfl := Option.some.inj hsession'
          exact Or.inl hpair'
        · exact Or.inr hname
      obtain ⟨⟨name, value⟩, hfind⟩ := exists_find?_of_sessionPair hpair
        (htrim.trans (isSessionPair_pairText hvalid))
      obtain ⟨rfl, -⟩ := sessionPair_of_find? hcases' hfind
      rw [hfind, Option.bind_some]
      dsimp only
      rw [trimText_of_isValidNpsso hvalid, if_neg (isCookieSafe_of_isValidNpsso hvalid).1,
        String.ofList_toList]
  · have hother := hnone fun npsso _ h => hpath h
    rw [find?_eq_none_of_hasOtherName hother]
    rfl

/-- **The server reads the session** from the cookies of a request that carries it, and nothing from
those of another request.

**Proof sketch.** Without a cookie for the path there is no header, and so no session cookie under
the path. With a header of visible ASCII alone the server reads the pairs of the jar
(`read_header`), and it drops a header with another byte as a whole. -/
theorem npssoFromCookie_attach {jar : CookieJar} (hjar : JarOk jar) (request : HttpRequest) :
    npssoFromCookie (CookieJar.attach jar request).cookies =
      if jar.carries request.path then session jar else none := by
  show npssoFromCookie ((jar.header request.path).map headerBytes).toList = _
  unfold CookieJar.carries CookieJar.isPlain
  cases hheader : jar.header request.path with
  | none =>
    have hnil : jar.forPath request.path = [] := by
      unfold CookieJar.header at hheader
      split at hheader
      · assumption
      · cases hheader
    show none = _
    split_ifs with hpath
    · rw [Option.all_none, Bool.and_true] at hpath
      cases hsession : session jar with
      | none => rfl
      | some npsso =>
        have hmem := (mem_forPath_of_session hjar hsession hpath).2
        rw [hnil] at hmem
        cases hmem
    · rfl
  | some text =>
    show npssoFromCookie [headerBytes text] = _
    rw [Option.all_some]
    by_cases hvisible : (headerBytes text).all isVisibleAscii = true
    · have htext : headerText (headerBytes text) = some text := by
        unfold headerText
        rw [if_pos hvisible, map_headerBytes (header_spec hjar hheader).1]
      rw [npssoFromCookie_singleton htext, read_header hjar hheader, hvisible, Bool.and_true]
    · have htext : headerText (headerBytes text) = none := if_neg hvisible
      rw [Bool.eq_false_iff.mpr hvisible, Bool.and_false, if_neg Bool.false_ne_true]
      unfold npssoFromCookie
      rw [List.filterMap_cons_none htext, List.filterMap_nil]
      rfl

/-! ## The steps -/

/-- The effect of an answer, as the browser reads its headers. -/
def effectOf (setCookie : List String) : SessionEffect :=
  match setCookie.filterMap fun header => SetCookie.parse header.toList with
  | [] => .keep
  | cookie :: _ =>
    if cookie.isExpired then .leave else .enter { expose := String.ofList cookie.value }

/-- The effect of a sign-in. -/
lemma effectOf_signInCookie {npsso : Secret} (h : isValidNpsso npsso.expose = true) :
    effectOf [signInCookie npsso] = .enter npsso := by
  have hread : [signInCookie npsso].filterMap (fun header => SetCookie.parse header.toList) =
      [⟨npssoCookieName, npsso.expose.toList, signInAttributes⟩] := by
    rw [List.filterMap_cons, parse_signInCookie h]
    rfl
  unfold effectOf
  rw [hread]
  dsimp only
  rw [isExpired_signInCookie, if_neg (by decide), String.ofList_toList]

/-- The session cookie is forgotten with its key. -/
lemma session_eq_of_get {jar jar' : CookieJar} (h : jar'.get sessionKey = jar.get sessionKey) :
    session jar' = session jar := by
  unfold session
  rw [h]

/-- **An answer of the server** leaves a good jar and the session of its effect.

**Proof sketch.** The cookie of a sign-in is read back with its NPSSO, a valid one, and replaces
what was kept. The expired cookie removes it. Without a header the jar stays as it is. -/
lemma SetsCookie.spec {server : Server} {request : HttpRequest} {setCookie : List String}
    {effect : SessionEffect} (h : SetsCookie server request setCookie effect) {jar : CookieJar}
    (hjar : JarOk jar) (path : List Char) :
    effectOf setCookie = effect ∧ JarOk (Browser.receive jar path setCookie) ∧
      session (Browser.receive jar path setCookie) = effect.apply (session jar) := by
  have hexpired : JarOk (jar.store path expiredCookie.toList) ∧
      session (jar.store path expiredCookie.toList) = none := by
    constructor
    · intro name cookiePath value hget
      rw [get_store_expiredCookie] at hget
      split_ifs at hget
      exact hjar name cookiePath value hget
    · unfold session
      rw [get_store_expiredCookie, if_pos rfl]
      rfl
  cases h with
  | keep => exact ⟨rfl, hjar, rfl⟩
  | @signedIn body npsso hoperation hbody hnpsso haccepted =>
    have hvalid := (exists_headerValue_signInCookie hnpsso).1
    refine ⟨effectOf_signInCookie hvalid, ?_, ?_⟩
    · intro name cookiePath value hget
      replace hget : (jar.store path (signInCookie npsso).toList).get (name, cookiePath) =
        some value := hget
      rw [get_store_signInCookie hvalid] at hget
      split_ifs at hget with hkey
      · obtain rfl := Option.some.inj hget
        exact Or.inl ⟨hkey, by rw [String.ofList_toList]; exact hvalid⟩
      · exact hjar name cookiePath value hget
    · show session (jar.store path (signInCookie npsso).toList) = some npsso
      unfold session
      rw [get_store_signInCookie hvalid, if_pos rfl, Option.map_some, String.ofList_toList]
  | signedOut hoperation => exact ⟨by decide, hexpired⟩
  | rejected hoperation hservice hcookie hrejected => exact ⟨by decide, hexpired⟩

namespace Browser

/-- What an event does, with the condition under which it happens. -/
inductive Steps (s : Browser) : BrowserEvent → Browser → Prop where
  | send (request : HttpRequest) :
      Steps s (.send request)
        { s with exchanges := s.exchanges ++ [⟨CookieJar.attach s.jar request, none⟩] }
  | serve {i : ℕ} {request : HttpRequest} (server : Server)
      (hrequest : s.exchanges[i]? = some ⟨request, none⟩) :
      Steps s (.serve i server)
        { s with exchanges := s.exchanges.set i ⟨request, some (app server request).response⟩ }
  | receive {i : ℕ} {request : HttpRequest} {response : Response Payload}
      (hresponse : s.exchanges[i]? = some ⟨request, some response⟩) :
      Steps s (.receive i)
        ⟨Browser.receive s.jar request.path response.setCookie, s.exchanges.eraseIdx i⟩
  | lose {i : ℕ} (hi : i < s.exchanges.length) :
      Steps s (.lose i) { s with exchanges := s.exchanges.eraseIdx i }
  | keepOther {name value : List Char} (path : List Char) (hforeign : isForeign name value = true) :
      Steps s (.keepOther name path value) { s with jar := s.jar.set (name, path) value }
  | forget (key : List Char × List Char) : Steps s (.forget key) { s with jar := s.jar.erase key }

/-- **A step** does what its event does. -/
lemma steps_of_step {s s' : Browser} {e : BrowserEvent} (h : browserSystem.step s e = some s') :
    Steps s e s' := by
  replace h : s.step e = some s' := h
  cases e with
  | send request =>
    obtain rfl := Option.some.inj h
    exact .send request
  | serve i server =>
    simp only [step] at h
    split at h
    · next request hrequest =>
      obtain rfl := Option.some.inj h
      exact .serve server hrequest
    · cases h
  | receive i =>
    simp only [step] at h
    split at h
    · next request response hresponse =>
      obtain rfl := Option.some.inj h
      exact .receive hresponse
    · cases h
  | lose i =>
    simp only [step] at h
    split_ifs at h with hi
    obtain rfl := Option.some.inj h
    exact .lose hi
  | keepOther name path value =>
    simp only [step] at h
    split_ifs at h with hforeign
    obtain rfl := Option.some.inj h
    exact .keepOther path hforeign
  | forget key =>
    obtain rfl := Option.some.inj h
    exact .forget key

/-- **What holds in every run**: the jar is good, and every answer on its way is one that the server
gave to its request. -/
structure Inv (s : Browser) : Prop where
  jar : JarOk s.jar
  answered : ∀ x ∈ s.exchanges, ∀ response, x.response = some response →
    ∃ server, response = (app server x.request).response

/-- An arriving answer has one of the effects of the server. -/
lemma Inv.setsCookie {s : Browser} (hs : s.Inv) {i : ℕ} {request : HttpRequest}
    {response : Response Payload} (h : s.exchanges[i]? = some ⟨request, some response⟩) :
    ∃ server effect, SetsCookie server request response.setCookie effect := by
  obtain ⟨server, hserver⟩ := hs.answered _ (List.mem_of_getElem? h) response rfl
  obtain ⟨effect, heffect⟩ := exists_setsCookie_app server request
  rw [hserver]
  exact ⟨server, effect, heffect⟩

/-- Setting another cookie leaves the session cookie. -/
lemma get_set_of_isForeign {jar : CookieJar} {name path value : List Char}
    (h : isForeign name value = true) :
    (jar.set (name, path) value).get sessionKey = jar.get sessionKey := by
  rw [InsertionMap.get_set, if_neg]
  intro hkey
  exact (isForeign_spec h).2.1 (Prod.mk.inj hkey).1.symm

/-- **A step keeps the invariant.** -/
lemma Inv.step {s s' : Browser} {e : BrowserEvent} (hs : s.Inv)
    (h : browserSystem.step s e = some s') : s'.Inv := by
  cases steps_of_step h with
  | send request =>
    refine ⟨hs.jar, ?_⟩
    intro x hx response hresponse
    rcases List.mem_append.mp hx with hx | hx
    · exact hs.answered x hx response hresponse
    · obtain rfl := List.mem_singleton.mp hx
      cases hresponse
  | serve server hrequest =>
    refine ⟨hs.jar, ?_⟩
    intro x hx response hresponse
    rcases List.mem_or_eq_of_mem_set hx with hx | rfl
    · exact hs.answered x hx response hresponse
    · exact ⟨server, (Option.some.inj hresponse).symm⟩
  | receive hresponse =>
    obtain ⟨server, effect, hcookie⟩ := hs.setsCookie hresponse
    refine ⟨(hcookie.spec hs.jar _).2.1, ?_⟩
    intro x hx
    exact hs.answered x (List.mem_of_mem_eraseIdx hx)
  | lose hi =>
    refine ⟨hs.jar, ?_⟩
    intro x hx
    exact hs.answered x (List.mem_of_mem_eraseIdx hx)
  | @keepOther name value path hforeign =>
    refine ⟨?_, hs.answered⟩
    intro name' path' value' hget
    rw [InsertionMap.get_set] at hget
    split_ifs at hget with hkey
    · obtain rfl := Option.some.inj hget
      obtain ⟨rfl, -⟩ := Prod.mk.inj hkey
      exact Or.inr hforeign
    · exact hs.jar name' path' value' hget
  | forget key =>
    refine ⟨?_, hs.answered⟩
    intro name path value hget
    rw [InsertionMap.get_erase] at hget
    split_ifs at hget
    exact hs.jar name path value hget

/-- **The invariant holds in every run.** -/
theorem inv_of_reachable {s : Browser} (h : browserSystem.Reachable s) : s.Inv := by
  apply TransitionSystem.Reachable.invariant _ _ h
  · refine ⟨?_, ?_⟩
    · intro name path value hget
      cases hget
    · intro x hx
      cases hx
  · intro s e s' _ hs hstep
    exact hs.step hstep

end Browser

/-! ## The browser as a session -/

/-- A request on its way, as the session sees it. -/
def HttpExchange.view (exchange : HttpExchange) : PendingRequest :=
  ⟨npssoFromCookie exchange.request.cookies,
    exchange.response.map fun response => effectOf response.setCookie⟩

namespace Browser

/-- The browser, as the session sees it. -/
def view (s : Browser) : SessionState := ⟨session s.jar, s.exchanges.map HttpExchange.view⟩

/-- An event, as the session sees it. -/
def events (s : Browser) : BrowserEvent → List SessionEvent
  | .send request => [.start (s.jar.carries request.path)]
  | .serve i server =>
    (s.exchanges[i]?.map fun exchange =>
      .answer i (effectOf (app server exchange.request).response.setCookie)).toList
  | .receive i => [.finish i]
  | .lose i => [.lose i]
  | .keepOther _ _ _ => []
  | .forget key => if key = sessionKey then [.forget] else []

/-- One event of the session. -/
lemma run_singleton {t t' : SessionState} {e : SessionEvent} (h : t.step e = some t') :
    sessionSystem.run t [e] = some t' :=
  (TransitionSystem.run_cons _).mpr ⟨t', h, rfl⟩

/-- **A step of the browser** is what the session sees of it.

**Proof sketch.** By the kind of the step. A request carries the NPSSO that the server will read
from it (`npssoFromCookie_attach`). An answer gets the effect of its headers at once, and the
session has it only when the answer arrives: the headers then change the cookie just as the effect
says (`SetsCookie.spec`, by the invariant that every answer on its way is one of the server). A step
of another cookie leaves the session cookie (`get_set_of_isForeign`). -/
lemma run_events {s s' : Browser} {e : BrowserEvent} (hs : s.Inv)
    (h : browserSystem.step s e = some s') :
    sessionSystem.run s.view (s.events e) = some s'.view := by
  cases steps_of_step h with
  | send request =>
    apply run_singleton
    have hread := npssoFromCookie_attach hs.jar request
    simp only [SessionState.step, view, List.map_append, List.map_singleton, HttpExchange.view,
      hread]
    rfl
  | @serve i request server hrequest =>
    have hpending : s.view.pending[i]? = some ⟨npssoFromCookie request.cookies, none⟩ := by
      show (s.exchanges.map HttpExchange.view)[i]? = _
      rw [List.getElem?_map, hrequest]
      rfl
    have hevents : s.events (.serve i server) =
        [.answer i (effectOf (app server request).response.setCookie)] := by
      simp only [events, hrequest, Option.map_some, Option.toList_some]
    rw [hevents]
    apply run_singleton
    simp only [SessionState.step, hpending]
    simp only [view, List.map_set]
    rfl
  | @receive i request response hresponse =>
    have hpending : s.view.pending[i]? =
        some ⟨npssoFromCookie request.cookies, some (effectOf response.setCookie)⟩ := by
      show (s.exchanges.map HttpExchange.view)[i]? = _
      rw [List.getElem?_map, hresponse]
      rfl
    obtain ⟨server, effect, hcookie⟩ := hs.setsCookie hresponse
    obtain ⟨heffect, -, hsession⟩ := hcookie.spec hs.jar request.path
    apply run_singleton
    simp only [SessionState.step, hpending]
    simp only [view, List.eraseIdx_map, hsession, heffect]
  | @lose i hi =>
    apply run_singleton
    have hlength : i < s.view.pending.length := by
      show i < (s.exchanges.map HttpExchange.view).length
      rwa [List.length_map]
    simp only [SessionState.step, if_pos hlength]
    simp only [view, List.eraseIdx_map]
  | keepOther path hforeign =>
    show some s.view = some _
    unfold view
    rw [session_eq_of_get (get_set_of_isForeign hforeign)]
  | forget key =>
    by_cases hkey : key = sessionKey
    · simp only [events, if_pos hkey]
      apply run_singleton
      have hnone : session (s.jar.erase key) = none := by
        unfold session
        rw [InsertionMap.get_erase, if_pos hkey.symm]
        rfl
      simp only [SessionState.step, view, hnone]
    · simp only [events, if_neg hkey]
      have hsame : session (s.jar.erase key) = session s.jar := by
        apply session_eq_of_get
        rw [InsertionMap.get_erase, if_neg (Ne.symm hkey)]
      show some s.view = some _
      simp only [view, hsame]

end Browser

/-- **The effect of an answer** is one that the server has a reason for. -/
lemma setsCookie_effectOf (server : Server) (request : HttpRequest) :
    SetsCookie server request (app server request).response.setCookie
      (effectOf (app server request).response.setCookie) := by
  obtain ⟨effect, heffect⟩ := exists_setsCookie_app server request
  have hempty := (Browser.inv_of_reachable TransitionSystem.Reachable.init).jar
  rw [(heffect.spec hempty request.path).1]
  exact heffect

/-- The browser reads from the headers of an effect this effect. -/
lemma effectOf_setCookie {server : Server} {request : HttpRequest} {effect : SessionEffect}
    (h : ChangesSession server request effect) : effectOf effect.setCookie = effect := by
  cases h with
  | signIn hoperation hmedia hbody hnpsso haccepted =>
    exact effectOf_signInCookie (exists_headerValue_signInCookie hnpsso).1
  | signOut hoperation => decide
  | rejection hrejects => decide

/-- What a request asks for is the effect of its answer, unless its handling panics. -/
lemma effectOf_of_changesSession {server : Server} {request : HttpRequest} {effect : SessionEffect}
    (h : ChangesSession server request effect)
    (hpanic : server.panics (trimTrailingSlash request) = false) :
    effectOf (app server request).response.setCookie = effect := by
  rw [setCookie_of_changesSession h hpanic]
  exact effectOf_setCookie h

/-- **The browser and the server are a session.** What the session sees of the browser starts as a
session, and each step of the browser is a step of the session, or none. The effect of an answer is
one of three: a sign-in that was accepted enters the session with its NPSSO, a sign-out and a
rejection of the NPSSO of the request leave it, and every other answer keeps it. No answer misses
its effect unless its handling panics: each sign-in that is accepted enters the session, and each
sign-out and each rejection leaves it. And from the cookies of any request the server reads the
NPSSO of the session where the request lies under the path of the cookie and its cookies are all of
visible ASCII, and none elsewhere.

**Proof sketch.** The invariant of the jar says that it holds at most one cookie of the session, and
a valid one. A step of the browser is a request or an answer: a request reads the jar
(`npssoFromCookie_attach`), and an answer writes to it what its cookies say (`setsCookie_effectOf`),
which is one event of the session or none (`Browser.run_events`). The handlers set the cookies of
the effect that the request asks for (`setCookie_of_changesSession`), and the browser reads them
back. -/
theorem browser_refines_session :
    browserSystem.Simulates sessionSystem Browser.view Browser.events ∧
    (∀ server request, SetsCookie server request (app server request).response.setCookie
      (effectOf (app server request).response.setCookie)) ∧
    (∀ server request effect, ChangesSession server request effect →
      server.panics (trimTrailingSlash request) = false →
      effectOf (app server request).response.setCookie = effect) ∧
    ∀ s, browserSystem.Reachable s → ∀ request,
      npssoFromCookie (CookieJar.attach s.jar request).cookies =
        if pathMatches request.path "/api".toList && s.jar.isPlain request.path then s.view.current
        else none := by
  refine ⟨⟨rfl, ?_⟩, setsCookie_effectOf, ?_, ?_⟩
  · intro s e s' hs hstep
    exact Browser.run_events (Browser.inv_of_reachable hs) hstep
  · intro server request effect h hpanic
    exact effectOf_of_changesSession h hpanic
  · intro s hs request
    exact npssoFromCookie_attach (Browser.inv_of_reachable hs).jar request

/-- A sign-in beside another cookie. -/
def sampleRun : List BrowserEvent :=
  [.keepOther "lang".toList "/".toList "en".toList, .send (sampleRequest .signIn none),
    .serve 0 (sampleServer none), .receive 0]

/-- The sign-in runs. -/
lemma isSome_run_sampleRun : (browserSystem.run browserSystem.init sampleRun).isSome = true := by
  decide +kernel

/-- The browser after the sign-in. -/
def sampleBrowser : Browser :=
  (browserSystem.run browserSystem.init sampleRun).get isSome_run_sampleRun

/-- The sign-in leads there. -/
lemma run_sampleRun : browserSystem.run browserSystem.init sampleRun = some sampleBrowser :=
  (Option.some_get _).symm

/-- After the sign-in the session is the accepted NPSSO. A cookie with another byte hides it. A
sign-out leaves the session, and so does a list whose NPSSO is rejected. -/
theorem browser_refines_session_sample :
    npssoFromCookie
        (CookieJar.attach sampleBrowser.jar (sampleRequest .listWishlistGames none)).cookies =
      some { expose := "abcdefgh01234567" } ∧
    (∃ s, browserSystem.step sampleBrowser
        (.keepOther "name".toList "/".toList "caf\u00e9".toList) = some s ∧
      npssoFromCookie (CookieJar.attach s.jar (sampleRequest .listWishlistGames none)).cookies =
        none) ∧
    effectOf (app (sampleServer none) (sampleRequest .signIn none)).response.setCookie =
      .enter { expose := "abcdefgh01234567" } ∧
    effectOf (app (sampleServer none) (sampleRequest .signOut none)).response.setCookie = .leave ∧
    effectOf (app (sampleServer (some .sessionRejected))
      (sampleRequest .listWishlistGames none)).response.setCookie = .leave := by
  have hreachable : browserSystem.Reachable sampleBrowser := ⟨sampleRun, run_sampleRun⟩
  obtain ⟨-, -, hchanges, hread⟩ := browser_refines_session
  have hkeep : browserSystem.step sampleBrowser
      (.keepOther "name".toList "/".toList "caf\u00e9".toList) = some { sampleBrowser with
        jar := sampleBrowser.jar.set ("name".toList, "/".toList) "caf\u00e9".toList } := rfl
  refine ⟨(hread _ hreachable _).trans (by decide +kernel), ⟨_, hkeep, ?_⟩, ?_, ?_, ?_⟩
  · exact (hread _ (hreachable.step hkeep) _).trans (by decide +kernel)
  · refine hchanges _ _ _ (.signIn (operation?_sampleRequest .signIn none) ?_ rfl ?_ rfl) rfl
    · decide +kernel
    · decide +kernel
  · exact hchanges _ _ _ (.signOut (operation?_sampleRequest .signOut none)) rfl
  · have hcookie : npssoFromCookie [asciiBytes "npsso=synthetic"] =
        some { expose := "synthetic" } := by decide +kernel
    exact hchanges _ _ _ (.rejection ⟨.listWishlistGames, _, _, _,
      operation?_sampleRequest .listWishlistGames none, rfl, hcookie, rfl⟩) rfl

end PsStore
