import Mathlib.Data.List.Sort
import PsStore.Lib.InsertionMap
import PsStore.Lib.Trim

set_option relaxedAutoImplicit false
set_option autoImplicit false

/-!
# Cookie jars

The cookies that a browser keeps of one origin: it reads them from `Set-Cookie` headers and sends
them back in `Cookie` headers. A cookie is known by its name and its path. The `Expires` attribute
gives way to `Max-Age` and is not read: the headers in question have a `Max-Age`.

## Main definitions

* `CookieJar` — the values of the kept cookies, by name and path.
* `SetCookie`, `SetCookie.parse` — a `Set-Cookie` header as the browser reads it.
* `CookieJar.store` — the jar after a `Set-Cookie` header.
* `CookieJar.header` — the `Cookie` header of a request.

## Main results

* `CookieJar.get_store` — what storing a header changes.
* `CookieJar.mem_forPath` — the cookies of a request are those whose path matches.
* `CookieJar.splitOn_header` — the pairs of the header are these cookies.
-/

namespace PsStore

/-! ## The Set-Cookie header -/

/-- The blanks of a header. -/
def isHeaderBlank (c : Char) : Bool := c == ' ' || c == '\t'

/-- The name and the value of a pair, without blanks around them. -/
def nameAndValue (pair : List Char) : Option (List Char × List Char) :=
  match pair.dropWhile (· ≠ '=') with
  | [] => none
  | _ :: value => some (trimBy isHeaderBlank (pair.takeWhile (· ≠ '=')), trimBy isHeaderBlank value)

/-- A pair is cut at its first equals sign. -/
lemma nameAndValue_append {name : List Char} (h : '=' ∉ name) (value : List Char) :
    nameAndValue (name ++ '=' :: value) =
      some (trimBy isHeaderBlank name, trimBy isHeaderBlank value) := by
  have hname : ∀ c ∈ name, decide (c ≠ '=') = true := by
    intro c hc
    rw [decide_eq_true_eq]
    rintro rfl
    exact h hc
  unfold nameAndValue
  rw [List.dropWhile_append_of_pos hname, List.dropWhile_cons_of_neg (by decide),
    List.takeWhile_append_of_pos hname, List.takeWhile_cons_of_neg (by decide), List.append_nil]

/-- A `Set-Cookie` header. -/
structure SetCookie where
  name : List Char
  value : List Char
  /-- The attributes, with their names in lower case. -/
  attributes : List (List Char × List Char)
deriving DecidableEq

namespace SetCookie

/-- An attribute. Without an equals sign its value is empty. -/
def attributeOf (text : List Char) : List Char × List Char :=
  match nameAndValue text with
  | some (name, value) => (name.map Char.toLower, value)
  | none => ((trimBy isHeaderBlank text).map Char.toLower, [])

/-- The header as the browser reads it. -/
def parse (header : List Char) : Option SetCookie :=
  match header.splitOn ';' with
  | [] => none
  | pair :: attributes =>
    match nameAndValue pair with
    | some (name, value) =>
      if name = [] then none else some ⟨name, value, attributes.map attributeOf⟩
    | none => none

/-- The values of an attribute. -/
def valuesOf (cookie : SetCookie) (name : String) : List (List Char) :=
  (cookie.attributes.filter fun entry => entry.1 = name.toList).map Prod.snd

/-- A number of seconds that ends a cookie at once, or `none` for another text. -/
def endsAtOnce (maxAge : List Char) : Option Bool :=
  match maxAge with
  | [] => none
  | c :: digits =>
    if (c = '-' ∨ c.isDigit) ∧ digits.all Char.isDigit then
      some (c == '-' || maxAge.all (· == '0'))
    else none

/-- The cookie is over when it arrives: the last valid `Max-Age` decides. -/
def isExpired (cookie : SetCookie) : Bool :=
  ((cookie.valuesOf "max-age").filterMap endsAtOnce).getLast? == some true

/-- The path of a cookie without a path: that of the request up to its last slash. -/
def defaultPath (requestPath : List Char) : List Char :=
  let front := (requestPath.rdropWhile (· ≠ '/')).dropLast
  if front.head? = some '/' then front else ['/']

/-- The path of the cookie: the last `Path` decides. -/
def path (cookie : SetCookie) (requestPath : List Char) : List Char :=
  match (cookie.valuesOf "path").getLast? with
  | some ('/' :: rest) => '/' :: rest
  | _ => defaultPath requestPath

end SetCookie

/-! ## The jar -/

/-- The values of the cookies, by name and path. -/
abbrev CookieJar := InsertionMap (List Char × List Char) (List Char)

/-- The request path lies under the path of a cookie. -/
def pathMatches (requestPath path : List Char) : Bool :=
  requestPath == path ||
    (path.isPrefixOf requestPath &&
      (path.getLast? == some '/' || (requestPath.drop path.length).head? == some '/'))

namespace CookieJar

/-- The jar after a `Set-Cookie` header in the answer to a request. -/
def store (jar : CookieJar) (requestPath header : List Char) : CookieJar :=
  match SetCookie.parse header with
  | none => jar
  | some cookie =>
    let key := (cookie.name, cookie.path requestPath)
    if cookie.isExpired then jar.erase key else jar.set key cookie.value

/-- The cookies of a request, as names and values. A longer path comes first. -/
def forPath (jar : CookieJar) (requestPath : List Char) : List (List Char × List Char) :=
  ((jar.entries.filter fun entry => pathMatches requestPath entry.1.2).insertionSort
    fun a b => b.1.2.length ≤ a.1.2.length).map fun entry => (entry.1.1, entry.2)

/-- The text of a pair. -/
def pairText (cookie : List Char × List Char) : List Char := cookie.1 ++ '=' :: cookie.2

/-- The `Cookie` header of a request, or `none` where no cookie belongs to it. -/
def header (jar : CookieJar) (requestPath : List Char) : Option (List Char) :=
  match jar.forPath requestPath with
  | [] => none
  | cookies => some ([';', ' '].intercalate (cookies.map pairText))

/-! ### The jar after a header -/

variable {jar : CookieJar} {requestPath : List Char}

/-- **Storing** a cookie sets the value of its name and path, or removes it when it is over. -/
lemma get_store {headerText : List Char} {cookie : SetCookie}
    (h : SetCookie.parse headerText = some cookie) (key : List Char × List Char) :
    (jar.store requestPath headerText).get key =
      if key = (cookie.name, cookie.path requestPath) then
        if cookie.isExpired then none else some cookie.value
      else jar.get key := by
  unfold store
  rw [h]
  dsimp only
  split_ifs with hexpired hkey hkey
  · rw [InsertionMap.get_erase, if_pos hkey]
  · rw [InsertionMap.get_erase, if_neg hkey]
  · rw [InsertionMap.get_set, if_pos hkey]
  · rw [InsertionMap.get_set, if_neg hkey]

/-! ### The header of a request -/

/-- **The cookies of a request** are those whose path matches. -/
lemma mem_forPath {name value : List Char} :
    (name, value) ∈ jar.forPath requestPath ↔
      ∃ path, jar.get (name, path) = some value ∧ pathMatches requestPath path = true := by
  unfold forPath
  rw [List.mem_map]
  constructor
  · intro h
    obtain ⟨⟨⟨name', path⟩, value'⟩, hentry, heq⟩ := h
    obtain ⟨rfl, rfl⟩ := Prod.mk.inj heq
    rw [List.mem_insertionSort, List.mem_filter, InsertionMap.mem_entries_iff] at hentry
    exact ⟨path, hentry⟩
  · intro h
    obtain ⟨path, hget, hpath⟩ := h
    refine ⟨((name, path), value), ?_, rfl⟩
    rw [List.mem_insertionSort, List.mem_filter, InsertionMap.mem_entries_iff]
    exact ⟨hget, hpath⟩

/-- A blank behind each separator goes to the text after it. -/
lemma intercalate_blank (first : List Char) (rest : List (List Char)) :
    [';', ' '].intercalate (first :: rest) =
      [';'].intercalate (first :: rest.map fun text => ' ' :: text) := by
  induction rest generalizing first with
  | nil => rfl
  | cons second rest ih =>
    rw [List.map_cons, List.intercalate_cons_cons, List.intercalate_cons_cons, ih]
    rw [List.append_assoc, List.append_assoc]
    cases rest with
    | nil => rfl
    | cons third rest =>
      rw [List.map_cons, List.intercalate_cons_cons, List.intercalate_cons_cons]
      rfl

/-- **The pairs of the header** are the cookies of the request, in their order. -/
lemma splitOn_header {text : List Char} (h : jar.header requestPath = some text)
    (hpairs : ∀ cookie ∈ jar.forPath requestPath, ';' ∉ pairText cookie) :
    ∃ cookie rest, jar.forPath requestPath = cookie :: rest ∧
      text.splitOn ';' = pairText cookie :: rest.map fun other => ' ' :: pairText other := by
  unfold header at h
  cases hcookies : jar.forPath requestPath with
  | nil =>
    rw [hcookies] at h
    cases h
  | cons cookie rest =>
    rw [hcookies] at h hpairs
    obtain rfl := Option.some.inj h
    refine ⟨cookie, rest, rfl, ?_⟩
    rw [List.map_cons, intercalate_blank, List.map_map]
    apply List.splitOn_intercalate ';'
    · intro pair hpair
      rcases List.mem_cons.mp hpair with rfl | hpair
      · exact hpairs cookie List.mem_cons_self
      · obtain ⟨other, hother, rfl⟩ := List.mem_map.mp hpair
        intro hmem
        rcases List.mem_cons.mp hmem with hblank | hmem
        · exact absurd hblank (by decide)
        · exact hpairs other (List.mem_cons_of_mem _ hother) hmem
    · exact List.cons_ne_nil _ _

/-- The characters of the header are those of the pairs and the separators. -/
lemma mem_header {text : List Char} (h : jar.header requestPath = some text) {c : Char}
    (hc : c ∈ text) :
    c = ';' ∨ c = ' ' ∨ ∃ cookie ∈ jar.forPath requestPath, c ∈ pairText cookie := by
  unfold header at h
  cases hcookies : jar.forPath requestPath with
  | nil =>
    rw [hcookies] at h
    cases h
  | cons cookie rest =>
    rw [hcookies] at h
    obtain rfl := Option.some.inj h
    clear hcookies
    generalize cookie :: rest = cookies at hc
    induction cookies with
    | nil => cases hc
    | cons first others ih =>
      cases others with
      | nil =>
        rw [List.map_cons, List.map_nil, List.intercalate_singleton] at hc
        exact Or.inr (Or.inr ⟨first, List.mem_cons_self, hc⟩)
      | cons second others =>
        rw [List.map_cons, List.map_cons, List.intercalate_cons_cons, List.mem_append,
          List.mem_append] at hc
        rcases hc with (hc | hc) | hc
        · exact Or.inr (Or.inr ⟨first, List.mem_cons_self, hc⟩)
        · simp only [List.mem_cons, List.not_mem_nil, or_false] at hc
          exact hc.imp id Or.inl
        · rw [← List.map_cons] at hc
          rcases ih hc with hc | hc | ⟨other, hother, hc⟩
          · exact Or.inl hc
          · exact Or.inr (Or.inl hc)
          · exact Or.inr (Or.inr ⟨other, List.mem_cons_of_mem _ hother, hc⟩)

end CookieJar

end PsStore
