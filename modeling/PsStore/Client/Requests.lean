import PsStore.Client.Answers
import PsStore.Web.SearchTerm

set_option relaxedAutoImplicit false
set_option autoImplicit false

/-!
# The requests of the client

The requests that the functions of the facade send: the URL of the generated client, as the URL
parser of the browser leaves it, and the body. A string argument with a lone surrogate gives no
request, since `encodeURIComponent` throws.

## Main definitions

* `Call` — a call of the facade with its arguments.
* `urlPath`, `urlQuery` — what the URL parser makes of a path and of a query.
* `Call.request` — the request of a call.
* `Serves` — what the services answer to a call.

## Main results

* `pagination_query`, `browse_query` — the server reads the parameters of a list and of a browse
  request.
* `game_page_iff` — the ids for which the call of the game page looks up a game.
* `answers_of_serves` — the handlers of the server get the arguments of every call.
* `call_round_trip` — a call returns what the service answered.
-/

namespace PsStore

open Json

namespace Client

/-! ## The calls -/

/-- A call of the facade. -/
inductive Call where
  | fetchNewGames (offset size : ℕ)
  | fetchUpcomingGames (offset size : ℕ)
  | fetchDiscountedGames (offset size : ℕ)
  | fetchMonthlyGames (offset size : ℕ)
  | fetchSearchGames (term : JsString) (offset size : ℕ)
  | fetchGenres
  | fetchBrowseGames (genre : JsString) (order : BrowseOrder) (offset size : ℕ)
  | fetchGame (gameId : JsString)
  | fetchPurchasedGames
  | fetchWishlistGames
  /-- The NPSSO has no lone surrogate. -/
  | signIn (npsso : String)
  | signOut

namespace Call

/-- The route of the call. -/
def operation : Call → Operation
  | .fetchNewGames _ _ => .listNewGames
  | .fetchUpcomingGames _ _ => .listUpcomingGames
  | .fetchDiscountedGames _ _ => .listDiscountedGames
  | .fetchMonthlyGames _ _ => .listMonthlyGames
  | .fetchSearchGames _ _ _ => .searchGames
  | .fetchGenres => .listGenres
  | .fetchBrowseGames _ _ _ _ => .browseGames
  | .fetchGame _ => .getGame
  | .fetchPurchasedGames => .listPurchasedGames
  | .fetchWishlistGames => .listWishlistGames
  | .signIn _ => .signIn
  | .signOut => .signOut

/-- The method of the request. -/
def method : Call → Method
  | .signIn _ => .post
  | .signOut => .delete
  | _ => .get

/-- The path of the URL, with the game id in place of its parameter. -/
def path : Call → Option (List Char)
  | .fetchNewGames _ _ => some "/api/games/new".toList
  | .fetchUpcomingGames _ _ => some "/api/games/upcoming".toList
  | .fetchDiscountedGames _ _ => some "/api/games/discounted".toList
  | .fetchMonthlyGames _ _ => some "/api/games/monthly".toList
  | .fetchSearchGames _ _ _ => some "/api/games/search".toList
  | .fetchGenres => some "/api/games/genres".toList
  | .fetchBrowseGames _ _ _ _ => some "/api/games/browse".toList
  | .fetchGame gameId => (encodeURIComponent gameId).map fun id => gamePath ++ id
  | .fetchPurchasedGames => some "/api/games/purchased".toList
  | .fetchWishlistGames => some "/api/games/wishlist".toList
  | .signIn _ | .signOut => some "/api/session".toList

/-- The parameters of the query. -/
def params : Call → List (String × JsString)
  | .fetchNewGames offset size | .fetchUpcomingGames offset size
  | .fetchDiscountedGames offset size | .fetchMonthlyGames offset size =>
    [("offset", numberText offset), ("size", numberText size)]
  | .fetchSearchGames term offset size =>
    [("q", term), ("offset", numberText offset), ("size", numberText size)]
  | .fetchBrowseGames genre order offset size =>
    [("genre", genre), ("order", toUtf16 order.asStr.toList), ("offset", numberText offset),
      ("size", numberText size)]
  | _ => []

end Call

/-- The body of a sign-in. -/
def signInBody (npsso : String) : Value := .object [("npsso", .string npsso)]

/-! ## The URL parser -/

/-- A segment that stands for the current directory. An escaped dot counts. -/
def isSingleDot (segment : List Char) : Bool :=
  FormUrlencoded.percentDecode (toUtf8 segment) == toUtf8 ['.']

/-- A segment that stands for the parent directory. An escaped dot counts. -/
def isDoubleDot (segment : List Char) : Bool :=
  FormUrlencoded.percentDecode (toUtf8 segment) == toUtf8 ['.', '.']

/-- The segments of a path without dot segments, behind those that are done. -/
def resolveSegments (done : List (List Char)) : List (List Char) → List (List Char)
  | [] => done
  | [last] =>
    if isDoubleDot last then done.dropLast ++ [[]]
    else if isSingleDot last then done ++ [[]]
    else done ++ [last]
  | segment :: next :: rest =>
    if isDoubleDot segment then resolveSegments done.dropLast (next :: rest)
    else if isSingleDot segment then resolveSegments done (next :: rest)
    else resolveSegments (done ++ [segment]) (next :: rest)

/-- The path of a URL: without dot segments. -/
def urlPath (path : List Char) : List Char :=
  '/' :: ['/'].intercalate (resolveSegments [] (path.tail.splitOn '/'))

/-- A character in the query of a URL: an apostrophe is escaped. -/
def queryChar (c : Char) : List Char := if c = '\x27' then ['%', '2', '7'] else [c]

/-- The query of a URL. -/
def urlQuery (query : String) : String := String.ofList (query.toList.flatMap queryChar)

/-- The longest body that the server reads. -/
def bodyLimit : ℕ := 2097152

/-- The body of a request as the server reads it. -/
def received (bytes : List UInt8) : Except BytesRejection (List UInt8) :=
  if bytes.length ≤ bodyLimit then .ok bytes else .error .tooLarge

/-- The request of a call with the cookies of the browser, for a path and a query. -/
def Call.requestAt (call : Call) (cookies : List (List UInt8)) (path : List Char)
    (query : Option String) : HttpRequest where
  method := call.method
  path := urlPath path
  query := query.map urlQuery
  cookies := cookies
  contentType :=
    match call with
    | .signIn _ => some (asciiBytes "application/json")
    | _ => none
  accept := some (asciiBytes "*/*")
  body :=
    match call with
    | .signIn npsso => received (toUtf8 (write (signInBody npsso)))
    | _ => .ok []

/-- The query of a call, when it has parameters; or `none` where the serializer throws. -/
def Call.query (call : Call) : Option (Option String) :=
  if call.params = [] then some none else (querySerializer call.params).map some

/-- The request of a call, or `none` where the call throws before it sends one. -/
def Call.request (call : Call) (cookies : List (List UInt8)) : Option HttpRequest := do
  let path ← call.path
  let query ← call.query
  some (call.requestAt cookies path query)

/-! ## The query in the server -/

/-- The escape of a byte in the query of a URL. -/
def queryByte (b : UInt8) : List UInt8 :=
  if b = 0x27 then [0x25, 0x32, 0x37] else FormUrlencoded.componentByte b

/-- The escape of a byte is read back. -/
lemma percentDecode_queryByte (b : UInt8) (rest : List UInt8) :
    FormUrlencoded.percentDecode ((queryByte b).map FormUrlencoded.plusToSpace ++ rest) =
      b :: FormUrlencoded.percentDecode rest := by
  unfold queryByte
  split_ifs with h
  · subst h
    exact FormUrlencoded.percentDecode_escape 0x27 rest
  · exact FormUrlencoded.percentDecode_componentByte b rest

/-- The apostrophes of a component are escaped with its other bytes. -/
lemma urlQuery_encodeComponent (text : List Char) :
    (asciiText (FormUrlencoded.encodeComponent text)).flatMap queryChar =
      asciiText ((toUtf8 text).flatMap queryByte) := by
  have hbyte : ∀ b : UInt8, (asciiText (FormUrlencoded.componentByte b)).flatMap queryChar =
      asciiText (queryByte b) := by
    apply FormUrlencoded.forall_of_byte
    decide +kernel
  unfold FormUrlencoded.encodeComponent
  generalize toUtf8 text = bytes
  induction bytes with
  | nil => rfl
  | cons b bytes ih =>
    have happend : ∀ front tail : List UInt8,
        asciiText (front ++ tail) = asciiText front ++ asciiText tail :=
      fun front tail => List.map_append
    rw [List.flatMap_cons, List.flatMap_cons, happend, happend, List.flatMap_append, hbyte, ih]

/-- Escaping a text with separators escapes its parts and the separators. -/
lemma flatMap_intercalate {f : Char → List Char} (separator : List Char)
    (texts : List (List Char)) :
    (separator.intercalate texts).flatMap f =
      (separator.flatMap f).intercalate (texts.map fun text => text.flatMap f) := by
  induction texts with
  | nil => rfl
  | cons text texts ih =>
    cases texts with
    | nil => rw [List.map_singleton, List.intercalate_singleton, List.intercalate_singleton]
    | cons next texts =>
      rw [List.intercalate_cons_cons, List.flatMap_append, List.flatMap_append, ih, List.map_cons,
        List.map_cons, List.map_cons, List.intercalate_cons_cons]

/-- An escape of the query is ASCII and holds no separator. -/
lemma queryByte_spec {text : List Char} {b : UInt8} (h : b ∈ (toUtf8 text).flatMap queryByte) :
    b.toNat ≤ 0x7f ∧ b ∉ [0x26, 0x3d] := by
  have hall : ∀ source : UInt8, (queryByte source).all (fun b =>
      decide (b.toNat ≤ 0x7f ∧ b ∉ [0x26, 0x3d])) = true := by
    apply FormUrlencoded.forall_of_byte
    decide +kernel
  obtain ⟨source, -, hb⟩ := List.mem_flatMap.mp h
  exact of_decide_eq_true (List.all_eq_true.mp (hall source) b hb)

/-- The bytes of a piece. -/
lemma toUtf8_queryPiece (name text : List Char) :
    toUtf8 (name ++ '=' :: asciiText ((toUtf8 text).flatMap queryByte)) =
      toUtf8 name ++ 0x3d :: (toUtf8 text).flatMap queryByte := by
  rw [toUtf8_append]
  congr 1
  show 0x3d :: toUtf8 (asciiText ((toUtf8 text).flatMap queryByte)) = _
  rw [toUtf8_asciiText fun b hb => (queryByte_spec hb).1]

/-- The names of the parameters. -/
def paramNames : List String := ["q", "genre", "order", "offset", "size"]

/-- A name of a parameter stands for itself. -/
lemma isQueryName_of_mem {name : String} (h : name ∈ paramNames) :
    IsQueryName name ∧ name.toList.flatMap queryChar = name.toList := by
  have hall : ∀ name ∈ paramNames, IsQueryName name ∧
      name.toList.flatMap queryChar = name.toList := by
    unfold IsQueryName
    decide +kernel
  exact hall name h

/-- **The query on the wire** is read back as its parameters.

**Proof sketch.** The serializer encodes each value and joins the pairs, and the URL parser encodes
the apostrophes on top (`urlQuery_encodeComponent`). No piece has a separator in it, so the pairs
are the pieces (`FormUrlencoded.parse_intercalate`), and each value is decoded to its text. -/
lemma parse_urlQuery {params : List (String × List Char)}
    (h : ∀ param ∈ params, param.1 ∈ paramNames) :
    ∃ raw, querySerializer (params.map fun param => (param.1, toUtf16 param.2)) = some raw ∧
      (Query.parse (some (urlQuery raw))).pairs =
        params.map fun param => (param.1, String.ofList param.2) := by
  refine ⟨_, querySerializer_toUtf16 params, ?_⟩
  have hquery : (urlQuery (String.ofList (['&'].intercalate (params.map fun param =>
      param.1.toList ++ '=' :: asciiText (FormUrlencoded.encodeComponent param.2))))).toList =
      ['&'].intercalate (params.map fun param =>
        param.1.toList ++ '=' :: asciiText ((toUtf8 param.2).flatMap queryByte)) := by
    unfold urlQuery
    rw [String.toList_ofList, String.toList_ofList, flatMap_intercalate, List.map_map]
    have hpieces : params.map ((fun text => text.flatMap queryChar) ∘ fun param =>
        param.1.toList ++ '=' :: asciiText (FormUrlencoded.encodeComponent param.2)) =
        params.map fun param =>
          param.1.toList ++ '=' :: asciiText ((toUtf8 param.2).flatMap queryByte) := by
      apply List.map_congr_left
      intro param hparam
      rw [Function.comp_apply, List.flatMap_append, List.flatMap_cons,
        (isQueryName_of_mem (h param hparam)).2, urlQuery_encodeComponent]
      rfl
    rw [hpieces]
    rfl
  have hparse : ∀ query : String, (Query.parse (some query)).pairs =
      FormUrlencoded.parse (toUtf8 query.toList) := fun query => rfl
  have hseparator : toUtf8 ['&'] = [0x26] := by decide
  rw [hparse, hquery, toUtf8_intercalate, List.map_map, hseparator,
    FormUrlencoded.parse_intercalate, List.map_map]
  · apply List.map_congr_left
    intro param hparam
    obtain ⟨-, hequals, hdecode⟩ := (isQueryName_of_mem (h param hparam)).1
    show FormUrlencoded.parsePiece (toUtf8 _) = _
    rw [toUtf8_queryPiece, FormUrlencoded.parsePiece_append hequals, hdecode,
      FormUrlencoded.decode_flatMap percentDecode_queryByte]
  · intro piece hpiece
    obtain ⟨param, -, rfl⟩ := List.mem_map.mp hpiece
    show toUtf8 _ ≠ []
    rw [toUtf8_queryPiece]
    simp
  · intro piece hpiece
    obtain ⟨param, hparam, rfl⟩ := List.mem_map.mp hpiece
    show (0x26 : UInt8) ∉ toUtf8 _
    rw [toUtf8_queryPiece, List.mem_append, List.mem_cons]
    rintro (hname | hequals | hvalue)
    · exact (isQueryName_of_mem (h param hparam)).1.1 hname
    · exact absurd hequals (by decide)
    · exact absurd (queryByte_spec hvalue).2 (by decide)

/-- A page that a list serves. -/
def ServesPage (maxSize : ℕ) (page : Page) : Prop :=
  page.offset ≤ 2 ^ 53 - 1 ∧ 1 ≤ page.size ∧ page.size ≤ maxSize

/-- The parameters of a page. -/
def pageParams (page : Page) : List (String × List Char) :=
  [("offset", Nat.toDigits 10 page.offset), ("size", Nat.toDigits 10 page.size)]

/-- The page of a query with these parameters. -/
lemma page_of_pageParams {query : Query} {page : Page} {maxSize : ℕ}
    (front : List (String × String)) (hfront : ∀ pair ∈ front, pair.1 ≠ "offset" ∧ pair.1 ≠ "size")
    (hquery : query.pairs =
      front ++ (pageParams page).map fun param => (param.1, String.ofList param.2))
    (hpage : ServesPage maxSize page) (hmax : maxSize ≤ 2 ^ 53 - 1) (default : ℕ) :
    query.offset = .ok page.offset ∧ query.size default maxSize = .ok page.size := by
  obtain ⟨hoffset, hmin, hle⟩ := hpage
  have hnone : ∀ key ∈ ["offset", "size"], front.filter (fun pair => pair.1 = key) = [] := by
    intro key hkey
    rw [List.filter_eq_nil_iff]
    intro pair hpair
    simp only [List.mem_cons, List.not_mem_nil, or_false] at hkey
    rcases hkey with rfl | rfl
    · simpa using (hfront pair hpair).1
    · simpa using (hfront pair hpair).2
  constructor
  · apply Query.offset_of_toDigits _ hoffset
    simp [Query.values, hquery, List.filter_append, hnone "offset", pageParams]
  · apply Query.size_of_toDigits _ default hmin hle hmax
    simp [Query.values, hquery, List.filter_append, hnone "size", pageParams]

/-- **The query of a list** is read back as its page. -/
lemma pagination_query {page : Page} (hpage : ServesPage maxPageSize page) :
    ∃ raw, querySerializer
        [("offset", numberText page.offset), ("size", numberText page.size)] = some raw ∧
      pagination (some (urlQuery raw)) = .ok page := by
  obtain ⟨raw, hraw, hpairs⟩ := @parse_urlQuery (pageParams page) (by
    simp [pageParams, paramNames])
  refine ⟨raw, hraw, ?_⟩
  obtain ⟨hoffset, hsize⟩ := page_of_pageParams [] (by simp) hpairs hpage (by decide)
    defaultPageSize
  simp only [pagination, Query.page, hoffset, hsize]
  rfl

/-- **The query of a search** is read back as its term without white space at its ends and its
page. -/
lemma search_query {text : List Char} {page : Page} (hne : jsTrim text ≠ [])
    (hle : (toUtf16 (jsTrim text)).length ≤ searchMaxTermLength)
    (hpage : ServesPage searchMaxPageSize page) :
    ∃ raw, querySerializer [("q", toUtf16 text), ("offset", numberText page.offset),
        ("size", numberText page.size)] = some raw ∧
      search (some (urlQuery raw)) = .ok (jsTrim text, page) := by
  obtain ⟨raw, hraw, hpairs⟩ := @parse_urlQuery (("q", text) :: pageParams page) (by
    simp [pageParams, paramNames])
  refine ⟨raw, hraw, ?_⟩
  obtain ⟨hoffset, hsize⟩ := page_of_pageParams [("q", String.ofList text)] (by simp)
    hpairs hpage (by decide) searchMaxPageSize
  have hq : (Query.parse (some (urlQuery raw))).values "q" = [String.ofList text] := by
    simp [Query.values, hpairs, pageParams]
  have hterm : jsTrim (String.ofList text).toList = jsTrim text := by
    rw [String.toList_ofList]
  have hlength : utf16Len (jsTrim text) ≠ 0 := by
    rw [utf16Len_eq_length]
    intro hnil
    apply hne
    have hback := fromUtf16_toUtf16 (jsTrim text)
    rw [List.eq_nil_of_length_eq_zero hnil] at hback
    exact (Option.some.inj hback).symm
  have hsearch := search_of_query hq (by rwa [hterm]) (by rwa [hterm, utf16Len_eq_length])
    hoffset hsize
  rwa [hterm] at hsearch

/-- **The query of a browse request** is read back as its genre, its order and its page. -/
lemma browse_query (genre : GenreKey) (order : BrowseOrder) {page : Page}
    (hpage : ServesPage maxPageSize page) :
    ∃ raw, querySerializer [("genre", toUtf16 genre.text.toList),
        ("order", toUtf16 order.asStr.toList), ("offset", numberText page.offset),
        ("size", numberText page.size)] = some raw ∧
      browse (some (urlQuery raw)) = .ok (genre, order, page) := by
  obtain ⟨raw, hraw, hpairs⟩ := @parse_urlQuery
    (("genre", genre.text.toList) :: ("order", order.asStr.toList) :: pageParams page) (by
      simp [pageParams, paramNames])
  refine ⟨raw, hraw, ?_⟩
  obtain ⟨hoffset, hsize⟩ := page_of_pageParams
    [("genre", genre.text), ("order", order.asStr)] (by simp)
    (by rw [hpairs]; simp) hpage (by decide) defaultPageSize
  have hgenre : (Query.parse (some (urlQuery raw))).single "genre" = .ok (some genre.text) := by
    apply Query.single_of_values
    simp [Query.values, hpairs, pageParams]
  have horder : (Query.parse (some (urlQuery raw))).single "order" = .ok (some order.asStr) := by
    apply Query.single_of_values
    simp [Query.values, hpairs, pageParams]
  have hkey : GenreKey.parse genre.text = some genre := dif_pos genre.valid
  have hparse : BrowseOrder.parse order.asStr = some order := by
    cases order <;> decide
  simp only [browse, hgenre, horder, bind, Except.bind, Option.bind, hkey, hparse, Query.page,
    hoffset, hsize]

/-! ## The path of the game page -/

/-- The names under the path of the game pages that have a route of their own. -/
def reservedNames : List (List Char) :=
  ["new".toList, "upcoming".toList, "discounted".toList, "monthly".toList, "purchased".toList,
    "wishlist".toList, "search".toList, "genres".toList, "browse".toList]

/-- A text that stays a segment of its own under the path of the game pages. -/
def IsGameSegment (text : List Char) : Prop :=
  text ∉ reservedNames ∧ text ≠ ['.'] ∧ text ≠ ['.', '.']

/-- The encoding of a text as a segment. -/
def segmentOf (text : List Char) : List Char := asciiText (FormUrlencoded.encodeComponent text)

/-- The bytes of a segment. -/
lemma toUtf8_segmentOf (text : List Char) :
    toUtf8 (segmentOf text) = FormUrlencoded.encodeComponent text :=
  toUtf8_asciiText fun _ hb => (FormUrlencoded.encodeComponent_spec hb).1

/-- **The server reads the text** from the segment. -/
lemma pathParam_segmentOf (text : List Char) : pathParam (segmentOf text) = some text := by
  unfold pathParam fromUtf8
  rw [toUtf8_segmentOf, FormUrlencoded.percentDecode_encodeComponent, fromUtf8Lossy_toUtf8,
    if_pos rfl]

/-- Two texts with one segment are one text. -/
lemma segmentOf_injective {text text' : List Char} (h : segmentOf text = segmentOf text') :
    text = text' := by
  have hread := pathParam_segmentOf text
  rw [h, pathParam_segmentOf] at hread
  exact (Option.some.inj hread).symm

/-- A segment has no slash. -/
lemma slash_not_mem_segmentOf (text : List Char) : '/' ∉ segmentOf text := by
  intro h
  obtain ⟨b, hb, hslash⟩ := List.mem_map.mp h
  have hall : ∀ source : UInt8, (FormUrlencoded.componentByte source).all (fun b =>
      decide (Char.ofNat b.toNat ≠ '/')) = true := by
    apply FormUrlencoded.forall_of_byte
    decide +kernel
  obtain ⟨source, -, hb⟩ := List.mem_flatMap.mp hb
  exact of_decide_eq_true (List.all_eq_true.mp (hall source) b hb) hslash

/-- The segment is a dot segment exactly where the text is one. -/
lemma isDot_segmentOf (text dots : List Char) :
    (FormUrlencoded.percentDecode (toUtf8 (segmentOf text)) == toUtf8 dots) =
      decide (text = dots) := by
  rw [toUtf8_segmentOf, FormUrlencoded.percentDecode_encodeComponent, Bool.eq_iff_iff, beq_iff_eq,
    decide_eq_true_eq]
  constructor
  · intro h
    have hread := congrArg fromUtf8Lossy h
    rwa [fromUtf8Lossy_toUtf8, fromUtf8Lossy_toUtf8] at hread
  · rintro rfl
    rfl

/-- The path of a game page, as the URL parser leaves it.

**Proof sketch.** The path has three segments, of which the last has no slash. The parser drops a
dot and takes a segment back for two dots; the first two segments are neither, and the last one is a
dot or two exactly where the text is (`isDot_segmentOf`). -/
lemma urlPath_segmentOf (text : List Char) :
    urlPath (gamePath ++ segmentOf text) =
      if text = ['.', '.'] then "/api/".toList
      else if text = ['.'] then "/api/games/".toList
      else gamePath ++ segmentOf text := by
  have hjoin : gamePath ++ segmentOf text =
      '/' :: ['/'].intercalate ["api".toList, "games".toList, segmentOf text] := by
    rw [List.intercalate_cons_cons, List.intercalate_cons_cons, List.intercalate_singleton]
    rfl
  have hsplit : (gamePath ++ segmentOf text).tail.splitOn '/' =
      ["api".toList, "games".toList, segmentOf text] := by
    rw [hjoin, List.tail_cons]
    apply List.splitOn_intercalate '/'
    · intro segment hsegment
      simp only [List.mem_cons, List.not_mem_nil, or_false] at hsegment
      rcases hsegment with rfl | rfl | rfl
      · decide
      · decide
      · exact slash_not_mem_segmentOf text
    · exact List.cons_ne_nil _ _
  have happi : isDoubleDot "api".toList = false ∧ isSingleDot "api".toList = false ∧
      isDoubleDot "games".toList = false ∧ isSingleDot "games".toList = false := by
    decide +kernel
  obtain ⟨hdouble, hsingle, hdouble', hsingle'⟩ := happi
  unfold urlPath
  rw [hsplit]
  simp only [resolveSegments, hdouble, hsingle, hdouble', hsingle', Bool.false_eq_true, if_false]
  unfold isDoubleDot isSingleDot
  rw [isDot_segmentOf, isDot_segmentOf]
  simp only [decide_eq_true_eq]
  split_ifs
  · rfl
  · rfl
  · exact hjoin.symm

/-- The segment of a reserved name is the name. -/
lemma segmentOf_reserved : ∀ name ∈ reservedNames, segmentOf name = name := by
  decide +kernel

/-- The reserved names are the routes under the path of the game pages. -/
lemma lookup_gamePath (segment : List Char) :
    staticRoutes.lookup (gamePath ++ segment) = none ↔ segment ∉ reservedNames := by
  have hstrip : staticRoutes.filterMap (fun entry => stripFront gamePath entry.1) =
      reservedNames := by decide
  rw [List.lookup_eq_none_iff, ← hstrip, List.mem_filterMap]
  constructor
  · intro h hmem
    obtain ⟨entry, hentry, hfront⟩ := hmem
    rw [stripFront_eq_some_iff] at hfront
    exact bne_iff_ne.mp (h entry hentry) hfront.symm
  · intro h entry hentry
    rw [bne_iff_ne]
    intro hpath
    exact h ⟨entry, hentry, stripFront_eq_some_iff.mpr hpath.symm⟩

/-- A segment does not end in a slash, nor does its path. -/
lemma trimPath_segmentOf {text : List Char} (hne : text ≠ []) :
    trimPath (gamePath ++ segmentOf text) = gamePath ++ segmentOf text := by
  apply trimPath_eq_self
  have hsegment : segmentOf text ≠ [] := by
    intro h
    exact hne (segmentOf_injective (h.trans (rfl : [] = segmentOf [])))
  rw [List.getLast?_append_of_ne_nil _ hsegment]
  intro hlast
  exact slash_not_mem_segmentOf text (List.mem_of_mem_getLast? hlast)

/-- The route of the path of a text. -/
lemma matchRoute_segmentOf {text : List Char} (hne : text ≠ []) (hname : text ∉ reservedNames) :
    matchRoute (gamePath ++ segmentOf text) = some (.gameById (segmentOf text)) := by
  rw [matchRoute_gameById_iff]
  refine ⟨rfl, ?_, slash_not_mem_segmentOf text, ?_⟩
  · intro h
    exact hne (segmentOf_injective (h.trans (rfl : [] = segmentOf [])))
  · rw [lookup_gamePath]
    intro hmem
    have hself := segmentOf_injective (segmentOf_reserved _ hmem)
    rw [hself] at hmem
    exact hname hmem

/-- The game id that a request looks up. The request line is one that the HTTP library of the server
takes: it refuses a URI of more than 65534 bytes before any route. -/
def HttpRequest.lookedUp (request : HttpRequest) : Option GameId :=
  match matchRoute (trimPath request.path) with
  | some (.gameById segment) => (pathParam segment).bind GameId.fromPath
  | _ => none

/-- **The handler looks up that id**, and answers with its game. -/
lemma handle_of_lookedUp (server : Server) {request : HttpRequest} (hmethod : request.method = .get)
    {id : GameId} (h : HttpRequest.lookedUp request = some id) :
    handle server (trimTrailingSlash request) =
      respond .ofGameLookupError (fun game => .game ⟨game, server.services.scoreFor game⟩)
        (server.services.gameById id) := by
  unfold HttpRequest.lookedUp at h
  split at h
  · next segment hroute =>
    have hoperation : (Route.gameById segment).operation? (trimTrailingSlash request).method =
        some .getGame := if_pos (Or.inl hmethod)
    have hpath : (trimTrailingSlash request).path = trimPath request.path := rfl
    unfold handle
    rw [hpath, hroute]
    dsimp only
    rw [handleRoute_of_operation server hoperation]
    show gameRoute server.services segment = _
    unfold gameRoute
    rw [h]
  · cases h

/-- The request of a game page. -/
lemma request_fetchGame (text : List Char) (cookies : List (List UInt8)) :
    (Call.fetchGame (toUtf16 text)).request cookies =
      some ((Call.fetchGame (toUtf16 text)).requestAt cookies
        (gamePath ++ segmentOf text) none) := by
  simp only [Call.request, Call.path, encodeURIComponent, fromUtf16_toUtf16]
  rfl

/-- The call of the game page looks up a game exactly where the text is no name of another route, no
dot segment, and not blank.

**Proof sketch.** The path of the call is the path of the games and one more segment
(`urlPath_segmentOf`), unless the text is a dot segment or empty. A segment that is the name of
another route is routed there; every other one is routed to the game page (`matchRoute_segmentOf`)
and decoded to the text (`pathParam_segmentOf`). -/
lemma lookedUp_fetchGame (text : List Char) (cookies : List (List UInt8)) (id : GameId) :
    ((Call.fetchGame (toUtf16 text)).request cookies).bind HttpRequest.lookedUp = some id ↔
      IsGameSegment text ∧ jsTrim text = id.text.toList := by
  have hid : GameId.fromPath text = some id ↔ jsTrim text = id.text.toList := by
    obtain ⟨idText, hidText⟩ := id
    unfold GameId.fromPath
    by_cases hblank : jsTrim text = []
    · rw [dif_pos hblank]
      refine iff_of_false nofun ?_
      intro h
      rw [hblank] at h
      apply hidText
      rw [← String.ofList_toList (s := idText), ← h]
    · rw [dif_neg hblank, Option.some.injEq, GameId.mk.injEq]
      constructor
      · rintro rfl
        rw [String.toList_ofList]
      · intro h
        rw [h, String.ofList_toList]
  have hpath : ((Call.fetchGame (toUtf16 text)).requestAt cookies
      (gamePath ++ segmentOf text) none).path = urlPath (gamePath ++ segmentOf text) := rfl
  rw [request_fetchGame, Option.bind_some, ← hid]
  unfold HttpRequest.lookedUp IsGameSegment
  rw [hpath, urlPath_segmentOf]
  by_cases hdots : text = ['.', '.']
  · rw [if_pos hdots]
    exact iff_of_false nofun fun h => h.1.2.2 hdots
  by_cases hdot : text = ['.']
  · rw [if_neg hdots, if_pos hdot]
    exact iff_of_false nofun fun h => h.1.2.1 hdot
  rw [if_neg hdots, if_neg hdot]
  by_cases hne : text = []
  · subst hne
    exact iff_of_false nofun fun h => by cases h.2
  rw [trimPath_segmentOf hne]
  by_cases hname : text ∈ reservedNames
  · rw [segmentOf_reserved text hname]
    split
    · next segment hroute =>
      have hlookup := (matchRoute_gameById_iff.mp hroute).2.2.2
      exact absurd hname ((lookup_gamePath text).mp hlookup)
    · exact iff_of_false nofun fun h => h.1.1 hname
  · rw [matchRoute_segmentOf hne hname]
    dsimp only
    rw [pathParam_segmentOf, Option.bind_some]
    exact (and_iff_right ⟨hname, hdot, hdots⟩).symm

/-- **The ids of the game page.** For every text, the call of the game page looks up a game exactly
where the text is no name of another route, no dot segment, and not blank; the id of the game is the
text without blanks around it, whatever characters it has; and the handler answers with the game of
that id.

**Proof sketch.** `encodeURIComponent` leaves no slash, so the path has one segment more than the
one of the games, and the URL parser removes it only where it is a dot segment
(`urlPath_segmentOf`). The router then finds the route of the game page unless the segment is the
name of another route, and the segment is decoded to the text (`pathParam_segmentOf`). -/
theorem game_page_iff (text : List Char) (cookies : List (List UInt8)) (id : GameId) :
    (((Call.fetchGame (toUtf16 text)).request cookies).bind HttpRequest.lookedUp = some id ↔
      IsGameSegment text ∧ jsTrim text = id.text.toList) ∧
    ∀ server request, (Call.fetchGame (toUtf16 text)).request cookies = some request →
      HttpRequest.lookedUp request = some id → handle server (trimTrailingSlash request) =
        respond .ofGameLookupError (fun game => .game ⟨game, server.services.scoreFor game⟩)
          (server.services.gameById id) := by
  refine ⟨lookedUp_fetchGame text cookies id, ?_⟩
  intro server request hrequest hlooked
  rw [request_fetchGame] at hrequest
  obtain rfl := Option.some.inj hrequest
  exact handle_of_lookedUp server rfl hlooked

/-! ## What a call returns -/

/-- The answer to a sign-in that the server takes. -/
def signInAnswer (npsso : Secret) (result : Except AccountError Unit) : Response Payload :=
  match result with
  | .ok () => { status := 204, setCookie := [signInCookie npsso], body := .ok .noContent }
  | .error error => (Problem.ofAccountError error).intoResponse

/-- What the services answer to a call whose arguments are valid. -/
inductive Serves (services : Services) (cookies : List (List UInt8)) :
    Call → Response Payload → Prop where
  | newGames {page : Page} (hpage : ServesPage maxPageSize page) :
      Serves services cookies (.fetchNewGames page.offset page.size)
        (respond .ofUpstreamError .page (services.newGames page))
  | upcomingGames {page : Page} (hpage : ServesPage maxPageSize page) :
      Serves services cookies (.fetchUpcomingGames page.offset page.size)
        (respond .ofUpstreamError .page (services.upcomingGames page))
  | discountedGames {page : Page} (hpage : ServesPage maxPageSize page) :
      Serves services cookies (.fetchDiscountedGames page.offset page.size)
        (respond .ofUpstreamError .page (services.discountedGames page))
  | monthlyGames {page : Page} (hpage : ServesPage maxPageSize page) :
      Serves services cookies (.fetchMonthlyGames page.offset page.size)
        (respond .ofUpstreamError .page (services.monthlyGames page))
  /-- The server searches for the text without white space at its ends. -/
  | searchGames {text : List Char} {page : Page} (hne : jsTrim text ≠ [])
      (hle : (toUtf16 (jsTrim text)).length ≤ searchMaxTermLength)
      (hpage : ServesPage searchMaxPageSize page) :
      Serves services cookies (.fetchSearchGames (toUtf16 text) page.offset page.size)
        (respond .ofUpstreamError .page (services.searchGames (jsTrim text) page))
  | genres :
      Serves services cookies .fetchGenres (respond .ofUpstreamError .genres services.genres)
  | browseGames (genre : GenreKey) (order : BrowseOrder) {page : Page}
      (hpage : ServesPage maxPageSize page) :
      Serves services cookies
        (.fetchBrowseGames (toUtf16 genre.text.toList) order page.offset page.size)
        (respond .ofUpstreamError .page (services.browseGames genre order page))
  | game {text : List Char} {id : GameId} (hsegment : IsGameSegment text)
      (hid : GameId.fromPath text = some id) :
      Serves services cookies (.fetchGame (toUtf16 text))
        (respond .ofGameLookupError (fun game => .game ⟨game, services.scoreFor game⟩)
          (services.gameById id))
  | purchasedGames :
      Serves services cookies .fetchPurchasedGames (signedInRoute services.purchasedGames cookies)
  | wishlistGames :
      Serves services cookies .fetchWishlistGames (signedInRoute services.wishlistGames cookies)
  | signIn {npsso : String} (hvalid : isValidNpsso npsso = true) :
      Serves services cookies (.signIn npsso)
        (signInAnswer { expose := npsso } (services.verifyNpsso { expose := npsso }))
  | signOut : Serves services cookies .signOut signOutRoute

/-- The handler answers a request whose handling does not panic. -/
lemma response_of_handler {server : Server} {request : HttpRequest} {route : Route}
    {operation : Operation} {response : Response Payload}
    (hroute : matchRoute (trimPath request.path) = some route)
    (hoperation : route.operation? request.method = some operation)
    (hpanic : server.panics (trimTrailingSlash request) = false)
    (h : handleOperation server (trimTrailingSlash request) route.segment operation = response) :
    request.operation? = some operation ∧ (app server request).response = response := by
  constructor
  · unfold HttpRequest.operation?
    rw [hroute, Option.bind_some, hoperation]
  · show contained server (trimTrailingSlash request) = response
    unfold contained
    rw [hpanic, if_neg Bool.false_ne_true]
    unfold handle
    have hpath : (trimTrailingSlash request).path = trimPath request.path := rfl
    rw [hpath, hroute]
    exact (handleRoute_of_operation server hoperation).trans h

/-- The server reads the body of a sign-in: the JSON text of an object with one string. -/
def ReadsSignIn (server : Server) : Prop :=
  ∀ npsso, server.fromSlice (toUtf8 (write (signInBody npsso))) = some (signInBody npsso)

/-- The answer to the request of a sign-in. -/
lemma signInRoute_request {server : Server} (hreads : ReadsSignIn server) {npsso : String}
    (hvalid : isValidNpsso npsso = true) {request : HttpRequest}
    (hbody : request.body = .ok (toUtf8 (write (signInBody npsso))))
    (htype : request.contentType = some (asciiBytes "application/json")) :
    signInRoute server request =
      signInAnswer { expose := npsso } (server.services.verifyNpsso { expose := npsso }) := by
  have hmedia : ((mediaType (some (asciiBytes "application/json"))).any
      (· ≠ "application/json".toList)) = false := by decide +kernel
  have hnpsso : npssoFromBody server.fromSlice (toUtf8 (write (signInBody npsso))) =
      some { expose := npsso } := by
    unfold npssoFromBody
    rw [hreads npsso]
    exact if_pos hvalid
  unfold signInRoute
  rw [hbody, htype]
  dsimp only
  rw [hmedia, if_neg Bool.false_ne_true, hnpsso]
  dsimp only
  obtain ⟨value, hvalue⟩ := (exists_headerValue_signInCookie hnpsso).2
  cases server.services.verifyNpsso { expose := npsso } with
  | error error => rfl
  | ok accepted =>
    dsimp only
    rw [hvalue]
    rfl

/-- A character has at most four bytes. -/
lemma length_toUtf8_le (text : List Char) : (toUtf8 text).length ≤ 4 * text.length := by
  induction text with
  | nil => exact Nat.le_refl 0
  | cons c text ih =>
    show (String.utf8EncodeChar c ++ toUtf8 text).length ≤ 4 * (text.length + 1)
    have hsize := Char.utf8Size_le_four c
    rw [List.length_append, String.length_utf8EncodeChar]
    omega

/-- An escape has at most six characters. -/
lemma length_writeString_le (text : List Char) :
    (writeString text).length ≤ 6 * text.length + 2 := by
  have hchar : ∀ c, (escapeChar c).length ≤ 6 := by
    intro c
    unfold escapeChar
    split
    · simp
    · split_ifs <;> simp
  have hflat : (text.flatMap escapeChar).length ≤ 6 * text.length := by
    induction text with
    | nil => exact Nat.le_refl 0
    | cons c text ih =>
      rw [List.flatMap_cons, List.length_append, List.length_cons]
      have := hchar c
      omega
  unfold writeString
  rw [List.length_cons, List.length_append, List.length_singleton]
  omega

/-- The body of a sign-in is read. -/
lemma received_signInBody {npsso : String} (h : isValidNpsso npsso = true) :
    received (toUtf8 (write (signInBody npsso))) = .ok (toUtf8 (write (signInBody npsso))) := by
  have hnpsso : npsso.toList.length ≤ 512 := by
    unfold isValidNpsso at h
    simp only [Bool.and_eq_true, decide_eq_true_eq] at h
    exact h.1.2
  have htext : (write (signInBody npsso)).length =
      (writeString "npsso".toList).length + (writeString npsso.toList).length + 3 := by
    unfold signInBody
    rw [write, writeFields, write, List.length_cons, List.length_append, List.length_append,
      List.length_cons, List.length_singleton]
    omega
  have hname : (writeString "npsso".toList).length = 7 := by decide
  have hstring := length_writeString_le npsso.toList
  have hbytes := length_toUtf8_le (write (signInBody npsso))
  unfold received bodyLimit
  rw [if_pos (by omega)]

/-- The routes of the game lists and of the genre menu. -/
def listRoutes : List Operation :=
  [.listNewGames, .listUpcomingGames, .listDiscountedGames, .listMonthlyGames,
    .listPurchasedGames, .listWishlistGames, .searchGames, .listGenres, .browseGames]

/-- The path of a list has the route of the list. -/
lemma matchRoute_urlPath : ∀ operation ∈ listRoutes,
    matchRoute (trimPath (urlPath operation.endpoint.2)) = some (.games operation) := by
  decide +kernel

/-- What it means that a call is answered. -/
def Answers (server : Server) (cookies : List (List UInt8)) (call : Call)
    (response : Response Payload) : Prop :=
  ∃ request, call.request cookies = some request ∧
    (server.panics (trimTrailingSlash request) = false →
      request.operation? = some call.operation ∧ (app server request).response = response)

/-- A call without a game id is answered by the handler of its route. -/
lemma answers_of_handler {server : Server} {cookies : List (List UInt8)} {call : Call}
    {response : Response Payload} {query : Option String}
    (hoperation : listRoutes.contains call.operation = true)
    (hpath : call.path = some call.operation.endpoint.2) (hmethod : call.method = .get)
    (hquery : call.query = some query)
    (h : ∀ request : HttpRequest, request.query = query.map urlQuery → request.cookies = cookies →
      handleOperation server request [] call.operation = response) :
    Answers server cookies call response := by
  refine ⟨call.requestAt cookies call.operation.endpoint.2 query, ?_, ?_⟩
  · unfold Call.request
    rw [hpath, hquery]
    rfl
  · intro hpanic
    have hroute := matchRoute_urlPath call.operation (List.contains_iff_mem.mp hoperation)
    have hmatch : (Route.games call.operation).operation?
        (call.requestAt cookies call.operation.endpoint.2 query).method = some call.operation := by
      show (if call.method = .get ∨ call.method = .head then some call.operation else none) = _
      rw [if_pos (Or.inl hmethod)]
    exact response_of_handler hroute hmatch hpanic (h _ rfl rfl)

/-- A list of one page is answered by its service. -/
lemma answers_of_page {server : Server} {cookies : List (List UInt8)} {call : Call} {page : Page}
    (service : Page → Except UpstreamError PageResult)
    (hoperation : listRoutes.contains call.operation = true)
    (hpath : call.path = some call.operation.endpoint.2) (hmethod : call.method = .get)
    (hparams : call.params =
      [("offset", numberText page.offset), ("size", numberText page.size)])
    (hpage : ServesPage maxPageSize page)
    (h : ∀ request : HttpRequest,
      handleOperation server request [] call.operation = pageRoute service request.query) :
    Answers server cookies call (respond .ofUpstreamError .page (service page)) := by
  obtain ⟨raw, hraw, hread⟩ := pagination_query hpage
  have hquery : call.query = some (some raw) := by
    unfold Call.query
    rw [hparams, if_neg (List.cons_ne_nil _ _), hraw]
    rfl
  apply answers_of_handler hoperation hpath hmethod hquery
  intro request hrequest _
  rw [h, hrequest]
  unfold pageRoute
  rw [Option.map_some, hread]

/-- A search is answered by its service. -/
lemma answers_search {server : Server} {cookies : List (List UInt8)} {text : List Char}
    {page : Page} (hne : jsTrim text ≠ [])
    (hle : (toUtf16 (jsTrim text)).length ≤ searchMaxTermLength)
    (hpage : ServesPage searchMaxPageSize page) :
    Answers server cookies (.fetchSearchGames (toUtf16 text) page.offset page.size)
      (respond .ofUpstreamError .page (server.services.searchGames (jsTrim text) page)) := by
  obtain ⟨raw, hraw, hread⟩ := search_query hne hle hpage
  have hquery : (Call.fetchSearchGames (toUtf16 text) page.offset page.size).query =
      some (some raw) := congrArg (Option.map some) hraw
  apply answers_of_handler (rfl) rfl rfl hquery
  intro request hrequest _
  show searchRoute server.services request.query = _
  unfold searchRoute
  rw [hrequest, Option.map_some, hread]

/-- A browse request is answered by its service. -/
lemma answers_browse {server : Server} {cookies : List (List UInt8)} (genre : GenreKey)
    (order : BrowseOrder) {page : Page} (hpage : ServesPage maxPageSize page) :
    Answers server cookies
      (.fetchBrowseGames (toUtf16 genre.text.toList) order page.offset page.size)
      (respond .ofUpstreamError .page (server.services.browseGames genre order page)) := by
  obtain ⟨raw, hraw, hread⟩ := browse_query genre order hpage
  have hquery : (Call.fetchBrowseGames (toUtf16 genre.text.toList) order page.offset
      page.size).query = some (some raw) := congrArg (Option.map some) hraw
  apply answers_of_handler (rfl) rfl rfl hquery
  intro request hrequest _
  show browseRoute server.services request.query = _
  unfold browseRoute
  rw [hrequest, Option.map_some, hread]

/-- A game page is answered by its services. -/
lemma answers_game {server : Server} {cookies : List (List UInt8)} {text : List Char} {id : GameId}
    (hsegment : IsGameSegment text) (hid : GameId.fromPath text = some id) :
    Answers server cookies (.fetchGame (toUtf16 text))
      (respond .ofGameLookupError (fun game => .game ⟨game, server.services.scoreFor game⟩)
        (server.services.gameById id)) := by
  obtain ⟨hname, hdot, hdots⟩ := hsegment
  have hne : text ≠ [] := by
    rintro rfl
    cases hid
  refine ⟨_, request_fetchGame text cookies, ?_⟩
  intro hpanic
  have hpath : ((Call.fetchGame (toUtf16 text)).requestAt cookies
      (gamePath ++ segmentOf text) none).path = urlPath (gamePath ++ segmentOf text) := rfl
  have hroute : matchRoute (trimPath ((Call.fetchGame (toUtf16 text)).requestAt cookies
      (gamePath ++ segmentOf text) none).path) = some (.gameById (segmentOf text)) := by
    rw [hpath, urlPath_segmentOf, if_neg hdots, if_neg hdot, trimPath_segmentOf hne,
      matchRoute_segmentOf hne hname]
  apply response_of_handler hroute rfl hpanic
  show gameRoute server.services (segmentOf text) = _
  unfold gameRoute
  rw [pathParam_segmentOf, Option.bind_some, hid]

/-- **The handlers get the arguments of every call.**

**Proof sketch.** By the kind of the call. Calls with a page, with other parameters, with a path
segment and without arguments have one lemma each; a signed-in list gets the cookies as they are,
and a sign-in is read from its body (`signInRoute_request`). -/
theorem answers_of_serves {server : Server} (hreads : ReadsSignIn server)
    {cookies : List (List UInt8)} {call : Call} {response : Response Payload}
    (h : Serves server.services cookies call response) : Answers server cookies call response := by
  have hsession : trimPath (urlPath "/api/session".toList) = "/api/session".toList := by
    decide +kernel
  cases h with
  | newGames hpage =>
    exact answers_of_page _ rfl rfl rfl rfl hpage fun request => rfl
  | upcomingGames hpage =>
    exact answers_of_page _ rfl rfl rfl rfl hpage fun request => rfl
  | discountedGames hpage =>
    exact answers_of_page _ rfl rfl rfl rfl hpage fun request => rfl
  | monthlyGames hpage =>
    exact answers_of_page _ rfl rfl rfl rfl hpage fun request => rfl
  | searchGames hne hle hpage => exact answers_search hne hle hpage
  | genres => exact answers_of_handler rfl rfl rfl rfl fun request _ _ => rfl
  | browseGames genre order hpage => exact answers_browse genre order hpage
  | game hsegment hid => exact answers_game hsegment hid
  | purchasedGames =>
    apply answers_of_handler rfl rfl rfl rfl
    intro request _ hcookies
    show signedInRoute server.services.purchasedGames request.cookies = _
    rw [hcookies]
  | wishlistGames =>
    apply answers_of_handler rfl rfl rfl rfl
    intro request _ hcookies
    show signedInRoute server.services.wishlistGames request.cookies = _
    rw [hcookies]
  | @signIn npsso hvalid =>
    refine ⟨(Call.signIn npsso).requestAt cookies "/api/session".toList none, rfl, ?_⟩
    intro hpanic
    have hroute : matchRoute (trimPath (urlPath "/api/session".toList)) = some .session := by
      rw [hsession]
      rfl
    apply response_of_handler hroute rfl hpanic
    exact signInRoute_request hreads hvalid (received_signInBody hvalid) rfl
  | signOut =>
    refine ⟨Call.signOut.requestAt cookies "/api/session".toList none, rfl, ?_⟩
    intro hpanic
    have hroute : matchRoute (trimPath (urlPath "/api/session".toList)) = some .session := by
      rw [hsession]
      rfl
    exact response_of_handler hroute rfl hpanic rfl

/-- **A call returns what the service answered.** For every server that reads the body of a sign-in,
and every call with valid arguments: the client sends a request; and unless the handling of the
request panics, and where the answer arrives, the answer is the one of the service, with the cookies
that it sets, and the call returns the JSON of its success where the client can read it, and fails
with the status, the code and the delay of its failure.

**Proof sketch.** The arguments go through the query serializer, the URL parser and the parameters
of the server (`answers_of_serves`, with one lemma for each kind of route), so the handler asks the
service for what was called. Its answer is documented (`documents_app`), and of a documented answer
the client reads what was sent (`outcome_eq_readBack`). -/
theorem call_round_trip {server : Server} (hreads : ReadsSignIn server)
    {cookies : List (List UInt8)} {call : Call} {response : Response Payload}
    (h : Serves server.services cookies call response) :
    ∃ request, call.request cookies = some request ∧
      (server.panics (trimTrailingSlash request) = false →
        (app server request).response = response ∧
        ∀ fetched, Delivers (app server request).response fetched →
          outcome read fetched call.operation = readBack response) := by
  obtain ⟨request, hrequest, hanswer⟩ := answers_of_serves hreads h
  refine ⟨request, hrequest, ?_⟩
  intro hpanic
  obtain ⟨hoperation, hresponse⟩ := hanswer hpanic
  refine ⟨hresponse, ?_⟩
  intro fetched hfetched
  rw [outcome_eq_readBack (documents_app server hoperation) hfetched, hresponse]

/-- A server with the JSON parser reads the body of a sign-in. -/
lemma readsSignIn_sampleServer (outcome : Option ProblemCode) :
    ReadsSignIn (sampleServer outcome) := by
  intro npsso
  have hplain : Plain (signInBody npsso) := by
    simp [signInBody, Plain, PlainFields]
  show (fromUtf8 (toUtf8 (write (signInBody npsso)))).bind Json.read = _
  unfold fromUtf8
  rw [fromUtf8Lossy_toUtf8, if_pos rfl, Option.bind_some, read_write hplain]

/-- A sign-in with a valid NPSSO: it returns nothing, as the service answers 204. -/
theorem call_round_trip_sample :
    ∃ request, (Call.signIn "abcdefgh01234567").request [] = some request ∧
      ((sampleServer none).panics (trimTrailingSlash request) = false →
        (app (sampleServer none) request).response =
          signInAnswer { expose := "abcdefgh01234567" } (.ok ()) ∧
        ∀ fetched, Delivers (app (sampleServer none) request).response fetched →
          outcome read fetched .signIn =
            readBack (signInAnswer { expose := "abcdefgh01234567" } (.ok ()))) :=
  call_round_trip (readsSignIn_sampleServer none) (Serves.signIn (by decide +kernel))

end Client

end PsStore
