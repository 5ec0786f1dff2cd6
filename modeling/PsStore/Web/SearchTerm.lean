import PsStore.Domain.Js
import PsStore.Http.Params
import PsStore.Lib.Utf16
import PsStore.Sources.Sony.Search

set_option relaxedAutoImplicit false
set_option autoImplicit false

/-!
# The search term

`searchTerm.ts`, the query that the generated client sends, and the term that the server takes from
it. A JavaScript string is its UTF-16 code units. Cutting the trimmed text to its first 100 units
can leave white space or half a character at the end.

## Main definitions

* `normalizeSearchTerm`, `readSearchTerm` — the term of a text, and the term in a search record.
* `stringifySearch`, `parseSearch` — the search record as the query of a URL.
* `querySerializer`, `searchQuery` — the query of a request, and of a search request.
* `CarriesTerm`, `AgreesOnTerm` — the server and its upstream request take the term, and every
  reader of a text has one term.
* `CutsPair`, `CutsBehindSpace` — what the 100 units end in.

## Main results

* `agreesOnTerm_iff` — the texts on whose term the client and the server agree.
-/

namespace PsStore

/-! ## The client -/

/-- A JavaScript string, as its UTF-16 code units. -/
abbrev JsString := List UInt16

/-- The codes of white space and line terminators. -/
def isSpaceCode (n : ℕ) : Bool :=
  n ∈ [0x09, 0x0a, 0x0b, 0x0c, 0x0d, 0x20, 0xa0, 0x1680, 0x2028, 0x2029, 0x202f, 0x205f, 0x3000,
    0xfeff] || (decide (0x2000 ≤ n) && decide (n ≤ 0x200a))

/-- A code unit that `String.prototype.trim` removes. -/
def isSpaceUnit (unit : UInt16) : Bool := isSpaceCode unit.toNat

/-- `value.trim()`. -/
def trimUnits (value : JsString) : JsString := trimBy isSpaceUnit value

/-- `SEARCH_TERM_MAX_LENGTH`. -/
def searchTermMaxLength : ℕ := 100

/-- The submitted term: trimmed, then capped at the server limit. -/
def normalizeSearchTerm (value : JsString) : JsString := (trimUnits value).take searchTermMaxLength

/-- The term of a search record, by the string under `q`. -/
def readSearchTerm (search : String → Option JsString) : JsString :=
  ((search "q").map normalizeSearchTerm).getD []

/-- A string with a replacement for every lone surrogate, as `URLSearchParams` takes it. -/
def toUsvString (value : JsString) : String := String.ofList (fromUtf16Lossy value)

/-- `URLSearchParams.set`. -/
def setParam (params : List (String × String)) (key value : String) : List (String × String) :=
  if params.any (·.1 == key) then
    params.map fun pair => if pair.1 == key then (key, value) else pair
  else params ++ [(key, value)]

/-- The query of a URL for a search record. A value that is no string is left out. -/
def stringifySearch (search : List (JsString × Option JsString)) : List Char :=
  let params := search.foldl (fun params entry =>
    match entry.2 with
    | some value => setParam params (toUsvString entry.1) (toUsvString value)
    | none => params) []
  let text := asciiText (FormUrlencoded.serialize params)
  if text = [] then [] else '?' :: text

/-- The search record of the query of a URL. The last pair of a key counts. -/
def parseSearch (search : List Char) (key : String) : Option JsString :=
  let pairs := FormUrlencoded.parse (toUtf8 (FormUrlencoded.dropQuestion search))
  (pairs.reverse.find? (·.1 == key)).map fun pair => toUtf16 pair.2.toList

/-- `encodeURIComponent`, which throws on a lone surrogate. -/
def encodeURIComponent (value : JsString) : Option (List Char) :=
  (fromUtf16 value).map fun text => asciiText (FormUrlencoded.encodeComponent text)

/-- `querySerializer` of the generated client, for strings and numbers. -/
def querySerializer (params : List (String × JsString)) : Option String :=
  (params.mapM fun param =>
    (encodeURIComponent param.2).map fun value => param.1.toList ++ '=' :: value).map
      fun search => String.ofList (['&'].intercalate search)

/-- A number as a string. -/
def numberText (n : ℕ) : JsString := toUtf16 (Nat.toDigits 10 n)

/-- `fetchSearchGames`: the query of a search request. -/
def searchQuery (term : JsString) (offset size : ℕ) : Option String :=
  querySerializer [("q", term), ("offset", numberText offset), ("size", numberText size)]

/-! ## Agreement -/

/-- The server takes the term from the request for a page of it, and each of its upstream requests
names the term. -/
def CarriesTerm (term : JsString) (offset size : ℕ) : Prop :=
  ∃ raw text, searchQuery term offset size = some raw ∧
    search (some raw) = .ok (text, { offset, size }) ∧ toUtf16 text = term ∧
    ∀ operation hash rawOffset,
      SearchesFor (graphqlQuery operation hash (searchVariables text rawOffset size)) text

/-- The term of a text is its own term, is read back from the URL, and is carried by the request for
every page that the server takes. -/
structure AgreesOnTerm (value : JsString) : Prop where
  fixed : normalizeSearchTerm (normalizeSearchTerm value) = normalizeSearchTerm value
  url : readSearchTerm (parseSearch (stringifySearch
    [(toUtf16 "q".toList, some (normalizeSearchTerm value))])) = normalizeSearchTerm value
  carried : ∀ offset size, offset ≤ 2 ^ 53 - 1 → 1 ≤ size → size ≤ searchMaxPageSize →
    CarriesTerm (normalizeSearchTerm value) offset size

/-- The cut falls between the halves of a surrogate pair. -/
def CutsPair (trimmed : JsString) : Prop :=
  HighAt trimmed (searchTermMaxLength - 1) ∧ LowAt trimmed searchTermMaxLength

/-- The cut falls behind white space. -/
def CutsBehindSpace (trimmed : JsString) : Prop :=
  searchTermMaxLength < trimmed.length ∧
    ∃ unit, trimmed[searchTermMaxLength - 1]? = some unit ∧ isSpaceUnit unit = true

/-! ## The fixed points -/

/-- **A term of at most 100 units** is its own term exactly where it is trimmed. -/
lemma normalizeSearchTerm_eq_self_iff {term : JsString} (h : term.length ≤ searchTermMaxLength) :
    normalizeSearchTerm term = term ↔ IsTrimmed isSpaceUnit term := by
  have hlength := length_trimBy_le isSpaceUnit term
  unfold normalizeSearchTerm trimUnits
  rw [List.take_of_length_le (hlength.trans h)]
  exact trimBy_eq_self_iff

/-- The term of a text is trimmed where the cut does not fall behind white space. -/
lemma isTrimmed_normalizeSearchTerm (value : JsString) :
    IsTrimmed isSpaceUnit (normalizeSearchTerm value) ↔
      ¬ CutsBehindSpace (trimUnits value) := by
  have htrimmed : IsTrimmed isSpaceUnit (trimUnits value) := isTrimmed_trimBy _ value
  unfold normalizeSearchTerm
  generalize trimUnits value = trimmed at htrimmed
  by_cases hlong : searchTermMaxLength < trimmed.length
  · have hlimit : searchTermMaxLength ≠ 0 := by decide
    have hget : trimmed[searchTermMaxLength - 1]? = some (trimmed[searchTermMaxLength - 1]) :=
      List.getElem?_eq_getElem (by omega)
    unfold IsTrimmed CutsBehindSpace
    rw [List.head?_take, if_neg hlimit, List.getLast?_take, if_neg hlimit, hget, Option.some_or]
    constructor
    · intro h hcut
      obtain ⟨-, unit, hunit, hspace⟩ := hcut
      rw [h.2 unit hunit] at hspace
      cases hspace
    · intro h
      refine ⟨htrimmed.1, ?_⟩
      intro unit hunit
      rw [Bool.eq_false_iff]
      intro hspace
      exact h ⟨hlong, unit, hunit, hspace⟩
  · rw [List.take_of_length_le (by omega)]
    exact iff_of_true htrimmed fun hcut => hlong hcut.1

/-- The term of a text has no lone surrogate where the text has none before the cut and the cut
does not fall between the halves of a pair. -/
lemma loneAt_normalizeSearchTerm (value : JsString) :
    (∀ i, ¬ LoneAt (normalizeSearchTerm value) i) ↔
      (∀ i < searchTermMaxLength, ¬ LoneAt (trimUnits value) i) ∧ ¬ CutsPair (trimUnits value) := by
  unfold normalizeSearchTerm CutsPair
  constructor
  · intro h
    constructor
    · intro i hi hlone
      exact h i ((loneAt_take_iff _ _ i).mpr ⟨hi, Or.inl hlone⟩)
    · intro hpair
      apply h (searchTermMaxLength - 1)
      rw [loneAt_take_iff]
      exact ⟨by decide, Or.inr ⟨by decide, hpair⟩⟩
  · intro h i hlone
    obtain ⟨hbefore, hpair⟩ := h
    obtain ⟨hi, hhere | ⟨hlast, hhalves⟩⟩ := (loneAt_take_iff _ _ i).mp hlone
    · exact hbefore i hi hhere
    · obtain rfl : i = searchTermMaxLength - 1 := by omega
      exact hpair hhalves

/-! ## White space on both sides -/

/-- The white space of both sides has the same codes. -/
lemma isJsSpace_eq_isSpaceCode (c : Char) : isJsSpace c = isSpaceCode c.toNat := by
  have hmem : ∀ d : Char, c = d ↔ c.toNat = d.toNat := fun d => Char.toNat_inj.symm
  have hle : ∀ d : Char, c ≤ d ↔ c.toNat ≤ d.toNat := fun d => Iff.rfl
  have hge : ∀ d : Char, d ≤ c ↔ d.toNat ≤ c.toNat := fun d => Iff.rfl
  rw [isJsSpace_eq, Bool.eq_iff_iff]
  unfold isSpaceSeparator isSpaceCode
  simp only [Bool.or_eq_true, Bool.and_eq_true, decide_eq_true_eq, List.mem_cons,
    List.not_mem_nil, or_false, hmem, hle, hge]
  simp only [Char.reduceToNat]
  omega

/-- The ends of a character's units are white space where the character is. -/
lemma isSpaceUnit_encode (c : Char) :
    (∀ unit ∈ (utf16EncodeChar c).head?, isSpaceUnit unit = isJsSpace c) ∧
      ∀ unit ∈ (utf16EncodeChar c).getLast?, isSpaceUnit unit = isJsSpace c := by
  rw [isJsSpace_eq_isSpaceCode]
  unfold isSpaceUnit
  rcases utf16EncodeChar_cases c with ⟨a, hcode, ha, -⟩ | ⟨a, b, hcode, ha, hb, hvalue⟩
  · rw [hcode, List.head?_cons, List.getLast?_singleton]
    constructor
    · intro unit hunit
      rw [← Option.some.inj hunit, ha]
    · intro unit hunit
      rw [← Option.some.inj hunit, ha]
  · -- no surrogate is white space, and no character past U+FFFF
    have hnot : ∀ n, 0xd800 ≤ n → n ≤ 0xdfff ∨ 0xffff < n → isSpaceCode n = false := by
      intro n hlow hhigh
      rw [Bool.eq_false_iff]
      unfold isSpaceCode
      simp only [ne_eq, Bool.or_eq_true, Bool.and_eq_true, decide_eq_true_eq, List.mem_cons,
        List.not_mem_nil, or_false]
      omega
    rw [hcode, List.head?_cons, List.getLast?_cons_cons, List.getLast?_singleton,
      hnot c.toNat (by omega) (by omega)]
    constructor
    · intro unit hunit
      rw [← Option.some.inj hunit, hnot _ (by omega) (by omega)]
    · intro unit hunit
      rw [← Option.some.inj hunit, hnot _ (by omega) (by omega)]

/-- A text with trimmed code units is trimmed. -/
lemma isTrimmed_of_toUtf16 {text : List Char} (h : IsTrimmed isSpaceUnit (toUtf16 text)) :
    IsTrimmed isJsSpace text := by
  have hne : ∀ c, utf16EncodeChar c ≠ [] := by
    intro c
    rcases utf16EncodeChar_cases c with ⟨a, hcode, -⟩ | ⟨a, b, hcode, -⟩
    · rw [hcode]
      exact List.cons_ne_nil a []
    · rw [hcode]
      exact List.cons_ne_nil a [b]
  constructor
  · intro c hc
    obtain ⟨rest, rfl⟩ := List.head?_eq_some_iff.mp hc
    have hunit := List.head?_eq_some_head (hne c)
    rw [← (isSpaceUnit_encode c).1 _ hunit]
    apply h.1
    rw [toUtf16, List.flatMap_cons, List.head?_append, hunit]
    rfl
  · intro c hc
    obtain ⟨before, rfl⟩ := List.getLast?_eq_some_iff.mp hc
    have hunit := List.getLast?_eq_getLast_of_ne_nil (hne c)
    rw [← (isSpaceUnit_encode c).2 _ hunit]
    apply h.2
    rw [toUtf16, List.flatMap_append, List.flatMap_singleton, List.getLast?_append, hunit]
    rfl

/-- The server counts the code units. -/
lemma utf16Len_eq_length (text : List Char) : utf16Len text = (toUtf16 text).length := by
  unfold utf16Len toUtf16
  rw [List.length_flatMap]
  congr 2
  funext c
  unfold utf16EncodeChar
  split_ifs <;> rfl

/-! ## The request -/

/-- A name that stands for itself in a query. -/
def IsQueryName (name : String) : Prop :=
  (0x26 : UInt8) ∉ toUtf8 name.toList ∧ (0x3d : UInt8) ∉ toUtf8 name.toList ∧
    FormUrlencoded.decode (toUtf8 name.toList) = name

/-- The serialiser writes a piece for each text. -/
lemma querySerializer_toUtf16 (params : List (String × List Char)) :
    querySerializer (params.map fun param => (param.1, toUtf16 param.2)) =
      some (String.ofList (['&'].intercalate (params.map fun param =>
        param.1.toList ++ '=' :: asciiText (FormUrlencoded.encodeComponent param.2)))) := by
  have hpieces : (params.map fun param => (param.1, toUtf16 param.2)).mapM (fun param =>
      (encodeURIComponent param.2).map fun value => param.1.toList ++ '=' :: value) =
      some (params.map fun param =>
        param.1.toList ++ '=' :: asciiText (FormUrlencoded.encodeComponent param.2)) := by
    induction params with
    | nil => rfl
    | cons param params ih =>
      rw [List.map_cons, List.mapM_cons, ih, encodeURIComponent, fromUtf16_toUtf16]
      rfl
  rw [querySerializer, hpieces]
  rfl

/-- The bytes of a piece. -/
lemma toUtf8_piece (name text : List Char) :
    toUtf8 (name ++ '=' :: asciiText (FormUrlencoded.encodeComponent text)) =
      toUtf8 name ++ 0x3d :: FormUrlencoded.encodeComponent text := by
  rw [toUtf8_append]
  congr 1
  show 0x3d :: toUtf8 (asciiText (FormUrlencoded.encodeComponent text)) = _
  rw [toUtf8_asciiText fun b hb => (FormUrlencoded.encodeComponent_spec hb).1]

/-- **The query of texts** is read back as their pairs. -/
lemma parse_querySerializer {params : List (String × List Char)}
    (h : ∀ param ∈ params, IsQueryName param.1) :
    ∃ raw, querySerializer (params.map fun param => (param.1, toUtf16 param.2)) = some raw ∧
      (Query.parse (some raw)).pairs =
        params.map fun param => (param.1, String.ofList param.2) := by
  refine ⟨_, querySerializer_toUtf16 params, ?_⟩
  show FormUrlencoded.parse (toUtf8 (String.ofList _).toList) = _
  rw [String.toList_ofList, toUtf8_intercalate, List.map_map]
  show FormUrlencoded.parse ([0x26].intercalate _) = _
  rw [FormUrlencoded.parse_intercalate, List.map_map]
  · apply List.map_congr_left
    intro param hparam
    obtain ⟨-, hequals, hdecode⟩ := h param hparam
    show FormUrlencoded.parsePiece (toUtf8 _) = _
    rw [toUtf8_piece, FormUrlencoded.parsePiece_append hequals, hdecode,
      FormUrlencoded.decode_encodeComponent]
  · intro piece hpiece
    obtain ⟨param, -, rfl⟩ := List.mem_map.mp hpiece
    show toUtf8 _ ≠ []
    rw [toUtf8_piece]
    simp
  · intro piece hpiece
    obtain ⟨param, hparam, rfl⟩ := List.mem_map.mp hpiece
    show (0x26 : UInt8) ∉ toUtf8 _
    rw [toUtf8_piece, List.mem_append, List.mem_cons]
    rintro (hname | hequals | hvalue)
    · exact (h param hparam).1 hname
    · exact absurd hequals (by decide)
    · exact absurd (FormUrlencoded.encodeComponent_spec hvalue).2 (by decide)

/-- **The server takes the term.** -/
lemma carriesTerm_of_isTrimmed {text : List Char} (htrimmed : IsTrimmed isSpaceUnit (toUtf16 text))
    (hne : toUtf16 text ≠ []) (hle : (toUtf16 text).length ≤ searchTermMaxLength)
    {offset size : ℕ} (hoffset : offset ≤ 2 ^ 53 - 1) (hmin : 1 ≤ size)
    (hmax : size ≤ searchMaxPageSize) : CarriesTerm (toUtf16 text) offset size := by
  have hnames : ∀ name ∈ ["q", "offset", "size"], IsQueryName name := by
    unfold IsQueryName
    decide +kernel
  obtain ⟨raw, hraw, hpairs⟩ := @parse_querySerializer [("q", text),
    ("offset", Nat.toDigits 10 offset), ("size", Nat.toDigits 10 size)]
    fun param hparam => hnames param.1 (List.mem_map_of_mem hparam)
  have hq : (Query.parse (some raw)).values "q" = [String.ofList text] := by
    simp [Query.values, hpairs]
  have hpageOffset : (Query.parse (some raw)).offset = .ok offset := by
    refine Query.offset_of_toDigits ?_ hoffset
    simp [Query.values, hpairs]
  have hpageSize : (Query.parse (some raw)).size searchMaxPageSize searchMaxPageSize =
      .ok size := by
    refine Query.size_of_toDigits ?_ searchMaxPageSize hmin hmax (by decide)
    simp [Query.values, hpairs]
  have hterm : jsTrim (String.ofList text).toList = text := by
    rw [String.toList_ofList]
    exact (isTrimmed_of_toUtf16 htrimmed).trimBy_eq
  refine ⟨raw, text, hraw, ?_, rfl, ?_⟩
  · have hsearch := @search_of_query (some raw) (String.ofList text) { offset, size } hq
    rw [hterm, utf16Len_eq_length] at hsearch
    exact hsearch (by simpa using hne) hle hpageOffset hpageSize
  · intro operation hash rawOffset
    exact searchesFor_graphqlQuery operation hash text rawOffset size

/-- **The URL gives the term back.**

**Proof sketch.** A text without lone surrogates is written as it is, so the query is the form of
one pair, which is read back from its text (`FormUrlencoded.parse_serialize`). The term is a fixed
point, so the reading changes nothing of it. -/
lemma readSearchTerm_stringifySearch {text : List Char}
    (hfixed : normalizeSearchTerm (toUtf16 text) = toUtf16 text) :
    readSearchTerm (parseSearch (stringifySearch [(toUtf16 "q".toList, some (toUtf16 text))])) =
      toUtf16 text := by
  have hurl : stringifySearch [(toUtf16 "q".toList, some (toUtf16 text))] =
      '?' :: asciiText (FormUrlencoded.serialize [("q", String.ofList text)]) := by
    have hparams : setParam [] (toUsvString (toUtf16 "q".toList)) (toUsvString (toUtf16 text)) =
        [("q", String.ofList text)] := by
      unfold toUsvString
      rw [fromUtf16Lossy_toUtf16, fromUtf16Lossy_toUtf16]
      rfl
    have hne : asciiText (FormUrlencoded.serialize [("q", String.ofList text)]) ≠ [] := by
      unfold FormUrlencoded.serialize FormUrlencoded.serializePair asciiText
      rw [List.map_singleton, List.intercalate_singleton]
      simp
    unfold stringifySearch
    rw [List.foldl_cons, List.foldl_nil]
    dsimp only
    rw [hparams, if_neg hne]
  have hparse : parseSearch (stringifySearch [(toUtf16 "q".toList, some (toUtf16 text))]) "q" =
      some (toUtf16 text) := by
    unfold parseSearch FormUrlencoded.dropQuestion
    rw [hurl, List.head?_cons, if_pos rfl, List.tail_cons,
      toUtf8_asciiText fun b hb => (FormUrlencoded.serialize_spec hb).1,
      FormUrlencoded.parse_serialize]
    simp
  unfold readSearchTerm
  rw [hparse, Option.map_some, Option.getD_some, hfixed]

/-! ## The texts with one term -/

/-- **When the client and the server agree on the search term.** For a text that is not empty when
trimmed, the term is a fixed point, is read back from the URL, and is taken by the server for every
page, where and only where the first 100 units of the trimmed text have no lone surrogate and the
cut falls neither between the halves of a pair nor behind white space.

**Proof sketch.** The term is a front part of the trimmed text. It is a fixed point exactly where it
is trimmed itself, so where the cut leaves no white space at its end; and a request is built for it
exactly where it is the code units of a text, so where it has no lone surrogate. Such a term is
escaped, sent and decoded without loss, and the server's own trim changes nothing. -/
theorem agreesOnTerm_iff (value : JsString) (hne : trimUnits value ≠ []) :
    AgreesOnTerm value ↔
      (∀ i < searchTermMaxLength, ¬ LoneAt (trimUnits value) i) ∧ ¬ CutsPair (trimUnits value) ∧
        ¬ CutsBehindSpace (trimUnits value) := by
  have hle : (normalizeSearchTerm value).length ≤ searchTermMaxLength :=
    List.length_take_le _ _
  have hterm : normalizeSearchTerm value ≠ [] := by
    unfold normalizeSearchTerm
    rw [ne_eq, List.take_eq_nil_iff, not_or]
    exact ⟨by decide, hne⟩
  rw [← and_assoc, ← loneAt_normalizeSearchTerm, ← isTrimmed_normalizeSearchTerm,
    ← normalizeSearchTerm_eq_self_iff hle]
  constructor
  · intro h
    refine ⟨?_, h.fixed⟩
    -- the request is built only for the code units of a text
    obtain ⟨raw, text, -, -, htext, -⟩ := h.carried 0 1 (by decide) (by decide) (by decide)
    exact (exists_toUtf16_iff _).mp ⟨text, htext.symm⟩
  · intro h
    obtain ⟨hlone, hfixed⟩ := h
    obtain ⟨text, htext⟩ := (exists_toUtf16_iff _).mpr hlone
    have htrimmed := (normalizeSearchTerm_eq_self_iff hle).mp hfixed
    refine ⟨hfixed, ?_, ?_⟩
    · rw [htext] at hfixed ⊢
      exact readSearchTerm_stringifySearch hfixed
    · intro offset size hoffset hmin hmax
      rw [htext] at hle hterm htrimmed ⊢
      exact carriesTerm_of_isTrimmed htrimmed hterm hle hoffset hmin hmax

/-- A text without white space at the cut and without surrogates. -/
theorem agreesOnTerm_iff_sample : AgreesOnTerm (toUtf16 " elden ring ".toList) := by
  have htrimmed : trimUnits (toUtf16 " elden ring ".toList) = toUtf16 "elden ring".toList := by
    decide
  refine (agreesOnTerm_iff (toUtf16 " elden ring ".toList) (by decide)).mpr ?_
  rw [htrimmed]
  refine ⟨?_, ?_, ?_⟩
  · intro i _
    exact (exists_toUtf16_iff _).mp ⟨"elden ring".toList, rfl⟩ i
  · rintro ⟨⟨unit, hunit, -⟩, -⟩
    cases hunit
  · rintro ⟨hlong, -⟩
    exact absurd hlong (by decide)

/-- 99 letters, a blank and a letter: the term ends in the blank. -/
theorem agreesOnTerm_fails :
    ¬ (∀ value : JsString, trimUnits value ≠ [] → AgreesOnTerm value) := by
  intro h
  have hfixed := (h (toUtf16 (List.replicate 99 'a' ++ [' ', 'b'])) (by decide)).fixed
  exact absurd hfixed (by decide)

end PsStore
