import PsStore.Domain.Payload
import PsStore.Sources.Sony.Search
import PsStore.Sources.Sony.SignIn

set_option relaxedAutoImplicit false
set_option autoImplicit false

/-!
# The requests to Sony on the wire

The requests of `sources/sony/catalog/request.rs` and of the account client in `account.rs`, with
their URLs, headers and bodies. The variables of a request are JSON in a form-encoded query. Sony
reads the query as any server reads it: at the first question mark, by pairs, and by the JSON of a
value.

## Main definitions

* `WireContract` — the contract file, with the properties of its values that the requests rely on.
* `GridQuery.variables` — the variables of the category grid.
* `GraphqlRequest`, `GraphqlRequest.outbound` — the persisted queries, and their requests.
* `WireContract.authorize`, `WireContract.requestToken` — the requests of a sign-in.
* `ReadsAs` — what Sony reads from a persisted query.

## Main results

* `upstream_round_trip` — Sony reads the arguments of every persisted query, no two queries have one
  request, and no request holds a credential outside the one place that it has for it.
-/

namespace PsStore

open Json

/-! ## The contract file -/

/-- The contract file. The operations have different names, and the URL of the queries has no query
of its own. -/
structure WireContract extends AccountContract where
  graphqlUrl : String
  categoryGridHash : String
  categoryId : String
  dealsCategoryId : String
  productHash : String
  productPriceOperation : String
  productPriceHash : String
  searchHash : String
  purchasedHash : String
  wishlistHash : String
  authBaseUrl : String
  authClientId : String
  authScope : String
  locale : String
  operations_nodup : [categoryGridOperation, productOperation, productPriceOperation,
    searchOperation, purchasedOperation, wishlistOperation].Nodup
  graphqlUrl_plain : '?' ∉ graphqlUrl.toList

/-- `docs/contracts/sony-constants.json`. -/
def WireContract.committed : WireContract where
  categoryGridOperation := "categoryGridRetrieve"
  productOperation := "metGetProductById"
  searchOperation := "getSearchResults"
  purchasedOperation := "getPurchasedGameList"
  wishlistOperation := "storeRetrieveWishlist"
  authRedirectUri := "com.scee.psxandroid.scecompcall://redirect"
  authBasicHeader :=
    "Basic MDk1MTUxNTktNzIzNy00MzcwLTliNDAtMzgwNmU2N2MwODkxOnVjUGprYTV0bnRCMktxc1A="
  graphqlUrl := "https://web.np.playstation.com/api/graphql/v1/op"
  categoryGridHash := "88c0b9a1273c6d320c51cd73e390924e21ae28bf09f01cde8b84b1034b16cd03"
  categoryId := "d0446d4b-dc9a-4f1e-86ec-651f099c9b29"
  dealsCategoryId := "3f772501-f6f8-49b7-abac-874a88ca4897"
  productHash := "a128042177bd93dd831164103d53b73ef790d56f51dae647064cb8f9d9fc9d1a"
  productPriceOperation := "productRetrieveForCtasWithPrice"
  productPriceHash := "1f0ca607e170abbfb7d67bd76c9bbc97f21fe2e807be49e5fe764e14566cb605"
  searchHash := "4df6284f982e57bec70f23c77e2c219dc792eb19af7fb3d3a81767aa3f1958aa"
  purchasedHash := "827a423f6a8ddca4107ac01395af2ec0eafd8396fc7fa204aaf9b7ed2eefa168"
  wishlistHash := "1fa88dd6c70279e3d914f7ba535b2558a7e45821d030cb2a63a8e450963d12c3"
  authBaseUrl := "https://ca.account.sony.com/api/authz/v3/oauth"
  authClientId := "09515159-7237-4370-9b40-3806e67c0891"
  authScope := "psn:mobile.v2.core psn:clientapp"
  locale := "en-fi"
  operations_nodup := by decide
  graphqlUrl_plain := by decide

/-- `locale_override`: the store locale that Sony takes in a header, a language and a region. -/
def localeOverride (locale : String) : String :=
  match splitOnce '-' locale.toList with
  | some (language, region) =>
    if language.length = 2 ∧ region.length = 2 ∧ language.all Char.isAlpha ∧
        region.all Char.isAlpha then
      String.ofList (language.map Char.toLower ++ '-' :: region.map Char.toUpper)
    else locale
  | none => locale

/-! ## The variables -/

/-- A sort of the category grid. -/
structure SonySort where
  name : String
  isAscending : Bool
deriving DecidableEq

/-- The JSON of a sort. -/
def SonySort.toJson (sort : SonySort) : Value :=
  .object [("name", .string sort.name), ("isAscending", .bool sort.isAscending)]

/-- The variables of the category grid. The facet options are empty. -/
structure GridVariables where
  id : String
  locale : String
  size : ℕ
  offset : ℕ
  sortBy : Option SonySort
  filterBy : List String
deriving DecidableEq

/-- The JSON of the variables. -/
def GridVariables.toJson (grid : GridVariables) : Value :=
  .object [("id", .string grid.id), ("locale", .string grid.locale),
    ("pageArgs", .object [("size", natToJson grid.size), ("offset", natToJson grid.offset)]),
    ("sortBy", nullOr SonySort.toJson grid.sortBy),
    ("filterBy", textsToJson grid.filterBy), ("facetOptions", .array [])]

/-- A request of the category grid. -/
inductive GridQuery where
  | feature (feature : SonyFeature) (size offset : ℕ)
  | browse (request : BrowseRequest)
  | genres
deriving DecidableEq

/-- The filter of every grid. -/
def ps5Filter : String := "targetPlatforms:PS5"

/-- The sort of NEW, UPCOMING and DISCOUNTED. -/
def releaseDateDesc : SonySort := ⟨"conceptReleaseDate", false⟩

/-- The sort of a BROWSE order. -/
def browseSort : BrowseOrder → SonySort
  | .bestSelling => ⟨"sales30", false⟩
  | .mostDownloaded => ⟨"downloads30", false⟩
  | .newest => ⟨"conceptReleaseDate", false⟩
  | .oldest => ⟨"conceptReleaseDate", true⟩
  | .nameAsc => ⟨"conceptName", true⟩
  | .nameDesc => ⟨"conceptName", false⟩

/-- The category of a feature, and its window of the release date. -/
def featureScope (contract : WireContract) : SonyFeature → String × Option String
  | .new => (contract.categoryId, some "conceptReleaseDate:last_thirty_days")
  | .upcoming => (contract.categoryId, some "conceptReleaseDate:next_thirty_days")
  | .discounted => (contract.dealsCategoryId, none)

/-- The variables of a request. -/
def GridQuery.variables (contract : WireContract) : GridQuery → GridVariables
  | .feature kind size offset =>
    { id := (featureScope contract kind).1
      locale := contract.locale
      size := size
      offset := offset
      sortBy := some releaseDateDesc
      filterBy := ps5Filter :: (featureScope contract kind).2.toList }
  | .browse request =>
    { id := contract.categoryId
      locale := contract.locale
      size := request.size
      offset := request.offset
      sortBy := some (browseSort request.order)
      filterBy := [ps5Filter, "conceptGenres:" ++ request.genre.text] }
  | .genres =>
    { id := contract.categoryId, locale := contract.locale, size := 0, offset := 0, sortBy := none
      filterBy := [ps5Filter] }

/-- The variables of a product. -/
def productVariables (id : ProductId) : Value := .object [("productId", .string id.text)]

/-- The variables of a library page. -/
def PurchasedVariables.toJson (page : PurchasedVariables) : Value :=
  .object [("isActive", .bool page.isActive), ("platform", textsToJson page.platform),
    ("size", natToJson page.size), ("start", natToJson page.start), ("sortBy", .string page.sortBy),
    ("sortDirection", .string page.sortDirection)]

/-- The extensions of a persisted query. -/
def extensionsJson (hash : String) : Value :=
  .object [("persistedQuery", .object [("version", natToJson 1), ("sha256Hash", .string hash)])]

/-! ## The requests -/

/-- A request as it is sent: a `POST` of a form where it has one, and a `GET` elsewhere. -/
structure Outbound where
  url : List Char
  headers : List (String × String)
  form : Option (List UInt8)

/-- A persisted query. -/
inductive GraphqlRequest where
  | grid (query : GridQuery)
  | product (id : ProductId)
  | productPrice (id : ProductId)
  | search (term : List Char) (offset size : ℕ)
  | purchased (accessToken : Secret) (page : PurchasedVariables)
  | wishlist (accessToken : Secret)
deriving DecidableEq

namespace GraphqlRequest

/-- The name of the operation. -/
def operation (contract : WireContract) : GraphqlRequest → String
  | .grid _ => contract.categoryGridOperation
  | .product _ => contract.productOperation
  | .productPrice _ => contract.productPriceOperation
  | .search _ _ _ => contract.searchOperation
  | .purchased _ _ => contract.purchasedOperation
  | .wishlist _ => contract.wishlistOperation

/-- The hash of the query. -/
def hash (contract : WireContract) : GraphqlRequest → String
  | .grid _ => contract.categoryGridHash
  | .product _ => contract.productHash
  | .productPrice _ => contract.productPriceHash
  | .search _ _ _ => contract.searchHash
  | .purchased _ _ => contract.purchasedHash
  | .wishlist _ => contract.wishlistHash

/-- The variables. -/
def vars (contract : WireContract) : GraphqlRequest → Value
  | .grid query => (query.variables contract).toJson
  | .product id | .productPrice id => productVariables id
  | .search term offset size => searchVariablesJson term offset size
  | .purchased _ page => page.toJson
  | .wishlist _ => .object []

/-- The access token of a signed-in request. -/
def accessToken : GraphqlRequest → Option Secret
  | .purchased accessToken _ | .wishlist accessToken => some accessToken
  | _ => none

/-- The request. -/
def outbound (contract : WireContract) (request : GraphqlRequest) : Outbound where
  url := contract.graphqlUrl.toList ++ '?' ::
    asciiText (graphqlQuery (request.operation contract) (request.hash contract)
      (write (request.vars contract)))
  headers :=
    ("accept", "application/json") ::
      (request.accessToken.toList.map fun token => ("authorization", "Bearer " ++ token.expose)) ++
        [("x-apollo-operation-name", request.operation contract),
          ("x-psn-store-locale-override", localeOverride contract.locale)]
  form := none

/-- The request with another access token. -/
def withToken (token : Secret) : GraphqlRequest → GraphqlRequest
  | .purchased _ page => .purchased token page
  | .wishlist _ => .wishlist token
  | request => request

end GraphqlRequest

/-! ## The variables are read back -/

/-- The JSON of a sort tells the sort. -/
lemma SonySort.toJson_injective : Function.Injective SonySort.toJson := by
  intro sort sort' h
  obtain ⟨name, isAscending⟩ := sort
  obtain ⟨name', isAscending'⟩ := sort'
  simp only [toJson, Value.object.injEq, List.cons.injEq, Prod.mk.injEq, Value.string.injEq,
    Value.bool.injEq, true_and, and_true] at h
  rw [h.1, h.2]

/-- The JSON of texts tells the texts. -/
lemma textsToJson_injective : Function.Injective textsToJson := by
  intro texts texts' h
  exact List.map_injective_iff.mpr (fun _ _ => Value.string.inj) (Value.array.inj h)

/-- The JSON of a number tells the number. -/
lemma natToJson_injective : Function.Injective natToJson := by
  intro n n' h
  exact Number.posInt.inj (Value.number.inj h)

/-- The JSON of an optional sort tells the sort. -/
lemma nullOr_sort_injective : Function.Injective (nullOr SonySort.toJson) := by
  intro sort sort' h
  cases sort with
  | none =>
    cases sort' with
    | none => rfl
    | some sort' => cases h
  | some sort =>
    cases sort' with
    | none => cases h
    | some sort' => rw [SonySort.toJson_injective h]

/-- The JSON of the grid variables tells the variables. -/
lemma GridVariables.toJson_injective : Function.Injective GridVariables.toJson := by
  intro grid grid' h
  obtain ⟨id, locale, size, offset, sortBy, filterBy⟩ := grid
  obtain ⟨id', locale', size', offset', sortBy', filterBy'⟩ := grid'
  simp only [toJson, Value.object.injEq, List.cons.injEq, Prod.mk.injEq, Value.string.injEq,
    true_and, and_true] at h
  obtain ⟨rfl, rfl, ⟨hsize, hoffset⟩, hsort, hfilter⟩ := h
  rw [natToJson_injective hsize, natToJson_injective hoffset, nullOr_sort_injective hsort,
    textsToJson_injective hfilter]

/-- The filter of a genre is no window of the release date. -/
lemma genreFilter_ne (genre window : String) :
    "conceptGenres:" ++ genre ≠ "conceptReleaseDate:" ++ window := by
  intro h
  have hfront := congrArg (fun text : String => text.toList.take 9) h
  simp only [String.toList_append] at hfront
  rw [List.take_append_of_le_length (by decide), List.take_append_of_le_length (by decide)]
    at hfront
  exact absurd hfront (by decide)

/-- The windows are windows of the release date. -/
lemma featureScope_spec (contract : WireContract) (feature : SonyFeature) :
    (featureScope contract feature).2 = none ∨
      ∃ window, (featureScope contract feature).2 = some ("conceptReleaseDate:" ++ window) := by
  cases feature with
  | new => exact Or.inr ⟨"last_thirty_days", rfl⟩
  | upcoming => exact Or.inr ⟨"next_thirty_days", rfl⟩
  | discounted => exact Or.inl rfl

/-- The window tells the feature. -/
lemma featureScope_injective (contract : WireContract) {feature feature' : SonyFeature}
    (h : (featureScope contract feature).2 = (featureScope contract feature').2) :
    feature = feature' := by
  cases feature <;> cases feature' <;> first | rfl | exact absurd h (by simp [featureScope])

/-- The sort tells the order. -/
lemma browseSort_injective : Function.Injective browseSort := by
  intro order order' h
  cases order <;> cases order' <;> first | rfl | exact absurd h (by simp [browseSort])

/-- Texts behind one front are equal where the whole is. -/
lemma append_cancel_front {front text text' : String} (h : front ++ text = front ++ text') :
    text = text' := by
  have hlist := congrArg String.toList h
  rw [String.toList_append, String.toList_append] at hlist
  exact String.toList_injective (List.append_cancel_left hlist)

/-- A BROWSE filter tells the genre. -/
lemma genreFilter_injective {genre genre' : GenreKey}
    (h : "conceptGenres:" ++ genre.text = "conceptGenres:" ++ genre'.text) : genre = genre' := by
  have htext := append_cancel_front h
  obtain ⟨text, valid⟩ := genre
  cases htext
  rfl

/-- **The grid variables tell the request.**

**Proof sketch.** The genre list has no sort. A feature and a BROWSE list differ in their second
filter, which names a window of dates or a genre; two features in the filter of their kind, and two
BROWSE lists in the genre, the sort, the offset or the size. -/
lemma GridQuery.variables_injective (contract : WireContract) :
    Function.Injective (GridQuery.variables contract) := by
  intro query query' h
  have hsize := congrArg GridVariables.size h
  have hoffset := congrArg GridVariables.offset h
  have hsort := congrArg GridVariables.sortBy h
  have hfilter := congrArg GridVariables.filterBy h
  -- a sort tells the genre list from the others, and the second filter the others from each other
  cases query with
  | genres =>
    cases query' with
    | genres => rfl
    | feature kind size offset => cases hsort
    | browse request => cases hsort
  | feature kind size offset =>
    cases query' with
    | genres => cases hsort
    | feature kind' size' offset' =>
      have hscope : (featureScope contract kind).2 = (featureScope contract kind').2 := by
        have hlist := (List.cons.inj hfilter).2
        cases hone : (featureScope contract kind).2 <;>
          cases htwo : (featureScope contract kind').2 <;>
            simp_all
      have hkind := featureScope_injective contract hscope
      have hsizes : size = size' := hsize
      have hoffsets : offset = offset' := hoffset
      rw [hkind, hsizes, hoffsets]
    | browse request =>
      have hlist := (List.cons.inj hfilter).2
      rcases featureScope_spec contract kind with hnone | ⟨window, hwindow⟩
      · rw [hnone] at hlist
        cases hlist
      · rw [hwindow] at hlist
        exact absurd (List.cons.inj hlist).1.symm (genreFilter_ne _ _)
  | browse request =>
    cases query' with
    | genres => cases hsort
    | feature kind size offset =>
      have hlist := (List.cons.inj hfilter).2
      rcases featureScope_spec contract kind with hnone | ⟨window, hwindow⟩
      · rw [hnone] at hlist
        cases hlist
      · rw [hwindow] at hlist
        exact absurd (List.cons.inj hlist).1 (genreFilter_ne _ _)
    | browse request' =>
      obtain ⟨genre, order, offset, size⟩ := request
      obtain ⟨genre', order', offset', size'⟩ := request'
      have hgenre : genre = genre' :=
        genreFilter_injective (List.cons.inj (List.cons.inj hfilter).2).1
      have horder : order = order' := browseSort_injective (Option.some.inj hsort)
      have hsizes : size = size' := hsize
      have hoffsets : offset = offset' := hoffset
      rw [hgenre, horder, hsizes, hoffsets]

/-! ## Requests -/

/-- The variables are written without loss. -/
lemma GraphqlRequest.plain_vars (contract : WireContract) (request : GraphqlRequest) :
    Plain (request.vars contract) := by
  cases request with
  | grid query =>
    have hsort : ∀ sort : SonySort, Plain sort.toJson := by
      intro sort
      simp [SonySort.toJson, Plain, PlainFields]
    simp [vars, GridVariables.toJson, Plain, PlainFields, PlainItems, plain_nullOr hsort,
      plain_textsToJson, plain_natToJson]
  | product id => simp [vars, productVariables, Plain, PlainFields]
  | productPrice id => simp [vars, productVariables, Plain, PlainFields]
  | search term offset size =>
    simp [vars, searchVariablesJson, Plain, PlainFields, plain_natToJson]
  | purchased token page =>
    simp [vars, PurchasedVariables.toJson, Plain, PlainFields, plain_textsToJson, plain_natToJson]
  | wishlist token => simp [vars, Plain, PlainFields]

/-- The extensions are written without loss. -/
lemma plain_extensionsJson (hash : String) : Plain (extensionsJson hash) := by
  simp [extensionsJson, Plain, PlainFields, plain_natToJson]

/-- The extensions are the text of their JSON. -/
lemma persistedQuery_eq (hash : String) : persistedQuery hash = write (extensionsJson hash) := by
  have hfront : '\x7b' :: (writeString "persistedQuery".toList ++ ':' :: '\x7b' ::
      (writeString "version".toList ++ ':' :: (write (natToJson 1) ++ ',' ::
        (writeString "sha256Hash".toList ++ [':'])))) =
      "\x7b\"persistedQuery\":\x7b\"version\":1,\"sha256Hash\":".toList := by decide +kernel
  unfold persistedQuery extensionsJson
  rw [← hfront, write, writeFields, write, writeFields, writeFields, write]
  generalize writeString "persistedQuery".toList = query
  generalize writeString "version".toList = version
  generalize writeString "sha256Hash".toList = sha
  generalize writeString hash.toList = text
  generalize write (natToJson 1) = one
  simp only [List.cons_append, List.append_assoc, List.nil_append]

/-- What Sony reads from the URL of a persisted query. -/
def ReadsAs (endpoint url : List Char) (operation hash : String) (vars : Value) : Prop :=
  ∃ query varsText extensionsText, splitOnce '?' url = some (endpoint, query) ∧
    FormUrlencoded.parse (toUtf8 query) = [("operationName", operation), ("variables", varsText),
      ("extensions", extensionsText)] ∧
    Json.read varsText.toList = some vars ∧
    Json.read extensionsText.toList = some (extensionsJson hash)

/-- **Sony reads the query.** -/
lemma GraphqlRequest.readsAs (contract : WireContract) (request : GraphqlRequest) :
    ReadsAs contract.graphqlUrl.toList (request.outbound contract).url (request.operation contract)
      (request.hash contract) (request.vars contract) := by
  refine ⟨asciiText (graphqlQuery (request.operation contract) (request.hash contract)
    (write (request.vars contract))), String.ofList (write (request.vars contract)),
    String.ofList (persistedQuery (request.hash contract)),
    splitOnce_append contract.graphqlUrl_plain _, ?_, ?_, ?_⟩
  · rw [toUtf8_asciiText]
    · exact FormUrlencoded.parse_serialize _
    · intro b hb
      exact (FormUrlencoded.serialize_spec hb).1
  · rw [String.toList_ofList]
    exact read_write (request.plain_vars contract)
  · rw [String.toList_ofList, persistedQuery_eq]
    exact read_write (plain_extensionsJson _)

/-- A query that is read has one reading. -/
lemma ReadsAs.unique {endpoint endpoint' url : List Char} {operation operation' hash hash' : String}
    {vars vars' : Value} (h : ReadsAs endpoint url operation hash vars)
    (h' : ReadsAs endpoint' url operation' hash' vars') :
    operation = operation' ∧ vars = vars' := by
  obtain ⟨query, varsText, extensionsText, hsplit, hparse, hvars, -⟩ := h
  obtain ⟨query', varsText', extensionsText', hsplit', hparse', hvars', -⟩ := h'
  rw [hsplit] at hsplit'
  obtain ⟨-, rfl⟩ := Prod.mk.inj (Option.some.inj hsplit')
  rw [hparse] at hparse'
  simp only [List.cons.injEq, Prod.mk.injEq, true_and, and_true] at hparse'
  obtain ⟨hoperation, rfl, -⟩ := hparse'
  rw [hvars] at hvars'
  exact ⟨hoperation, Option.some.inj hvars'⟩

/-- The kind of a request. -/
def GraphqlRequest.kind : GraphqlRequest → Fin 6
  | .grid _ => 0
  | .product _ => 1
  | .productPrice _ => 2
  | .search _ _ _ => 3
  | .purchased _ _ => 4
  | .wishlist _ => 5

/-- The operation tells the kind. -/
lemma GraphqlRequest.kind_eq_of_operation {contract : WireContract}
    {request request' : GraphqlRequest}
    (h : request.operation contract = request'.operation contract) :
    request.kind = request'.kind := by
  have hnodup := contract.operations_nodup
  have hname : ∀ request : GraphqlRequest, request.operation contract =
      [contract.categoryGridOperation, contract.productOperation, contract.productPriceOperation,
        contract.searchOperation, contract.purchasedOperation,
        contract.wishlistOperation][request.kind] := by
    intro request
    cases request <;> rfl
  rw [hname request, hname request'] at h
  exact Fin.ext ((hnodup.getElem_inj_iff).mp h)

/-- The JSON of a library page tells the page. -/
lemma PurchasedVariables.toJson_injective : Function.Injective PurchasedVariables.toJson := by
  intro page page' h
  obtain ⟨isActive, platform, size, start, sortBy, sortDirection⟩ := page
  obtain ⟨isActive', platform', size', start', sortBy', sortDirection'⟩ := page'
  simp only [toJson, Value.object.injEq, List.cons.injEq, Prod.mk.injEq, Value.string.injEq,
    Value.bool.injEq, true_and, and_true] at h
  obtain ⟨rfl, hplatform, hsize, hstart, rfl, rfl⟩ := h
  rw [textsToJson_injective hplatform, natToJson_injective hsize, natToJson_injective hstart]

/-- The JSON of a search tells its arguments. -/
lemma searchVariablesJson_injective {term term' : List Char} {offset offset' size size' : ℕ}
    (h : searchVariablesJson term offset size = searchVariablesJson term' offset' size') :
    term = term' ∧ offset = offset' ∧ size = size' := by
  simp only [searchVariablesJson, Value.object.injEq, List.cons.injEq, Prod.mk.injEq,
    Value.string.injEq, true_and, and_true] at h
  obtain ⟨hoffset, hsize, hterm⟩ := h
  exact ⟨String.ofList_injective hterm, natToJson_injective hoffset, natToJson_injective hsize⟩

/-- The JSON of a product tells the product. -/
lemma productVariables_injective : Function.Injective productVariables := by
  intro id id' h
  obtain ⟨text, valid⟩ := id
  obtain ⟨text', valid'⟩ := id'
  simp only [productVariables, Value.object.injEq, List.cons.injEq, Prod.mk.injEq,
    Value.string.injEq, true_and, and_true] at h
  cases h
  rfl

/-- The `Authorization` header holds the access token. -/
lemma GraphqlRequest.filter_authorization (contract : WireContract) (request : GraphqlRequest) :
    (request.outbound contract).headers.filter (fun header => header.1 = "authorization") =
      request.accessToken.toList.map fun token => ("authorization", "Bearer " ++ token.expose) := by
  unfold outbound
  cases request.accessToken <;> simp

/-- The header tells the access token. -/
lemma GraphqlRequest.accessToken_of_headers {contract : WireContract}
    {request request' : GraphqlRequest}
    (h : (request.outbound contract).headers = (request'.outbound contract).headers) :
    request.accessToken = request'.accessToken := by
  have hauth := congrArg (List.filter fun header => header.1 = "authorization") h
  rw [filter_authorization, filter_authorization] at hauth
  cases hone : request.accessToken with
  | none =>
    cases htwo : request'.accessToken with
    | none => rfl
    | some token' =>
      rw [hone, htwo] at hauth
      cases hauth
  | some token =>
    cases htwo : request'.accessToken with
    | none =>
      rw [hone, htwo] at hauth
      cases hauth
    | some token' =>
      rw [hone, htwo] at hauth
      have hbearer := (Prod.mk.inj (List.cons.inj hauth).1).2
      obtain ⟨expose⟩ := token
      obtain ⟨expose'⟩ := token'
      have hexpose : expose = expose' := append_cancel_front hbearer
      rw [hexpose]

/-- **No two queries have one request.**

**Proof sketch.** The request is read back from what is sent (`GraphqlRequest.readsAs`): the name of
the operation tells the kind of the query, the header the access token, and the variables the rest,
kind by kind. -/
lemma GraphqlRequest.outbound_injective (contract : WireContract) :
    Function.Injective (GraphqlRequest.outbound contract) := by
  intro request request' h
  have hread := request.readsAs contract
  rw [h] at hread
  obtain ⟨hoperation, hvars⟩ := hread.unique (request'.readsAs contract)
  have hkind := GraphqlRequest.kind_eq_of_operation hoperation
  have htoken := accessToken_of_headers (congrArg Outbound.headers h)
  cases request with
  | grid query =>
    cases request' with
    | grid query' =>
      rw [GridQuery.variables_injective contract (GridVariables.toJson_injective hvars)]
    | _ => cases hkind
  | product id =>
    cases request' with
    | product id' => rw [productVariables_injective hvars]
    | _ => cases hkind
  | productPrice id =>
    cases request' with
    | productPrice id' => rw [productVariables_injective hvars]
    | _ => cases hkind
  | search term offset size =>
    cases request' with
    | search term' offset' size' =>
      obtain ⟨rfl, rfl, rfl⟩ := searchVariablesJson_injective hvars
      rfl
    | _ => cases hkind
  | purchased token page =>
    cases request' with
    | purchased token' page' =>
      rw [Option.some.inj htoken, PurchasedVariables.toJson_injective hvars]
    | _ => cases hkind
  | wishlist token =>
    cases request' with
    | wishlist token' => rw [Option.some.inj htoken]
    | _ => cases hkind

/-! ## Every request to Sony -/

/-- The parameters of the authorize call. -/
def WireContract.authorizeParams (contract : WireContract) : List (String × String) :=
  [("access_type", "offline"), ("client_id", contract.authClientId),
    ("redirect_uri", contract.authRedirectUri), ("response_type", "code"),
    ("scope", contract.authScope)]

/-- The authorize call, with the only header that holds the NPSSO. -/
def WireContract.authorize (contract : WireContract) (npsso : Secret) : Outbound where
  url := contract.authBaseUrl.toList ++ "/authorize?".toList ++
    asciiText (FormUrlencoded.serialize contract.authorizeParams)
  headers := [("cookie", "npsso=" ++ npsso.expose)]
  form := none

/-- The form of the token call. -/
def WireContract.tokenForm (contract : WireContract) (code : Secret) : List (String × String) :=
  [("code", code.expose), ("redirect_uri", contract.authRedirectUri),
    ("grant_type", "authorization_code"), ("token_format", "jwt")]

/-- The token call. -/
def WireContract.requestToken (contract : WireContract) (code : Secret) : Outbound where
  url := contract.authBaseUrl.toList ++ "/token".toList
  headers := [("authorization", contract.authBasicHeader),
    ("content-type", "application/x-www-form-urlencoded")]
  form := some (FormUrlencoded.serialize (contract.tokenForm code))

/-- The URL of the monthly feed. -/
def plusMonthlyUrl : String := "https://www.playstation.com/bin/imagic/gameslist"

/-- The request of the monthly feed. -/
def WireContract.plusMonthly (contract : WireContract) : Outbound where
  url := plusMonthlyUrl.toList ++ '?' :: asciiText (FormUrlencoded.serialize
    [("locale", contract.locale), ("categoryList", "plus-monthly-games-list")])
  headers := [("accept", "application/json")]
  form := none

/-- A request to Sony. -/
inductive UpstreamRequest where
  | graphql (request : GraphqlRequest)
  | plusMonthly
  | authorize (npsso : Secret)
  | token (code : Secret)
deriving DecidableEq

namespace UpstreamRequest

/-- The request as it is sent. -/
def outbound (contract : WireContract) : UpstreamRequest → Outbound
  | .graphql request => request.outbound contract
  | .plusMonthly => contract.plusMonthly
  | .authorize npsso => contract.authorize npsso
  | .token code => contract.requestToken code

/-- The request with other credentials. -/
def withCredential (credential : Secret) : UpstreamRequest → UpstreamRequest
  | .graphql request => .graphql (request.withToken credential)
  | .plusMonthly => .plusMonthly
  | .authorize _ => .authorize credential
  | .token _ => .token credential

/-- The header that holds the credential of a request. The token call has its code in the form. -/
def credentialHeader : UpstreamRequest → Option String
  | .graphql request => request.accessToken.map fun _ => "authorization"
  | .authorize _ => some "cookie"
  | .plusMonthly | .token _ => none

/-- The request holds no credential. -/
def isAnonymous : UpstreamRequest → Bool
  | .graphql request => request.accessToken.isNone
  | .plusMonthly => true
  | .authorize _ | .token _ => false

end UpstreamRequest

/-- The headers of a request but the one with a name. Without a name, all of them. -/
def Outbound.headersBut (request : Outbound) (name : Option String) : List (String × String) :=
  request.headers.filter fun header => some header.1 ≠ name

/-- The pairs of the form of a request but those of the one-time code. -/
def Outbound.formButCode (request : Outbound) : Option (List (String × String)) :=
  request.form.map fun form => (FormUrlencoded.parse form).filter fun pair => pair.1 ≠ "code"

/-- The operation header of a request. -/
def Outbound.operationHeader (request : Outbound) : Option String :=
  request.headers.lookup "x-apollo-operation-name"

/-- A query has no form, and its first header is `Accept`. -/
lemma GraphqlRequest.outbound_spec (contract : WireContract) (request : GraphqlRequest) :
    (request.outbound contract).form = none ∧
      (request.outbound contract).headers.head? = some ("accept", "application/json") ∧
      (request.outbound contract).operationHeader = some (request.operation contract) := by
  refine ⟨rfl, rfl, ?_⟩
  unfold Outbound.operationHeader outbound
  cases request.accessToken <;> rfl

/-- **No two requests to Sony are sent as one.** -/
lemma UpstreamRequest.outbound_injective (contract : WireContract) :
    Function.Injective (UpstreamRequest.outbound contract) := by
  intro request request' h
  have hform := congrArg Outbound.form h
  have hhead := congrArg (fun request => request.headers.head?) h
  have hlength := congrArg (fun request => request.headers.length) h
  -- the form tells the token call, the first header the authorize call, and the number of headers
  -- the monthly feed
  cases request with
  | graphql query =>
    cases request' with
    | graphql query' => rw [GraphqlRequest.outbound_injective contract h]
    | plusMonthly =>
      have hone : (query.outbound contract).headers.length = 1 := hlength
      simp [GraphqlRequest.outbound] at hone
    | authorize npsso => exact absurd (Option.some.inj hhead) (by simp)
    | token code => cases hform
  | plusMonthly =>
    cases request' with
    | graphql query =>
      have hone : 1 = (query.outbound contract).headers.length := hlength
      simp [GraphqlRequest.outbound] at hone
    | plusMonthly => rfl
    | authorize npsso => exact absurd (Option.some.inj hhead) (by simp)
    | token code => cases hform
  | authorize npsso =>
    cases request' with
    | graphql query => exact absurd (Option.some.inj hhead) (by simp)
    | plusMonthly => exact absurd (Option.some.inj hhead) (by simp)
    | authorize npsso' =>
      obtain ⟨expose⟩ := npsso
      obtain ⟨expose'⟩ := npsso'
      have hexpose : expose = expose' :=
        append_cancel_front (Prod.mk.inj (Option.some.inj hhead)).2
      rw [hexpose]
    | token code => cases hform
  | token code =>
    cases request' with
    | graphql query => cases hform
    | plusMonthly => cases hform
    | authorize npsso => cases hform
    | token code' =>
      obtain ⟨expose⟩ := code
      obtain ⟨expose'⟩ := code'
      have hparse := congrArg FormUrlencoded.parse (Option.some.inj hform)
      rw [FormUrlencoded.parse_serialize, FormUrlencoded.parse_serialize] at hparse
      have hexpose : expose = expose' := (Prod.mk.inj (List.cons.inj hparse).1).2
      rw [hexpose]

/-- **A credential is in its own header or form only**: with another credential, the URL, every
other header and every other pair of the form are the same. -/
lemma UpstreamRequest.outbound_withCredential (contract : WireContract) (request : UpstreamRequest)
    (credential : Secret) :
    ((request.withCredential credential).outbound contract).url = (request.outbound contract).url ∧
      ((request.withCredential credential).outbound contract).headersBut request.credentialHeader =
        (request.outbound contract).headersBut request.credentialHeader ∧
      ((request.withCredential credential).outbound contract).formButCode =
        (request.outbound contract).formButCode := by
  cases request with
  | graphql query => cases query <;> exact ⟨rfl, rfl, rfl⟩
  | plusMonthly => exact ⟨rfl, rfl, rfl⟩
  | authorize npsso => exact ⟨rfl, rfl, rfl⟩
  | token code =>
    have hform : ∀ code : Secret, (contract.requestToken code).formButCode =
        some ((contract.tokenForm code).filter fun pair => pair.1 ≠ "code") := by
      intro code
      show some ((FormUrlencoded.parse (FormUrlencoded.serialize _)).filter _) = _
      rw [FormUrlencoded.parse_serialize]
    exact ⟨rfl, rfl, (hform credential).trans (hform code).symm⟩

/-- **The requests to Sony.** For every contract with the properties of the committed one:

* Sony reads from a persisted query its operation, which the header repeats, the hash of the
  contract, and the JSON of its variables, whatever characters its arguments have;
* no two requests to Sony are sent as one: their arguments and credentials can be told apart;
* the form of the token call is read as the code and the fixed pairs;
* every category grid is asked for PS5 games only;
* with another credential, a request has the same URL, the same headers but the `Cookie` of the
  authorize call and the `Authorization` of the signed-in lists, and the same form but the `code` of
  the token call; the other requests have no credential.

**Proof sketch.** A query is written as pairs, and the pairs of a form are parsed back
(`FormUrlencoded.parse_serialize`); the variables are plain JSON, which is read back from its text
(`Json.read_write`). So a request determines its operation, its variables and its credential, and
the operations of the contract are different. -/
theorem upstream_round_trip (contract : WireContract) :
    (∀ request : GraphqlRequest,
      ReadsAs contract.graphqlUrl.toList (request.outbound contract).url
        (request.operation contract) (request.hash contract) (request.vars contract) ∧
      (request.outbound contract).operationHeader = some (request.operation contract)) ∧
    Function.Injective (UpstreamRequest.outbound contract) ∧
    (∀ code, ((contract.requestToken code).form.map FormUrlencoded.parse) =
      some (contract.tokenForm code)) ∧
    (∀ query : GridQuery, ps5Filter ∈ (query.variables contract).filterBy) ∧
    ∀ (request : UpstreamRequest) (credential : Secret),
      ((request.withCredential credential).outbound contract).url =
        (request.outbound contract).url ∧
      ((request.withCredential credential).outbound contract).headersBut request.credentialHeader =
        (request.outbound contract).headersBut request.credentialHeader ∧
      ((request.withCredential credential).outbound contract).formButCode =
        (request.outbound contract).formButCode ∧
      ((∀ code, request ≠ .token code) → (request.outbound contract).form = none) ∧
      (request.isAnonymous = true → request.withCredential credential = request) := by
  refine ⟨?_, UpstreamRequest.outbound_injective contract, ?_, ?_, ?_⟩
  · intro request
    exact ⟨request.readsAs contract, (request.outbound_spec contract).2.2⟩
  · intro code
    show some (FormUrlencoded.parse (FormUrlencoded.serialize _)) = _
    rw [FormUrlencoded.parse_serialize]
  · intro query
    cases query <;> exact List.mem_cons_self
  · intro request credential
    obtain ⟨hurl, hheaders, hform⟩ := request.outbound_withCredential contract credential
    refine ⟨hurl, hheaders, hform, ?_, ?_⟩
    · intro htoken
      cases request with
      | token code => exact absurd rfl (htoken code)
      | _ => rfl
    · intro hanonymous
      cases request with
      | graphql query =>
        cases query with
        | purchased token page => cases hanonymous
        | wishlist token => cases hanonymous
        | _ => rfl
      | plusMonthly => rfl
      | authorize npsso => cases hanonymous
      | token code => cases hanonymous

end PsStore
