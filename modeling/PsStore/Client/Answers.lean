import PsStore.Client.Call

set_option relaxedAutoImplicit false
set_option autoImplicit false

/-!
# The answers of the server in the client

The text of an answer on the wire, and what the call of its route makes of it. The bodies of the
server are JSON without fractions, which `read` reads as `JSON.parse` does: an integer that a
JavaScript number does not hold exactly is no integer of a schema either way. A call returns the
JSON of the success that it got.

## Main definitions

* `Payload.text`, `Delivers` — the text of an answer, and its arrival in the client.
* `Payload.data`, `outcome` — the data of a success; the outcome of the call of a route.
* `IsReadable`, `readBack` — the successes that the client reads, and what it should make of an
  answer.

## Main results

* `outcome_eq_readBack` — the client reads every documented answer.
-/

namespace PsStore

open Json

/-- The text of a success. -/
def Payload.text : Payload → List Char
  | .page result => write result.toJson
  | .genres menu => write (genreListToJson menu)
  | .game detail => write detail.toJson
  | .operational body => write body
  | .noContent | .empty => []
  | .file answer => fromUtf8Lossy answer.content

/-- The data of a success, or nothing where it has no JSON body. -/
def Payload.data : Payload → Option Value
  | .page result => some result.toJson
  | .genres menu => some (genreListToJson menu)
  | .game detail => some detail.toJson
  | .operational body => some body
  | .noContent | .empty | .file _ => none

/-- The text of an answer. -/
def Response.text (response : Response Payload) : List Char :=
  match response.body with
  | .ok payload => payload.text
  | .error problem => write problem.toJson

namespace Client

variable {α : Type}

/-- The answer arrives as it was sent. A `Content-Length` of 0 belongs to an empty text. -/
def Delivers (response : Response Payload) (fetched : Fetched) : Prop :=
  ∃ contentLength, fetched = .answered response.status contentLength (some response.text) ∧
    (contentLength = some "0" → response.text = [])

/-- The outcome of the call of a route: the data, or nothing where the answer has no body. -/
def outcome (parse : List Char → Option Value) (fetched : Fetched) :
    Operation → Except Failure (Option Value)
  | .listGenres => (unwrap parse zGenreList fetched).map some
  | .getGame => (unwrap parse zGameDetail fetched).map some
  | .signIn | .signOut => (unwrapEmpty parse fetched).map fun _ => none
  | _ => (unwrap parse zPageResult fetched).map some

/-- The successes that the client reads: the integers are exact in JavaScript, and the genre keys
have their format. -/
def IsReadable : Payload → Bool
  | .page page => decide (page.totalCount ≤ maxSafeInteger) &&
      decide (∀ n ∈ page.nextOffset, n ≤ maxSafeInteger)
  | .genres genres => genres.all fun genre => isGenreKey genre.key
  | .game _ | .noContent => true
  | _ => false

/-- What the client should make of an answer. -/
def readBack (response : Response Payload) : Except Failure (Option Value) :=
  match response.body with
  | .error problem =>
    .error (.api ⟨problem.status, .problem problem.code, problem.retryAfterSeconds⟩)
  | .ok payload =>
    if IsReadable payload then .ok payload.data
    else .error (.api ⟨response.status, .invalidResponse, none⟩)

/-! ## The wire -/

/-- A written value is no empty text. -/
lemma write_ne_nil {value : Value} (h : ∃ fields, value = .object fields) : write value ≠ [] := by
  obtain ⟨fields, rfl⟩ := h
  unfold write
  exact List.cons_ne_nil _ _

/-- **A success is returned** where the schema accepts it. -/
lemma unwrap_success {schema : Schema α} {value : Value} (hplain : Plain value)
    (hvalue : ∃ fields, value = .object fields) {contentLength : Option String}
    (hlength : contentLength = some "0" → write value = []) :
    unwrap read schema (.answered 200 contentLength (some (write value))) =
      match schema value with
      | some _ => .ok value
      | none => .error (.api ⟨200, .invalidResponse, none⟩) := by
  have hne := write_ne_nil hvalue
  have hskipped : ¬(200 = 204 ∨ contentLength = some "0") := by
    rintro (h | h)
    · cases h
    · exact hne (hlength h)
  have hread : ¬skippedBody (200, contentLength) = true :=
    fun h => hskipped (skippedBody_eq_true_iff.mp h)
  have hdata : parsedBody read (write value) = some value := by
    unfold parsedBody
    rw [if_neg hne, read_write hplain]
  simp only [unwrap, sdkRequest, if_pos (by decide : isOk 200 = true), if_neg hskipped,
    Option.bind_some, hdata]
  cases schema value with
  | none => rfl
  | some a => exact if_neg hread

/-- The status of a code is no success. -/
lemma isOk_status (code : ProblemCode) : isOk code.status = false := by
  cases code <;> rfl

/-- **A failure is read as its problem**, whatever the schema of the success. -/
lemma sdkRequest_problem {schema : Schema α} {problem : Problem} (h : problem.IsPublic)
    (contentLength : Option String) :
    ∃ body, sdkRequest read schema
        (.answered problem.status contentLength (some (write problem.toJson))) =
      .error body (some (problem.status, contentLength)) ∧
      toFailure body (some (problem.status, contentLength)) =
        .api ⟨problem.status, .problem problem.code, problem.retryAfterSeconds⟩ := by
  have hstatus : problem.status = problem.code.status := by
    rw [h.eq_new]
    rfl
  have hok : isOk problem.status = false := by
    rw [hstatus]
    exact isOk_status _
  have hbody : errorBody read (write problem.toJson) = .json problem.toJson := by
    unfold errorBody
    rw [read_write problem.plain_toJson]
    rfl
  have hknown : knownProblem problem.status (orEmpty (.json problem.toJson)) = some problem := by
    rw [knownProblem_orEmpty]
    show (zProblem problem.toJson).filter _ = _
    rw [zProblem_toJson h]
    simp [problemStatus_eq, ← hstatus]
  refine ⟨orEmpty (.json problem.toJson), ?_, ?_⟩
  · simp only [sdkRequest, hok, Bool.false_eq_true, if_false, hbody]
  · simp only [toFailure, hok, Bool.false_eq_true, if_false, hknown]

/-- A failure in a call with a body. -/
lemma unwrap_problem {schema : Schema α} {problem : Problem} (h : problem.IsPublic)
    (contentLength : Option String) :
    unwrap read schema (.answered problem.status contentLength (some (write problem.toJson))) =
      .error (.api ⟨problem.status, .problem problem.code, problem.retryAfterSeconds⟩) := by
  obtain ⟨body, hrequest, hfailure⟩ := @sdkRequest_problem _ schema _ h contentLength
  simp only [unwrap, hrequest, hfailure]

/-- A failure in a call without a body. -/
lemma unwrapEmpty_problem {problem : Problem} (h : problem.IsPublic)
    (contentLength : Option String) :
    unwrapEmpty read (.answered problem.status contentLength (some (write problem.toJson))) =
      .error (.api ⟨problem.status, .problem problem.code, problem.retryAfterSeconds⟩) := by
  obtain ⟨body, hrequest, hfailure⟩ := @sdkRequest_problem _ zVoid _ h contentLength
  simp only [unwrapEmpty, hrequest, hfailure]

/-! ## The answers of the routes -/

/-- **A delivered success** is returned where the schema of its call accepts it. -/
lemma unwrap_delivered {schema : Schema α} {payload : Payload} {value : Value}
    (hplain : Plain value) (hvalue : ∃ fields, value = .object fields)
    (htext : payload.text = write value) {fetched : Fetched}
    (h : Delivers (.json payload) fetched) :
    unwrap read schema fetched =
      match schema value with
      | some _ => .ok value
      | none => .error (.api ⟨200, .invalidResponse, none⟩) := by
  obtain ⟨contentLength, rfl, hlength⟩ := h
  have hbody : (Response.json payload).text = write value := htext
  rw [hbody] at hlength ⊢
  exact unwrap_success hplain hvalue hlength

/-- A page is read where its integers are exact. -/
lemma outcome_page {page : PageResult} {fetched : Fetched}
    (h : Delivers (.json (.page page)) fetched) :
    (unwrap read zPageResult fetched).map some = readBack (.json (.page page)) := by
  rw [unwrap_delivered page.plain_toJson ⟨_, rfl⟩ rfl h, zPageResult_toJson]
  by_cases hsafe : page.totalCount ≤ maxSafeInteger ∧ ∀ n ∈ page.nextOffset, n ≤ maxSafeInteger
  · have hreadable : IsReadable (.page page) = true := by
      simp only [IsReadable, Bool.and_eq_true, decide_eq_true_eq]
      exact hsafe
    rw [if_pos hsafe]
    simp only [readBack, Response.json, hreadable, if_true]
    rfl
  · have hreadable : IsReadable (.page page) = false := by
      rw [Bool.eq_false_iff]
      intro hread
      simp only [IsReadable, Bool.and_eq_true, decide_eq_true_eq] at hread
      exact hsafe hread
    rw [if_neg hsafe]
    simp only [readBack, Response.json, hreadable, Bool.false_eq_true, if_false]
    rfl

/-- A genre menu is read where its keys have their format. -/
lemma outcome_genres {genres : List Genre} {fetched : Fetched}
    (h : Delivers (.json (.genres genres)) fetched) :
    (unwrap read zGenreList fetched).map some = readBack (.json (.genres genres)) := by
  rw [unwrap_delivered (plain_genreListToJson genres) ⟨_, rfl⟩ rfl h, zGenreList_toJson]
  simp only [readBack, Response.json, IsReadable, List.all_eq_true]
  split_ifs <;> rfl

/-- A game page is read. -/
lemma outcome_game {detail : GameDetail} {fetched : Fetched}
    (h : Delivers (.json (.game detail)) fetched) :
    (unwrap read zGameDetail fetched).map some = readBack (.json (.game detail)) := by
  rw [unwrap_delivered detail.plain_toJson ⟨_, rfl⟩ rfl h, zGameDetail_toJson]
  rfl

/-- **The client reads every documented answer.** Whatever the services answered: a success is
returned as it was sent where its integers are exact in JavaScript and its genre keys have their
format, and is an invalid response elsewhere; a failure is read with its status, its code and its
delay.

**Proof sketch.** By the documented answer. A success is a page, a game, a list of genres or an
empty answer, with one lemma each. A failure is the JSON of a problem, which every facade reads
alike (`unwrap_problem`, `unwrapEmpty_problem`). -/
theorem outcome_eq_readBack {operation : Operation} {response : Response Payload}
    {posted : Option Secret} {fetched : Fetched} (h : operation.Documents posted response)
    (hfetched : Delivers response fetched) :
    outcome read fetched operation = readBack response := by
  rcases h with hsuccess | hproblem
  · cases operation with
    | listGenres =>
      obtain ⟨genres, rfl⟩ := hsuccess
      exact outcome_genres hfetched
    | getGame =>
      obtain ⟨detail, rfl⟩ := hsuccess
      exact outcome_game hfetched
    | signIn =>
      obtain ⟨contentLength, rfl, -⟩ := hfetched
      obtain ⟨npsso, -, rfl⟩ := hsuccess
      rfl
    | signOut =>
      obtain ⟨contentLength, rfl, -⟩ := hfetched
      obtain rfl := hsuccess
      rfl
    | _ =>
      obtain ⟨page, rfl⟩ := hsuccess
      exact outcome_page hfetched
  · obtain ⟨contentLength, rfl, -⟩ := hfetched
    obtain ⟨problem, hbody, hstatus, hpublic, -⟩ := hproblem
    have htext : response.text = write problem.toJson := by
      unfold Response.text
      rw [hbody]
    have hback : readBack response =
        .error (.api ⟨problem.status, .problem problem.code, problem.retryAfterSeconds⟩) := by
      unfold readBack
      rw [hbody]
    rw [hstatus, htext, hback]
    cases operation <;>
      simp only [outcome, unwrap_problem hpublic, unwrapEmpty_problem hpublic] <;> rfl

end Client

end PsStore
