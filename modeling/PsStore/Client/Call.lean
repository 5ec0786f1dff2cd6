import PsStore.Client.Schema
import PsStore.Http.Documented

set_option relaxedAutoImplicit false
set_option autoImplicit false

/-!
# The calls of the client

What the facade `api-client/src/index.ts` and the generated client make of the answer to a request.
The generated client validates the body of a success, and returns it as it was parsed: the validator
only accepts it or not. The facade validates the body of a failure. A request that got no response
keeps its own error. JSON is parsed by a function that the calls take.

## Main definitions

* `Fetched` — what `fetch` and the reading of the body give.
* `SdkResult`, `sdkRequest` — the result of the generated client.
* `toFailure`, `unwrap`, `unwrapEmpty` — the outcome of a call.

## Main results

* `unwrap_eq_ok_iff`, `unwrapEmpty_eq_ok_iff` — when a call returns, and what.
* `unwrap_error`, `unwrapEmpty_error` — how a call fails.
* `outcome_sound` — what an outcome says about the response.
-/

namespace PsStore

open Json

namespace Client

variable {α : Type}

/-! ## Results of the generated client -/

/-- What `fetch` gives. -/
inductive Fetched where
  /-- A network failure or an abort before the response headers. -/
  | failed
  /-- A response with its `Content-Length`, and the text of its body unless the reading fails. -/
  | answered (status : ℕ) (contentLength : Option String) (text : Option (List Char))

/-- The error of a failed request. -/
inductive ErrorBody where
  | json (value : Value)
  | text (text : List Char)
  /-- An exception: a network failure, an abort, text that is no JSON, or an invalid body. -/
  | thrown

/-- `response.ok`. -/
def isOk (status : ℕ) : Bool := decide (200 ≤ status) && decide (status ≤ 299)

/-- The empty object. -/
def emptyObject : Value := .object []

/-- A value that is not falsy in JavaScript. -/
def isTruthy : Value → Bool
  | .null | .bool false | .number (.posInt 0) | .number (.negInt 0)
  | .number (.float (some 0)) => false
  | .string text => text ≠ ""
  | _ => true

/-- The body of an error response: its JSON, or its text where it is no JSON or `null`. -/
def errorBody (parse : List Char → Option Value) (text : List Char) : ErrorBody :=
  match parse text with
  | none | some .null => .text text
  | some value => .json value

/-- `error || {}`. -/
def orEmpty : ErrorBody → ErrorBody
  | .json value => if isTruthy value then .json value else .json emptyObject
  | .text text => if text = [] then .json emptyObject else .text text
  | .thrown => .thrown

/-- The result of a request: its data or its error. The response is given by its status and its
`Content-Length`. -/
inductive SdkResult where
  | success (data : Value) (response : ℕ × Option String)
  | error (error : ErrorBody) (response : Option (ℕ × Option String))

/-- The data of a success body: an empty text is an empty object. -/
def parsedBody (parse : List Char → Option Value) (text : List Char) : Option Value :=
  if text = [] then some emptyObject else parse text

/-- `client.request` of the generated client, with `parseAs: 'json'`. The data is what was parsed,
not what the validator makes of it. -/
def sdkRequest (parse : List Char → Option Value) (responseValidator : Schema α) :
    Fetched → SdkResult
  | .failed => .error .thrown none
  | .answered status contentLength text =>
    if isOk status then
      if status = 204 ∨ contentLength = some "0" then .success emptyObject (status, contentLength)
      else
        match text.bind (parsedBody parse) with
        | none => .error .thrown (some (status, contentLength))
        | some data =>
          match responseValidator data with
          | none => .error .thrown (some (status, contentLength))
          | some _ => .success data (status, contentLength)
    else
      match text with
      | some text => .error (orEmpty (errorBody parse text)) (some (status, contentLength))
      | none => .error .thrown (some (status, contentLength))

/-! ## The facade -/

/-- The status of a problem code. -/
def problemStatus : ProblemCode → ℕ
  | .invalidRequest => 400
  | .notFound => 404
  | .gameNotFound => 404
  | .sessionRejected => 401
  | .unsupportedMediaType => 415
  | .payloadTooLarge => 413
  | .upstreamUnavailable => 502
  | .upstreamQueryRotated => 502
  | .upstreamRateLimited => 503
  | .internalError => 500

/-- The code of an `ApiError`. -/
inductive ApiErrorCode where
  | problem (code : ProblemCode)
  | invalidResponse
  | unrecognizedError
deriving DecidableEq

/-- A failure with a response. -/
structure ApiError where
  status : ℕ
  code : ApiErrorCode
  retryAfterSeconds : Option ℕ
deriving DecidableEq

/-- The failure of a call. -/
inductive Failure where
  /-- The error of `fetch`. -/
  | original
  | api (error : ApiError)
deriving DecidableEq

/-- The problem of a failure body, where it is a known problem of the status. -/
def knownProblem (status : ℕ) : ErrorBody → Option Problem
  | .json value => (zProblem value).filter fun problem => problemStatus problem.code = status
  | _ => none

/-- The failure of a failed call. -/
def toFailure (body : ErrorBody) : Option (ℕ × Option String) → Failure
  | none => .original
  | some (status, _) =>
    if isOk status then .api ⟨status, .invalidResponse, none⟩
    else
      match knownProblem status body with
      | none => .api ⟨status, .unrecognizedError, none⟩
      | some problem => .api ⟨status, .problem problem.code, problem.retryAfterSeconds⟩

/-- The client returned a success without reading a body. -/
def skippedBody : ℕ × Option String → Bool
  | (status, contentLength) => status = 204 || contentLength = some "0"

/-- The outcome of a call that answers with JSON. A success whose body was not read is a failure. -/
def unwrap (parse : List Char → Option Value) (responseValidator : Schema α) (fetched : Fetched) :
    Except Failure Value :=
  match sdkRequest parse responseValidator fetched with
  | .error error response => .error (toFailure error response)
  | .success data response =>
    if skippedBody response then .error (.api ⟨response.1, .invalidResponse, none⟩) else .ok data

/-- The outcome of a call that answers 204 without a body. -/
def unwrapEmpty (parse : List Char → Option Value) (fetched : Fetched) : Except Failure Unit :=
  match sdkRequest parse zVoid fetched with
  | .error error response => .error (toFailure error response)
  | .success _ _ => .ok ()

/-! ## What an outcome says -/

/-- The table of the facade is the status of the server. -/
lemma problemStatus_eq (code : ProblemCode) : problemStatus code = code.status := by
  cases code <;> rfl

/-- The failure body is a problem with the code and the delay of the failure. -/
def IsProblemBody (body : ErrorBody) (code : ProblemCode) (retryAfterSeconds : Option ℕ) : Prop :=
  ∃ value problem, body = .json value ∧ zProblem value = some problem ∧ problem.code = code ∧
    problem.retryAfterSeconds = retryAfterSeconds

/-- A falsy body is no problem. -/
lemma zProblem_of_not_isTruthy {value : Value} (h : isTruthy value = false) :
    zProblem value = none := by
  cases value with
  | object fields => cases h
  | _ => rfl

/-- The empty object is no problem. -/
lemma zProblem_emptyObject : zProblem emptyObject = none := rfl

/-- Only a problem is known. -/
lemma knownProblem_orEmpty (status : ℕ) (body : ErrorBody) :
    knownProblem status (orEmpty body) = knownProblem status body := by
  cases body with
  | json value =>
    cases htruthy : isTruthy value with
    | true => simp only [orEmpty, htruthy, if_true]
    | false =>
      simp only [orEmpty, htruthy, Bool.false_eq_true, if_false, knownProblem,
        zProblem_emptyObject, zProblem_of_not_isTruthy htruthy]
  | text text =>
    simp only [orEmpty]
    split_ifs <;> rfl
  | thrown => rfl

/-- The failure of a response. -/
def failureOf (status : ℕ) (body : ErrorBody) : ApiError :=
  if isOk status then ⟨status, .invalidResponse, none⟩
  else
    match knownProblem status body with
    | none => ⟨status, .unrecognizedError, none⟩
    | some problem => ⟨status, .problem problem.code, problem.retryAfterSeconds⟩

/-- The error body of a response. -/
def errorOf (parse : List Char → Option Value) (text : Option (List Char)) : ErrorBody :=
  (text.map (errorBody parse)).getD .thrown

/-- The failure of a response with this error. -/
lemma toFailure_eq (body : ErrorBody) (status : ℕ) (contentLength : Option String) :
    toFailure body (some (status, contentLength)) = .api (failureOf status body) := by
  unfold toFailure failureOf
  dsimp only
  split_ifs
  · rfl
  · cases knownProblem status body <;> rfl

/-- A falsy body fails as the empty object does. -/
lemma failureOf_orEmpty (status : ℕ) (body : ErrorBody) :
    failureOf status (orEmpty body) = failureOf status body := by
  unfold failureOf
  rw [knownProblem_orEmpty]

/-- A success fails in one way, whatever its body. -/
lemma failureOf_of_isOk {status : ℕ} (h : isOk status = true) (body : ErrorBody) :
    failureOf status body = ⟨status, .invalidResponse, none⟩ := if_pos h

/-- The body of a success is skipped. -/
lemma skippedBody_eq_true_iff {status : ℕ} {contentLength : Option String} :
    skippedBody (status, contentLength) = true ↔ status = 204 ∨ contentLength = some "0" := by
  simp [skippedBody]

/-- The text of a success is JSON, or empty, and the schema accepts what it is parsed to. -/
def IsValidBody (parse : List Char → Option Value) (schema : Schema α) (text : Option (List Char))
    (data : Value) : Prop :=
  (∃ body, text = some body ∧ parsedBody parse body = some data) ∧ ∃ a, schema data = some a

/-- A text has one valid body. -/
lemma IsValidBody.eq {parse : List Char → Option Value} {schema : Schema α}
    {text : Option (List Char)} {data data' : Value} (h : IsValidBody parse schema text data)
    (h' : IsValidBody parse schema text data') : data = data' := by
  obtain ⟨⟨body, rfl, hparsed⟩, -⟩ := h
  obtain ⟨⟨body', hbody, hparsed'⟩, -⟩ := h'
  obtain rfl := Option.some.inj hbody
  exact Option.some.inj (hparsed.symm.trans hparsed')

/-- **The results of the generated client**: the empty object for a success whose body it skips, the
parsed body of another success that the schema accepts, and an error for any other response.

**Proof sketch.** The cases are those of the client: a success is skipped, fails to parse, fails the
schema or is returned, and another status is a failure. What the client reports of a success that it
throws on does not depend on the body (`failureOf_of_isOk`), so every such error is the same
failure. -/
lemma sdkRequest_answered (parse : List Char → Option Value) (schema : Schema α) (status : ℕ)
    (contentLength : Option String) (text : Option (List Char)) :
    (isOk status = true ∧ skippedBody (status, contentLength) = true ∧
      sdkRequest parse schema (.answered status contentLength text) =
        .success emptyObject (status, contentLength)) ∨
    (∃ data, isOk status = true ∧ skippedBody (status, contentLength) = false ∧
      IsValidBody parse schema text data ∧
      sdkRequest parse schema (.answered status contentLength text) =
        .success data (status, contentLength)) ∨
    ∃ body, (isOk status = true → skippedBody (status, contentLength) = false ∧
        ∀ data, ¬IsValidBody parse schema text data) ∧
      failureOf status body = failureOf status (errorOf parse text) ∧
      sdkRequest parse schema (.answered status contentLength text) =
        .error body (some (status, contentLength)) := by
  unfold sdkRequest
  dsimp only
  by_cases hok : isOk status = true
  · rw [if_pos hok]
    by_cases hskipped : status = 204 ∨ contentLength = some "0"
    · rw [if_pos hskipped]
      exact Or.inl ⟨hok, skippedBody_eq_true_iff.mpr hskipped, rfl⟩
    · have hread : skippedBody (status, contentLength) = false := by
        rw [Bool.eq_false_iff]
        exact fun h => hskipped (skippedBody_eq_true_iff.mp h)
      have hfailure : ∀ body body', failureOf status body = failureOf status body' := by
        intro body body'
        rw [failureOf_of_isOk hok, failureOf_of_isOk hok]
      rw [if_neg hskipped]
      refine Or.inr ?_
      cases hdata : text.bind (parsedBody parse) with
      | none =>
        refine Or.inr ⟨.thrown, fun _ => ⟨hread, ?_⟩, hfailure _ _, rfl⟩
        rintro data ⟨⟨body, rfl, hparsed⟩, -⟩
        rw [Option.bind_some, hparsed] at hdata
        cases hdata
      | some data =>
        obtain ⟨body, rfl, hparsed⟩ := Option.bind_eq_some_iff.mp hdata
        cases hvalid : schema data with
        | some a =>
          exact Or.inl ⟨data, hok, hread, ⟨⟨body, rfl, hparsed⟩, a, hvalid⟩, by simp [hvalid]⟩
        | none =>
          refine Or.inr ⟨.thrown, fun _ => ⟨hread, ?_⟩, hfailure _ _, by simp [hvalid]⟩
          rintro data' ⟨⟨body', hbody, hparsed'⟩, a, hvalid'⟩
          obtain rfl := Option.some.inj hbody
          obtain rfl := Option.some.inj (hparsed.symm.trans hparsed')
          rw [hvalid] at hvalid'
          cases hvalid'
  · rw [if_neg hok]
    refine Or.inr (Or.inr ?_)
    cases text with
    | none => exact ⟨.thrown, fun h => absurd h hok, rfl, rfl⟩
    | some text =>
      exact ⟨_, fun h => absurd h hok, failureOf_orEmpty status (errorBody parse text), rfl⟩

/-- **When a call returns a value**: a success other than 204 whose text was read, and is JSON that
the schema accepts, or is empty where the schema accepts the empty object. The value is what was
parsed. -/
lemma unwrap_eq_ok_iff {parse : List Char → Option Value} {schema : Schema α} {fetched : Fetched}
    {value : Value} :
    unwrap parse schema fetched = .ok value ↔ ∃ status contentLength text,
      fetched = .answered status contentLength text ∧ isOk status = true ∧
        skippedBody (status, contentLength) = false ∧ IsValidBody parse schema text value := by
  unfold unwrap
  cases fetched with
  | failed => exact iff_of_false nofun (by rintro ⟨_, _, _, h, -⟩; cases h)
  | answered status contentLength text =>
    rcases sdkRequest_answered parse schema status contentLength text with
      ⟨hok, hskipped, hresult⟩ | ⟨data, hok, hread, hvalid, hresult⟩ | ⟨body, hnot, -, hresult⟩
    · simp only [hresult, hskipped, if_true]
      refine iff_of_false nofun ?_
      rintro ⟨_, _, _, ⟨⟩, -, hread, -⟩
      rw [hskipped] at hread
      cases hread
    · simp only [hresult, hread, Bool.false_eq_true, if_false]
      constructor
      · intro h
        obtain rfl := Except.ok.inj h
        exact ⟨status, contentLength, text, rfl, hok, hread, hvalid⟩
      · rintro ⟨_, _, _, ⟨⟩, -, -, hvalid'⟩
        exact congrArg Except.ok (hvalid.eq hvalid')
    · simp only [hresult]
      refine iff_of_false nofun ?_
      rintro ⟨_, _, _, ⟨⟩, hok, -, hvalid⟩
      exact (hnot hok).2 value hvalid

/-- **When a call without a body returns**: a success whose body is skipped. No text of another
success is valid. -/
lemma unwrapEmpty_eq_ok_iff {parse : List Char → Option Value} {fetched : Fetched} :
    unwrapEmpty parse fetched = .ok () ↔ ∃ status contentLength text,
      fetched = .answered status contentLength text ∧ isOk status = true ∧
        skippedBody (status, contentLength) = true := by
  unfold unwrapEmpty
  cases fetched with
  | failed => exact iff_of_false nofun (by rintro ⟨_, _, _, h, -⟩; cases h)
  | answered status contentLength text =>
    rcases sdkRequest_answered parse zVoid status contentLength text with
      ⟨hok, hskipped, hresult⟩ | ⟨data, -, -, ⟨-, a, hvoid⟩, -⟩ | ⟨body, hnot, -, hresult⟩
    · simp only [hresult, true_iff]
      exact ⟨status, contentLength, text, rfl, hok, hskipped⟩
    · cases hvoid
    · simp only [hresult]
      refine iff_of_false nofun ?_
      rintro ⟨_, _, _, ⟨⟩, hok, hskipped⟩
      rw [(hnot hok).1] at hskipped
      cases hskipped

/-- What a failure of a call says: without a response it is the error of `fetch`, and with one it is
the failure of the response. -/
def FailsAs (parse : List Char → Option Value) (fetched : Fetched) (failure : Failure) : Prop :=
  (fetched = .failed ∧ failure = .original) ∨ ∃ status contentLength text,
    fetched = .answered status contentLength text ∧
      failure = .api (failureOf status (errorOf parse text))

/-- **When a call fails**, and how. -/
lemma unwrap_error {parse : List Char → Option Value} {schema : Schema α} {fetched : Fetched}
    {failure : Failure} (h : unwrap parse schema fetched = .error failure) :
    FailsAs parse fetched failure := by
  cases fetched with
  | failed => exact Or.inl ⟨rfl, (Except.error.inj h).symm⟩
  | answered status contentLength text =>
    refine Or.inr ⟨status, contentLength, text, rfl, ?_⟩
    unfold unwrap at h
    rcases sdkRequest_answered parse schema status contentLength text with
      ⟨hok, hskipped, hresult⟩ | ⟨data, -, hread, -, hresult⟩ | ⟨body, -, hbody, hresult⟩
    · simp only [hresult, hskipped, if_true] at h
      rw [failureOf_of_isOk hok]
      exact (Except.error.inj h).symm
    · simp only [hresult, hread, Bool.false_eq_true, if_false] at h
      cases h
    · simp only [hresult, toFailure_eq, hbody] at h
      exact (Except.error.inj h).symm

/-- When a call without a body fails, and how. -/
lemma unwrapEmpty_error {parse : List Char → Option Value} {fetched : Fetched} {failure : Failure}
    (h : unwrapEmpty parse fetched = .error failure) : FailsAs parse fetched failure := by
  cases fetched with
  | failed => exact Or.inl ⟨rfl, (Except.error.inj h).symm⟩
  | answered status contentLength text =>
    refine Or.inr ⟨status, contentLength, text, rfl, ?_⟩
    unfold unwrapEmpty at h
    rcases sdkRequest_answered parse zVoid status contentLength text with
      ⟨-, -, hresult⟩ | ⟨data, -, -, -, hresult⟩ | ⟨body, -, hbody, hresult⟩
    · simp only [hresult] at h
      cases h
    · simp only [hresult] at h
      cases h
    · simp only [hresult, toFailure_eq, hbody] at h
      exact (Except.error.inj h).symm

/-- **What the failure of a response says.** It has the status of the response; it is an invalid
response exactly where the status is a success; it has a code and a delay exactly where the body is
a problem with them, with the status of the code; and a delay comes with a code.

**Proof sketch.** No problem has a success status, so a success is always an invalid response. For
another status the code and the delay come from the problem that the body reads as, and only where
the status of its code is that of the response (`knownProblem`). -/
lemma failureOf_spec (status : ℕ) (body : ErrorBody) :
    (failureOf status body).status = status ∧
      ((failureOf status body).code = .invalidResponse ↔ isOk status = true) ∧
      (∀ code retry, failureOf status body = ⟨status, .problem code, retry⟩ ↔
        problemStatus code = status ∧ IsProblemBody body code retry) ∧
      ((failureOf status body).retryAfterSeconds ≠ none →
        ∃ code, (failureOf status body).code = .problem code) := by
  have hfail : ∀ code, isOk (problemStatus code) = false := by
    intro code
    cases code <;> rfl
  unfold failureOf
  split_ifs with hok
  · refine ⟨rfl, iff_of_true rfl hok, ?_, nofun⟩
    intro code retry
    refine iff_of_false nofun ?_
    rintro ⟨hstatus, -⟩
    rw [← hstatus, hfail] at hok
    cases hok
  · cases hproblem : knownProblem status body with
    | none =>
      refine ⟨rfl, iff_of_false nofun hok, ?_, nofun⟩
      intro code retry
      refine iff_of_false nofun ?_
      rintro ⟨hstatus, value, problem, rfl, hread, rfl, -⟩
      simp only [knownProblem, hread, Option.filter_eq_none_iff] at hproblem
      exact hproblem problem rfl (decide_eq_true hstatus)
    | some problem =>
      refine ⟨rfl, iff_of_false nofun hok, ?_, fun _ => ⟨problem.code, rfl⟩⟩
      cases body with
      | json value =>
        obtain ⟨hread, hstatus⟩ := Option.filter_eq_some_iff.mp hproblem
        intro code retry
        constructor
        · intro h
          injection h with _ hcode hretry
          obtain rfl := ApiErrorCode.problem.inj hcode
          exact ⟨of_decide_eq_true hstatus, value, problem, rfl, hread, rfl, hretry⟩
        · rintro ⟨-, _, problem', ⟨⟩, hread', rfl, rfl⟩
          obtain rfl := Option.some.inj (hread.symm.trans hread')
          rfl
      | text text => cases hproblem
      | thrown => cases hproblem

/-- What a failure of a call says about the response. -/
structure FailureSound (parse : List Char → Option Value) (fetched : Fetched) (failure : Failure) :
    Prop where
  /-- The error of `fetch` is kept exactly where there is no response. -/
  original : failure = .original ↔ fetched = .failed
  /-- Any other failure has the status of the response, and a code and a delay by its body. -/
  api : ∀ error, failure = .api error → ∃ contentLength text,
    fetched = .answered error.status contentLength text ∧
      (error.code = .invalidResponse ↔ isOk error.status = true) ∧
      (∀ code retry, error = ⟨error.status, .problem code, retry⟩ ↔
        problemStatus code = error.status ∧ IsProblemBody (errorOf parse text) code retry) ∧
      (error.retryAfterSeconds ≠ none → ∃ code, error.code = .problem code)

/-- A failure of a call is sound. -/
lemma FailsAs.sound {parse : List Char → Option Value} {fetched : Fetched} {failure : Failure}
    (h : FailsAs parse fetched failure) : FailureSound parse fetched failure := by
  rcases h with ⟨rfl, rfl⟩ | ⟨status, contentLength, text, rfl, rfl⟩
  · exact ⟨iff_of_true rfl rfl, nofun⟩
  · refine ⟨iff_of_false nofun nofun, ?_⟩
    intro error herror
    obtain rfl := Failure.api.inj herror
    obtain ⟨hstatus, hrest⟩ := failureOf_spec status (errorOf parse text)
    rw [hstatus]
    exact ⟨contentLength, text, rfl, hrest⟩

/-- **What an outcome says about the response.** For every response, whatever its status, headers
and text, and however JSON is parsed:

* a call with a body returns a value exactly where the response is a success other than 204 without
  a `Content-Length` of 0, the text is JSON, or empty in place of an empty object, and the schema
  accepts it; the value is what was parsed;
* a call without a body returns exactly where the response is a 204 or another success with a
  `Content-Length` of 0;
* otherwise the error of `fetch` is kept exactly where there is no response, and any other failure
  has the status of the response, is an invalid response exactly where the status is a success, and
  has a problem code, and with it perhaps a delay, exactly where the body is a problem with them and
  the status is the one of the code.

**Proof sketch.** `sdkRequest_answered` lists the three results of the generated client: the empty
object, the parsed body, or an error that fails as the response does. The two facades differ only in
the first two: `unwrap` refuses the empty object, and `unwrapEmpty`, whose schema accepts nothing,
never sees a parsed body. -/
theorem outcome_sound (parse : List Char → Option Value) (schema : Schema α) (fetched : Fetched) :
    (∀ value, unwrap parse schema fetched = .ok value ↔ ∃ status contentLength text,
      fetched = .answered status contentLength (some text) ∧ isOk status = true ∧ status ≠ 204 ∧
        contentLength ≠ some "0" ∧
        (text ≠ [] ∧ parse text = some value ∨ text = [] ∧ value = emptyObject) ∧
        ∃ a, schema value = some a) ∧
    (unwrapEmpty parse fetched = .ok () ↔ ∃ status contentLength text,
      fetched = .answered status contentLength text ∧ isOk status = true ∧
        (status = 204 ∨ contentLength = some "0")) ∧
    (∀ failure, unwrap parse schema fetched = .error failure →
      FailureSound parse fetched failure) ∧
    ∀ failure, unwrapEmpty parse fetched = .error failure →
      FailureSound parse fetched failure := by
  refine ⟨?_, ?_, fun failure h => (unwrap_error h).sound,
    fun failure h => (unwrapEmpty_error h).sound⟩
  · intro value
    have hskipped : ∀ status contentLength, skippedBody (status, contentLength) = false ↔
        status ≠ 204 ∧ contentLength ≠ some "0" := by
      intro status contentLength
      simp [skippedBody]
    have hparsed : ∀ text, parsedBody parse text = some value ↔
        text ≠ [] ∧ parse text = some value ∨ text = [] ∧ value = emptyObject := by
      intro text
      unfold parsedBody
      split_ifs with hempty <;> simp [hempty, eq_comm]
    rw [unwrap_eq_ok_iff]
    constructor
    · rintro ⟨status, contentLength, text, rfl, hok, hread, ⟨body, rfl, hbody⟩, hvalid⟩
      obtain ⟨hstatus, hlength⟩ := (hskipped status contentLength).mp hread
      exact ⟨status, contentLength, body, rfl, hok, hstatus, hlength, (hparsed body).mp hbody,
        hvalid⟩
    · rintro ⟨status, contentLength, body, rfl, hok, hstatus, hlength, hbody, hvalid⟩
      exact ⟨status, contentLength, some body, rfl, hok,
        (hskipped status contentLength).mpr ⟨hstatus, hlength⟩,
        ⟨body, rfl, (hparsed body).mpr hbody⟩, hvalid⟩
  · simp only [unwrapEmpty_eq_ok_iff, skippedBody_eq_true_iff]

end Client

end PsStore
