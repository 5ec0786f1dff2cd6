import Mathlib.Algebra.Group.Nat.Defs
import PsStore.Domain.Library
import PsStore.Lib.JsonText

set_option relaxedAutoImplicit false
set_option autoImplicit false

/-!
# The public failures

The Problem Details of `http/errors.rs`. Every failure of a route has one code, and the code fixes
the status, the title and the explanation of its answer.

## Main definitions

* `ProblemCode`, `Problem` — the codes and the answers of a failure.
* `Problem.ofUpstreamError`, `Problem.ofAccountError`, `Problem.ofGameLookupError` — the mappings of
  the domain errors.
* `Problem.IsPublic`, `Problem.toJson` — the problems that the server answers, and their JSON.
* `Response`, `Problem.intoResponse` — the answer of a JSON route.

## Main results

* `Problem.ofUpstreamError_status` — an upstream failure answers 502 or 503, and no 401.
-/

namespace PsStore

/-- The stable application code of a public failure. -/
inductive ProblemCode where
  | invalidRequest
  | notFound
  | gameNotFound
  | sessionRejected
  | unsupportedMediaType
  | payloadTooLarge
  | upstreamUnavailable
  | upstreamQueryRotated
  | upstreamRateLimited
  | internalError
deriving DecidableEq

namespace ProblemCode

/-- The HTTP status of the code. -/
def status : ProblemCode → ℕ
  | invalidRequest => 400
  | notFound | gameNotFound => 404
  | sessionRejected => 401
  | unsupportedMediaType => 415
  | payloadTooLarge => 413
  | upstreamUnavailable | upstreamQueryRotated => 502
  | upstreamRateLimited => 503
  | internalError => 500

/-- The status phrase. -/
def title : ProblemCode → String
  | invalidRequest => "Bad Request"
  | notFound | gameNotFound => "Not Found"
  | sessionRejected => "Unauthorized"
  | unsupportedMediaType => "Unsupported Media Type"
  | payloadTooLarge => "Content Too Large"
  | upstreamUnavailable | upstreamQueryRotated => "Bad Gateway"
  | upstreamRateLimited => "Service Unavailable"
  | internalError => "Internal Server Error"

/-- The fixed explanation of the code. -/
def detail : ProblemCode → String
  | invalidRequest => "The request has an invalid parameter, path, or body."
  | notFound => "No API route has this path and method."
  | gameNotFound => "No PS5 game in the Finnish store has this id."
  | sessionRejected => "The Sony sign-in is missing or no longer valid."
  | unsupportedMediaType => "The request body must be application/json."
  | payloadTooLarge => "The request body is too large."
  | upstreamUnavailable => "The PlayStation Store is unavailable. Try again later."
  | upstreamQueryRotated =>
    "The PlayStation Store no longer accepts a stored query of this server."
  | upstreamRateLimited => "The PlayStation Store limited the request rate. Try again later."
  | internalError => "The server failed to handle the request."

/-- The text of the code. -/
def asStr : ProblemCode → String
  | invalidRequest => "invalid_request"
  | notFound => "not_found"
  | gameNotFound => "game_not_found"
  | sessionRejected => "session_rejected"
  | unsupportedMediaType => "unsupported_media_type"
  | payloadTooLarge => "payload_too_large"
  | upstreamUnavailable => "upstream_unavailable"
  | upstreamQueryRotated => "upstream_query_rotated"
  | upstreamRateLimited => "upstream_rate_limited"
  | internalError => "internal_error"

/-- Every code, in declaration order. -/
def all : List ProblemCode :=
  [invalidRequest, notFound, gameNotFound, sessionRejected, unsupportedMediaType, payloadTooLarge,
    upstreamUnavailable, upstreamQueryRotated, upstreamRateLimited, internalError]

end ProblemCode

/-- A Problem Details body. -/
structure Problem where
  typeUri : String
  title : String
  status : ℕ
  detail : String
  code : ProblemCode
  /-- Only for a rate limit: the delay in seconds that Sony asked for. -/
  retryAfterSeconds : Option ℕ
deriving DecidableEq

namespace Problem

/-- The problem of a code. -/
def new (code : ProblemCode) : Problem where
  typeUri := "about:blank"
  title := code.title
  status := code.status
  detail := code.detail
  code := code
  retryAfterSeconds := none

/-- The largest delay of the contract, an `int32`. -/
def maxRetryAfterSeconds : ℕ := 2 ^ 31 - 1

/-- The problem of an upstream failure. A delay beyond the contract saturates. -/
def ofUpstreamError : UpstreamError → Problem
  | .unavailable _ => new .upstreamUnavailable
  | .queryRotated _ _ => new .upstreamQueryRotated
  | .rateLimited _ retryAfterSeconds =>
    { new .upstreamRateLimited with
      retryAfterSeconds := retryAfterSeconds.map fun seconds =>
        if seconds < 2 ^ 32 then min seconds maxRetryAfterSeconds else maxRetryAfterSeconds }

/-- The problem of a failure of a signed-in request. -/
def ofAccountError : AccountError → Problem
  | .sessionRejected _ => new .sessionRejected
  | .upstream error => ofUpstreamError error

/-- The problem of a failure of the game page lookup. The requested id is dropped. -/
def ofGameLookupError : GameLookupError → Problem
  | .notFound _ => new .gameNotFound
  | .upstream error => ofUpstreamError error

/-- The problem of its code: only a rate limit has a delay, within the contract. -/
structure IsPublic (problem : Problem) : Prop where
  eq_new : problem = { new problem.code with retryAfterSeconds := problem.retryAfterSeconds }
  retryAfter : ∀ seconds ∈ problem.retryAfterSeconds,
    problem.code = .upstreamRateLimited ∧ seconds ≤ maxRetryAfterSeconds

/-- The problem of a code is public. -/
lemma isPublic_new (code : ProblemCode) : (new code).IsPublic := ⟨rfl, nofun⟩

/-- **The problem of an upstream failure is public.** -/
lemma isPublic_ofUpstreamError (error : UpstreamError) : (ofUpstreamError error).IsPublic := by
  cases error with
  | unavailable message => exact isPublic_new _
  | queryRotated message operation => exact isPublic_new _
  | rateLimited message retryAfterSeconds =>
    refine ⟨rfl, ?_⟩
    intro seconds hseconds
    refine ⟨rfl, ?_⟩
    obtain ⟨delay, -, rfl⟩ := Option.map_eq_some_iff.mp hseconds
    split_ifs
    · exact min_le_right _ _
    · exact le_rfl

/-- The problem of a signed-in failure is public. -/
lemma isPublic_ofAccountError (error : AccountError) : (ofAccountError error).IsPublic := by
  cases error with
  | sessionRejected message => exact isPublic_new _
  | upstream error => exact isPublic_ofUpstreamError error

/-- The problem of a failed game page lookup is public. -/
lemma isPublic_ofGameLookupError (error : GameLookupError) :
    (ofGameLookupError error).IsPublic := by
  cases error with
  | notFound id => exact isPublic_new _
  | upstream error => exact isPublic_ofUpstreamError error

/-- The body of a failure. A missing delay has no key. -/
def toJson (problem : Problem) : Json.Value :=
  .object ([("type", .string problem.typeUri), ("title", .string problem.title),
    ("status", .number (.posInt problem.status)), ("detail", .string problem.detail),
    ("code", .string problem.code.asStr)] ++
    problem.retryAfterSeconds.toList.map fun seconds =>
      ("retryAfterSeconds", .number (.posInt seconds)))

/-- The body of a failure is plain. -/
lemma plain_toJson (problem : Problem) : Json.Plain problem.toJson := by
  unfold toJson
  cases problem.retryAfterSeconds with
  | none => exact ⟨by simp, trivial, trivial, trivial, trivial, trivial, trivial⟩
  | some seconds => exact ⟨by simp, trivial, trivial, trivial, trivial, trivial, trivial, trivial⟩

end Problem

/-- The answer of a JSON route. -/
structure Response (α : Type) where
  status : ℕ
  /-- The `Set-Cookie` headers. -/
  setCookie : List String
  body : Except Problem α

/-- The answer of a failure. -/
def Problem.intoResponse {α : Type} (problem : Problem) : Response α where
  status := problem.code.status
  setCookie := []
  body := .error problem

/-- The answer of a success. -/
def Response.json {α : Type} (body : α) : Response α where
  status := 200
  setCookie := []
  body := .ok body

/-- **An upstream failure answers 502 or 503.** -/
theorem Problem.ofUpstreamError_status (error : UpstreamError) :
    (ofUpstreamError error).code.status = 502 ∨ (ofUpstreamError error).code.status = 503 := by
  cases error with
  | unavailable message => exact Or.inl rfl
  | queryRotated message operation => exact Or.inl rfl
  | rateLimited message seconds => exact Or.inr rfl

end PsStore
