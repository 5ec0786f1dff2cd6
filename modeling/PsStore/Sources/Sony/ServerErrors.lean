import PsStore.Lib.JsonString
import PsStore.Sources.Sony.Catalog

set_option relaxedAutoImplicit false
set_option autoImplicit false

/-!
# The fast check for a server error

Before the answer of a query is decoded, `reports_server_error` decides whether the request is sent
again. It parses only a body in which the bytes of the key `errors` stand. The decoder applies
`is_graphql_server_error` to the parsed body, whatever its text looks like. The two answers differ
on the bodies that report a server error under a key with an escape in its spelling, and on no
others.

## Main definitions

* `ReportsOutage` — the decoder classifies the body as a server error.
* `KeysSpelled` — the parser finds only keys whose spelling stands in the text.
* `Agrees` — the fast check and the decoder give the same answer.
* `RetriedFirst` — an answer that the decoder classifies as a server error follows a retry.

## Main results

* `agrees_iff`, `escaped_of_not_agrees` — where the two checks agree, and how the key is spelled
  where they do not.
* `retriedFirst_iff` — which calls retry before they report an outage.
* `serverErrorCheck_iff` — the check and the call.
-/

namespace PsStore

open Json

section

variable (fromSlice : List UInt8 → Option Value)

/-- The body parses as JSON, and the JSON is a GraphQL server error. -/
def ReportsOutage (body : List UInt8) : Prop :=
  ∃ json, fromSlice body = some json ∧ isGraphqlServerError json = true

/-- Each key of a parsed object is a string of the text: one of its spellings stands there between
quotation marks. -/
def KeysSpelled : Prop :=
  ∀ (body : List UInt8) (root : Object) (key : String), fromSlice body = some (.object root) →
    (root.get key).isSome → ∃ raw, Spells raw key.toList ∧ quoted raw <:+: body

/-- The fast check gives the answer of the decoder. -/
def Agrees (body : List UInt8) : Prop :=
  reportsServerError fromSlice body = true ↔ ReportsOutage fromSlice body

/-- The bytes of the key stand in the body, or the body is no server error. -/
def KeyShown (body : List UInt8) : Prop := errorsKey <:+: body ∨ ¬ReportsOutage fromSlice body

/-- The requests of one persisted query. -/
def graphqlRequests (exchange : ℕ → Exchange) (fuel : ℕ) : List ℕ :=
  (sendRetrying sonyAttempts .follow (fun answer => reportsServerError fromSlice answer.body)
    exchange fuel).requests

/-- An answer that the decoder classifies as a server error is the second one of its call. -/
def RetriedFirst (exchange : ℕ → Exchange) (fuel : ℕ) : Prop :=
  ∀ json, graphql fromSlice exchange fuel = some (.ok json) → isGraphqlServerError json = true →
    graphqlRequests fromSlice exchange fuel = [0, 1]

end

section

variable {fromSlice : List UInt8 → Option Value}

/-! ## The check -/

/-- The fast check reads the bytes and then does what the decoder does. -/
lemma reportsServerError_iff {body : List UInt8} :
    reportsServerError fromSlice body = true ↔
      errorsKey <:+: body ∧ ReportsOutage fromSlice body := by
  unfold reportsServerError ReportsOutage
  rw [Bool.and_eq_true, decide_eq_true_eq, Option.any_eq_true]

/-- **Where the checks agree**: the body shows the key, or it is no server error. -/
theorem agrees_iff {body : List UInt8} : Agrees fromSlice body ↔ KeyShown fromSlice body := by
  unfold Agrees KeyShown
  rw [reportsServerError_iff]
  by_cases hkey : errorsKey <:+: body
  · simp [hkey]
  · simp [hkey]

/-- A server error has the key `errors`. -/
lemma exists_errors_of_isGraphqlServerError {json : Value}
    (h : isGraphqlServerError json = true) :
    ∃ root : Object, json = .object root ∧ (root.get "errors").isSome := by
  unfold isGraphqlServerError at h
  cases json with
  | object fields =>
    refine ⟨fields, rfl, ?_⟩
    cases herrors : Object.get fields "errors" with
    | some value => rfl
    | none =>
      simp only [Value.asObject, herrors] at h
      cases h
  | null => cases h
  | bool value => cases h
  | number value => cases h
  | string text => cases h
  | array items => cases h

/-- **The spelling of the key** has an escape in every body on which the checks differ.

**Proof sketch.** Such a body is a server error, so it spells the key `errors` between quotation
marks. A spelling without a backslash is the key itself, and the body shows its bytes. -/
theorem escaped_of_not_agrees (hkeys : KeysSpelled fromSlice) {body : List UInt8}
    (h : ¬Agrees fromSlice body) :
    ∃ raw, Spells raw "errors".toList ∧ backslash ∈ raw ∧ quoted raw <:+: body := by
  rw [agrees_iff] at h
  unfold KeyShown at h
  rw [not_or, not_not] at h
  obtain ⟨hkey, json, hjson, hserver⟩ := h
  obtain ⟨root, rfl, herrors⟩ := exists_errors_of_isGraphqlServerError hserver
  obtain ⟨raw, hraw, hquoted⟩ := hkeys body root "errors" hjson herrors
  refine ⟨raw, hraw, ?_, hquoted⟩
  by_contra hplain
  rw [hraw.eq_utf8 hplain] at hquoted
  exact hkey hquoted

/-! ## The call -/

/-- A call whose first answer stops it sends one request, and a call whose first answer does not
stop it sends two. -/
lemma sendRetrying_sony (isFailure : Answer → Bool) (exchange : ℕ → Exchange) {fuel : ℕ}
    (hfuel : 3 ≤ fuel) :
    sendRetrying sonyAttempts .follow isFailure exchange fuel =
      Sent.upTo sonyAttempts .follow exchange 0
        (if Stops .follow isFailure (exchange 0) then 0 else 1) := by
  have hretries : sonyAttempts.retries.toNat < 2 ^ 32 - 1 := by decide
  rw [sendRetrying_eq exchange hretries hfuel]
  rfl

/-- **Which calls retry before they report an outage**: those whose first answer shows the key if
it is a server error with a success status.

**Proof sketch.** A call retries where its first answer does not stop it (`sendRetrying_sony`), and
an answer with a success status stops it exactly where the fast check passes it. The fast check
fails only where the text has the key and the body is a server error, so an outage behind one
request is one whose text hides the key. -/
theorem retriedFirst_iff {exchange : ℕ → Exchange} {fuel : ℕ} (hfuel : 3 ≤ fuel) :
    RetriedFirst fromSlice exchange fuel ↔
      ∀ answer ∈ readResponse (exchange 0), IsSuccess .follow answer.status →
        KeyShown fromSlice answer.body := by
  unfold RetriedFirst graphql graphqlRequests
  rw [sendRetrying_sony _ exchange hfuel]
  constructor
  · intro h answer hread hsuccess
    by_contra hhidden
    unfold KeyShown at hhidden
    rw [not_or, not_not] at hhidden
    obtain ⟨hkey, json, hjson, hserver⟩ := hhidden
    -- The fast check passes the answer, so the call ends with it.
    have hpassed : reportsServerError fromSlice answer.body = false := by
      rw [Bool.eq_false_iff, Ne, reportsServerError_iff]
      exact fun hboth => hkey hboth.1
    have hstops : Stops .follow (fun answer => reportsServerError fromSlice answer.body)
        (exchange 0) := ⟨answer, hread, Or.inl ⟨hsuccess, hpassed⟩⟩
    have hverdict : verdict sonyAttempts .follow (exchange 0) = .ok answer :=
      verdict_eq_ok_iff.mpr ⟨hread, hsuccess⟩
    rw [if_pos hstops] at h
    have hone : [0] = [0, 1] := by
      refine h json ?_ hserver
      show some (jsonResult fromSlice (verdict sonyAttempts .follow (exchange 0))) = _
      rw [hverdict]
      show some (jsonBody fromSlice answer.body) = _
      unfold jsonBody
      rw [hjson]
    cases hone
  · intro h json hjson hserver
    by_cases hstops : Stops .follow (fun answer => reportsServerError fromSlice answer.body)
        (exchange 0)
    · rw [if_pos hstops] at hjson
      have hresult : jsonResult fromSlice (verdict sonyAttempts .follow (exchange 0)) = .ok json :=
        Option.some.inj hjson
      cases hverdict : verdict sonyAttempts .follow (exchange 0) with
      | error error =>
        rw [hverdict] at hresult
        cases hresult
      | ok answer =>
        rw [hverdict] at hresult
        obtain ⟨hread, hsuccess⟩ := verdict_eq_ok hverdict
        have houtage : ReportsOutage fromSlice answer.body := by
          refine ⟨json, ?_, hserver⟩
          simp only [jsonResult, jsonBody] at hresult
          cases hparsed : fromSlice answer.body with
          | none => rw [hparsed] at hresult; cases hresult
          | some json' => rw [hparsed] at hresult; cases hresult; rfl
        obtain hkey | hnone := h answer hread hsuccess
        · have hflag : reportsServerError fromSlice answer.body = true :=
            reportsServerError_iff.mpr ⟨hkey, houtage⟩
          exact absurd hstops (not_stops_of_flagged hread hsuccess hflag)
        · exact absurd houtage hnone
    · rw [if_neg hstops]
      rfl

end

/-- **The fast check and the full one.** They agree on a body exactly where it shows the key or is
no server error, a body on which they differ spells the key with an escape, and a call retries
before it reports an outage exactly where they agree on its first answer. -/
theorem serverErrorCheck_iff (fromSlice : List UInt8 → Option Value) (hkeys : KeysSpelled fromSlice)
    (body : List UInt8) (exchange : ℕ → Exchange) {fuel : ℕ} (hfuel : 3 ≤ fuel) :
    (Agrees fromSlice body ↔ KeyShown fromSlice body) ∧
      (¬Agrees fromSlice body →
        ∃ raw, Spells raw "errors".toList ∧ backslash ∈ raw ∧ quoted raw <:+: body) ∧
      (RetriedFirst fromSlice exchange fuel ↔
        ∀ answer ∈ readResponse (exchange 0), IsSuccess .follow answer.status →
          KeyShown fromSlice answer.body) :=
  ⟨agrees_iff, escaped_of_not_agrees hkeys, retriedFirst_iff hfuel⟩

/-! ## An escaped key -/

/-- A server error whose key is spelled with an escape. -/
def escapedBody : List UInt8 :=
  "\x7b\"\\u0065rrors\":[\x7b\"statusCode\":500\x7d]\x7d".toList.map ascii

/-- The fields of the escaped body. -/
def outageFields : Object :=
  [("errors", .array [.object [("statusCode", .number (.posInt 500))]])]

/-- A parser that knows the escaped body. -/
def parseEscaped (body : List UInt8) : Option Value :=
  if body = escapedBody then some (.object outageFields) else none

/-- The escaped spelling of the key. -/
def escapedErrors : List UInt8 := "\\u0065rrors".toList.map ascii

/-- The escaped spelling spells the key. -/
lemma spells_escapedErrors : Spells escapedErrors "errors".toList := by
  have hunit : SpellsUnit (escapedErrors.take 6) 'e'.toNat :=
    ⟨48, 48, 54, 53, 0, 0, 6, 5, by decide, by decide, by decide, by decide, by decide, by decide⟩
  have hr : SpellsChar (String.utf8EncodeChar 'r') 'r' :=
    .plain (by decide) (by decide) (by decide)
  have ho : SpellsChar (String.utf8EncodeChar 'o') 'o' :=
    .plain (by decide) (by decide) (by decide)
  have hs : SpellsChar (String.utf8EncodeChar 's') 's' :=
    .plain (by decide) (by decide) (by decide)
  exact .cons (.unit hunit) (.cons hr (.cons hr (.cons ho (.cons hr (.cons hs .nil)))))

/-- The parser reads only keys that its body spells. -/
lemma keysSpelled_parseEscaped : KeysSpelled parseEscaped := by
  intro body root key hparsed hkey
  unfold parseEscaped at hparsed
  split_ifs at hparsed with hbody
  cases hparsed
  have hname : key = "errors" := by
    by_contra hne
    have hnone : Object.get outageFields key = none := by
      unfold Object.get outageFields
      rw [List.lookup_cons, beq_false_of_ne hne]
      rfl
    rw [hnone] at hkey
    cases hkey
  rw [hname, hbody]
  exact ⟨escapedErrors, spells_escapedErrors, by decide +kernel⟩

/-- The escaped body does not show the key. -/
lemma not_keyShown_escapedBody : ¬KeyShown parseEscaped escapedBody := by
  unfold KeyShown
  rw [not_or, not_not]
  exact ⟨by decide +kernel, .object outageFields, if_pos rfl, by decide⟩

/-- On the escaped body the checks differ, and a call that it answers retries nothing. -/
theorem serverErrorCheck_iff_escaped :
    ¬Agrees parseEscaped escapedBody ∧
      ¬RetriedFirst parseEscaped (fun _ => .response 200 [] [some escapedBody]) 3 := by
  obtain ⟨hagrees, -, hretried⟩ := serverErrorCheck_iff parseEscaped keysSpelled_parseEscaped
    escapedBody (fun _ => .response 200 [] [some escapedBody]) (le_refl 3)
  rw [hagrees, hretried]
  refine ⟨not_keyShown_escapedBody, fun h => ?_⟩
  have hread : readResponse (.response 200 [] [some escapedBody]) =
      some { status := 200, headers := [], body := escapedBody } := rfl
  exact not_keyShown_escapedBody (h _ hread (by decide))

/-- **The checks differ** on a server error with an escaped key. -/
theorem not_agrees_escapedBody :
    ¬∀ (fromSlice : List UInt8 → Option Value) (body : List UInt8), KeysSpelled fromSlice →
      Agrees fromSlice body := by
  intro h
  have hagrees := h parseEscaped escapedBody keysSpelled_parseEscaped
  exact not_keyShown_escapedBody (agrees_iff.mp hagrees)

end PsStore
