import Mathlib.Algebra.Group.Nat.Defs
import Mathlib.Data.List.DropRight
import PsStore.Domain.Id
import PsStore.Lib.Retry

set_option relaxedAutoImplicit false
set_option autoImplicit false

/-!
# Outbound HTTP with a bounded retry

The functions of `sources/transport.rs`. What a service does with each request that a call sends is
a sequence of `Exchange`s, one for each attempt, so a fact about every sequence is a fact about
every service. Durations are in nanoseconds.

The loop counts its attempts in a `u32`. It is modelled with the wrapping counter and with fuel for
its passes; within the budgets below `u32::MAX` it always ends.

## Main definitions

* `readResponse` — one attempt: the answer with its whole body, or a transport failure.
* `parseRetryAfter` — the delay that a 429 answer asks for, clamped.
* `sendRetrying` — the retry loop, with the requests that it sends and the delays that it sleeps.
* `Stops`, `verdict` — the attempts after which no other one is made, and what an attempt means as
  the last one.

## Main results

* `sendRetrying_eq` — the loop makes the attempts up to the deciding one and answers its verdict.
* `sendRetrying_contract` — what a call may rely on, whatever the service answers.
-/

namespace PsStore

/-! ## Attempts -/

/-- How redirects are handled. -/
inductive Redirects where
  /-- Follow up to 10 redirects. A final 3xx answer is a failure. -/
  | follow
  /-- Do not follow. A 3xx answer is returned to the caller. -/
  | manual
deriving DecidableEq

/-- The retry budget of one call. -/
structure Attempts where
  /-- The deadline of one attempt, including the response body. -/
  timeout : ℕ
  /-- Additional attempts after the first one. -/
  retries : UInt32
  /-- The longest `Retry-After` delay that a 429 answer may cause. -/
  retryAfterMax : ℕ

/-- A failed call. -/
inductive TransportError where
  /-- The service answered 429 and the retry budget is used up. -/
  | rateLimited (retryAfter : Option ℕ)
  /-- A non-2xx answer: a 4xx at once, other statuses after the retries. -/
  | status (code : ℕ)
  /-- A timeout, a connection failure, or a body that is unreadable or too large, after the
  retries. -/
  | failed
deriving DecidableEq

/-- An answer with its headers, names in lower case, and its whole body. -/
structure Answer where
  status : ℕ
  headers : List (String × List UInt8)
  body : List UInt8
deriving DecidableEq

/-- What a service does with one request. -/
inductive Exchange where
  /-- The deadline passes before the body is read. -/
  | timedOut
  /-- No response arrives. -/
  | unanswered
  /-- A response with the chunks of its body; a chunk is `none` where reading it fails. -/
  | response (status : ℕ) (headers : List (String × List UInt8))
    (chunks : List (Option (List UInt8)))

/-- The largest response body that an attempt reads. -/
def maxBodyBytes : ℕ := 16 * 1024 * 1024

/-- The body after the chunks that are read so far: no body where a chunk fails or makes it too
large. -/
def readChunks (body : List UInt8) : List (Option (List UInt8)) → Option (List UInt8)
  | [] => some body
  | none :: _ => none
  | some chunk :: chunks =>
    if maxBodyBytes < body.length + chunk.length then none else readChunks (body ++ chunk) chunks

/-- One attempt: the answer with its whole body, or `none` for a timeout or a transport failure. -/
def readResponse : Exchange → Option Answer
  | .timedOut | .unanswered => none
  | .response status headers chunks =>
    (readChunks [] chunks).map fun body => { status, headers, body }

/-- A body that is read is no longer than the limit. -/
lemma length_readChunks {body body' : List UInt8} {chunks : List (Option (List UInt8))}
    (hbody : body.length ≤ maxBodyBytes) (h : readChunks body chunks = some body') :
    body'.length ≤ maxBodyBytes := by
  induction chunks generalizing body with
  | nil =>
    cases h
    exact hbody
  | cons chunk chunks ih =>
    cases chunk with
    | none => cases h
    | some chunk =>
      rw [readChunks] at h
      split_ifs at h with hlong
      apply ih _ h
      rw [List.length_append]
      omega

/-- **No attempt answers a body longer than the limit**, however the service sends it. -/
theorem length_body_readResponse {exchange : Exchange} {answer : Answer}
    (h : readResponse exchange = some answer) : answer.body.length ≤ maxBodyBytes := by
  cases exchange with
  | timedOut => cases h
  | unanswered => cases h
  | response status headers chunks =>
    obtain ⟨body, hbody, rfl⟩ := Option.map_eq_some_iff.mp h
    exact length_readChunks (Nat.zero_le _) hbody

/-! ## Retry-After -/

/-- The bytes of a header value that reads as text. -/
def isVisibleAscii (b : UInt8) : Bool := (32 ≤ b && b < 127) || b == 9

/-- The text of a header value, or `none` for a value with other bytes. -/
def headerText (bytes : List UInt8) : Option (List Char) :=
  if bytes.all isVisibleAscii then some (bytes.map fun b => Char.ofNat b.toNat) else none

/-- The text without the blanks at both ends. -/
def trimText (text : List Char) : List Char :=
  (text.dropWhile Char.isWhitespace).rdropWhile Char.isWhitespace

/-- A digit run as a `u64`, or `u64::MAX` where it does not fit. -/
def parseU64 (digits : List Char) : ℕ :=
  min (digits.foldl (fun n c => 10 * n + (c.toNat - '0'.toNat)) 0) (2 ^ 64 - 1)

/-- Nanoseconds of a second. -/
def nanosPerSecond : ℕ := 10 ^ 9

/-- Delta seconds only, clamped to `max`; any other text gives `none`. -/
def parseRetryAfterValue (value : List Char) (max : ℕ) : Option ℕ :=
  let trimmed := trimText value
  if trimmed = [] ∨ trimmed.all isDigit = false then none
  else some (min (parseU64 trimmed * nanosPerSecond) max)

example : parseRetryAfterValue "  5  ".toList (6 * nanosPerSecond) = some (5 * nanosPerSecond) := by
  decide

/-- The delay of the first `Retry-After` header, clamped to `max`. An absent, negative, fractional,
or HTTP-date value gives `none`. -/
def parseRetryAfter (headers : List (String × List UInt8)) (max : ℕ) : Option ℕ := do
  let value ← headers.lookup "retry-after"
  parseRetryAfterValue (← headerText value) max

/-- A header causes no delay longer than the maximum. -/
lemma le_of_mem_parseRetryAfter {headers : List (String × List UInt8)} {max delay : ℕ}
    (h : delay ∈ parseRetryAfter headers max) : delay ≤ max := by
  obtain ⟨value, -, hvalue⟩ := Option.bind_eq_some_iff.mp h
  obtain ⟨text, -, hdelay⟩ := Option.bind_eq_some_iff.mp hvalue
  unfold parseRetryAfterValue at hdelay
  dsimp only at hdelay
  split_ifs at hdelay
  cases hdelay
  exact Nat.min_le_right _ _

/-! ## The retry loop -/

/-- A status that ends a call with its answer: a 2xx, or a 3xx under the manual policy. -/
def IsSuccess (redirects : Redirects) (status : ℕ) : Prop :=
  200 ≤ status ∧ status < 300 ∨ redirects = .manual ∧ 300 ≤ status ∧ status < 400
deriving Decidable

/-- A 4xx status. -/
def IsClientError (status : ℕ) : Prop := 400 ≤ status ∧ status < 500
deriving Decidable

/-- What one pass of the loop does. -/
inductive Pass where
  /-- Another attempt, after a pause. `last` is the error of a call that ends without one. -/
  | again (last : TransportError) (pause : Option ℕ)
  /-- The call ends. -/
  | done (result : Except TransportError Answer)

/-- One pass of the loop: an attempt, and what follows from its outcome. -/
def sendOnce (attempts : Attempts) (redirects : Redirects) (isFailure : Answer → Bool)
    (attempt : UInt32) (last : TransportError) (exchange : Exchange) : Pass :=
  match readResponse exchange with
  | none => .again .failed none
  | some answer =>
    if answer.status = 429 then
      let retryAfter := parseRetryAfter answer.headers attempts.retryAfterMax
      if attempt < attempts.retries then .again last (retryAfter.filter (· ≠ 0))
      else .done (.error (.rateLimited retryAfter))
    else if IsSuccess redirects answer.status then
      if attempt < attempts.retries ∧ isFailure answer then .again last none
      else .done (.ok answer)
    else if IsClientError answer.status then .done (.error (.status answer.status))
    else .again (.status answer.status) none

/-- The record of a call. -/
structure Sent where
  /-- The numbers of the requests that were sent. -/
  requests : List ℕ
  /-- The delays that the call slept. -/
  sleeps : List ℕ
  /-- The result, or `none` where the loop has not ended. -/
  result : Option (Except TransportError Answer)
deriving DecidableEq

/-- The `while` loop from a pass on: `made` requests were sent, the counter stands at `attempt`. -/
def sendFrom (attempts : Attempts) (redirects : Redirects) (isFailure : Answer → Bool)
    (exchange : ℕ → Exchange) : ℕ → ℕ → UInt32 → TransportError → Sent
  | 0, _, _, _ => { requests := [], sleeps := [], result := none }
  | fuel + 1, made, attempt, last =>
    if attempt ≤ attempts.retries then
      match sendOnce attempts redirects isFailure attempt last (exchange made) with
      | .done result => { requests := [made], sleeps := [], result := some result }
      | .again last pause =>
        let rest :=
          sendFrom attempts redirects isFailure exchange fuel (made + 1) (attempt + 1) last
        { rest with requests := made :: rest.requests, sleeps := pause.toList ++ rest.sleeps }
    else { requests := [], sleeps := [], result := some (.error last) }

/-- The call: the first attempt has number 0, and the error of no attempt is `failed`. -/
def sendRetrying (attempts : Attempts) (redirects : Redirects) (isFailure : Answer → Bool)
    (exchange : ℕ → Exchange) (fuel : ℕ) : Sent :=
  sendFrom attempts redirects isFailure exchange fuel 0 0 .failed

/-- The call that retries no answer of a success status. -/
def send (attempts : Attempts) (redirects : Redirects) (exchange : ℕ → Exchange) (fuel : ℕ) :
    Sent :=
  sendRetrying attempts redirects (fun _ => false) exchange fuel

/-! ## What the loop does -/

/-- What an outcome means as the last one of its call. -/
def verdict (attempts : Attempts) (redirects : Redirects) (exchange : Exchange) :
    Except TransportError Answer :=
  match readResponse exchange with
  | none => .error .failed
  | some answer =>
    if answer.status = 429 then
      .error (.rateLimited (parseRetryAfter answer.headers attempts.retryAfterMax))
    else if IsSuccess redirects answer.status then .ok answer
    else .error (.status answer.status)

/-- An answer that stops the call at once: a success that is not flagged, or a 4xx other than
429. -/
def IsFinal (redirects : Redirects) (isFailure : Answer → Bool) (answer : Answer) : Prop :=
  IsSuccess redirects answer.status ∧ isFailure answer = false ∨
    IsClientError answer.status ∧ answer.status ≠ 429
deriving Decidable

/-- The attempt stops the call. -/
def Stops (redirects : Redirects) (isFailure : Answer → Bool) (exchange : Exchange) : Prop :=
  ∃ answer ∈ readResponse exchange, IsFinal redirects isFailure answer
deriving Decidable

/-- The pause before the next attempt. -/
def pauseAfter (attempts : Attempts) (exchange : Exchange) : Option ℕ := do
  let answer ← readResponse exchange
  if answer.status = 429 then
    (parseRetryAfter answer.headers attempts.retryAfterMax).filter (· ≠ 0)
  else none

/-- The record of a call that has made the attempts from `k` on and ends after attempt `d`. -/
def Sent.upTo (attempts : Attempts) (redirects : Redirects) (exchange : ℕ → Exchange) (k d : ℕ) :
    Sent where
  requests := List.range' k (d + 1 - k)
  sleeps := (List.range' k (d - k)).filterMap fun j => pauseAfter attempts (exchange j)
  result := some (verdict attempts redirects (exchange d))

section

variable {attempts : Attempts} {redirects : Redirects} {isFailure : Answer → Bool}

/-- A pass that stops the call ends it with its verdict. -/
lemma sendOnce_of_stops {attempt : UInt32} {last : TransportError} {exchange : Exchange}
    (h : Stops redirects isFailure exchange) :
    sendOnce attempts redirects isFailure attempt last exchange =
      .done (verdict attempts redirects exchange) := by
  obtain ⟨answer, hread, hfinal⟩ := h
  unfold sendOnce verdict
  rw [hread]
  dsimp only
  rcases hfinal with ⟨hsuccess, hunflagged⟩ | ⟨hclient, h429⟩
  · have h429 : answer.status ≠ 429 := by
      unfold IsSuccess at hsuccess
      omega
    rw [if_neg h429, if_neg h429, if_pos hsuccess, if_pos hsuccess,
      if_neg (by simp [hunflagged])]
  · have hsuccess : ¬IsSuccess redirects answer.status := by
      unfold IsSuccess
      unfold IsClientError at hclient
      omega
    rw [if_neg h429, if_neg h429, if_neg hsuccess, if_neg hsuccess, if_pos hclient]

/-- A pass that does not stop the call tries again while attempts are left, after the pause of its
outcome. -/
lemma sendOnce_of_lt {attempt : UInt32} {last : TransportError} {exchange : Exchange}
    (h : ¬Stops redirects isFailure exchange) (hleft : attempt < attempts.retries) :
    ∃ last', sendOnce attempts redirects isFailure attempt last exchange =
      .again last' (pauseAfter attempts exchange) := by
  unfold sendOnce pauseAfter
  cases hread : readResponse exchange with
  | none => exact ⟨_, rfl⟩
  | some answer =>
    have hnot : ¬IsFinal redirects isFailure answer := fun hfinal => h ⟨answer, hread, hfinal⟩
    unfold IsFinal at hnot
    dsimp only [bind, Option.bind]
    by_cases h429 : answer.status = 429
    · rw [if_pos h429, if_pos h429, if_pos hleft]
      exact ⟨_, rfl⟩
    · rw [if_neg h429, if_neg h429]
      by_cases hsuccess : IsSuccess redirects answer.status
      · have hflag : isFailure answer = true := by
          by_contra hflag
          exact hnot (Or.inl ⟨hsuccess, by simpa using hflag⟩)
        rw [if_pos hsuccess, if_pos ⟨hleft, hflag⟩]
        exact ⟨_, rfl⟩
      · have hclient : ¬IsClientError answer.status := fun hclient => hnot (Or.inr ⟨hclient, h429⟩)
        rw [if_neg hsuccess, if_neg hclient]
        exact ⟨_, rfl⟩

/-- The last pass of the budget ends the call with its verdict, at once or as the error that the
loop keeps. -/
lemma sendOnce_of_not_lt {attempt : UInt32} {last : TransportError} {exchange : Exchange}
    (hleft : ¬attempt < attempts.retries) :
    sendOnce attempts redirects isFailure attempt last exchange =
        .done (verdict attempts redirects exchange) ∨
      ∃ last', sendOnce attempts redirects isFailure attempt last exchange = .again last' none ∧
        verdict attempts redirects exchange = .error last' := by
  unfold sendOnce verdict
  cases readResponse exchange with
  | none => exact Or.inr ⟨_, rfl, rfl⟩
  | some answer =>
    dsimp only
    by_cases h429 : answer.status = 429
    · rw [if_pos h429, if_pos h429, if_neg hleft]
      exact Or.inl rfl
    · rw [if_neg h429, if_neg h429]
      by_cases hsuccess : IsSuccess redirects answer.status
      · rw [if_pos hsuccess, if_pos hsuccess, if_neg fun h => hleft h.1]
        exact Or.inl rfl
      · rw [if_neg hsuccess, if_neg hsuccess]
        by_cases hclient : IsClientError answer.status
        · rw [if_pos hclient]
          exact Or.inl rfl
        · rw [if_neg hclient]
          exact Or.inr ⟨_, rfl, rfl⟩

/-- A call that ends after its next attempt. -/
lemma Sent.upTo_self (exchange : ℕ → Exchange) (d : ℕ) :
    Sent.upTo attempts redirects exchange d d =
      { requests := [d], sleeps := [],
        result := some (verdict attempts redirects (exchange d)) } := by
  simp [Sent.upTo]

/-- A call that goes on after its next attempt. -/
lemma Sent.upTo_of_lt {exchange : ℕ → Exchange} {k d : ℕ} (h : k < d) :
    Sent.upTo attempts redirects exchange k d =
      { Sent.upTo attempts redirects exchange (k + 1) d with
        requests := k :: (Sent.upTo attempts redirects exchange (k + 1) d).requests
        sleeps := (pauseAfter attempts (exchange k)).toList ++
          (Sent.upTo attempts redirects exchange (k + 1) d).sleeps } := by
  have hrequests : d + 1 - k = d + 1 - (k + 1) + 1 := by omega
  have hsleeps : d - k = d - (k + 1) + 1 := by omega
  simp only [Sent.upTo]
  rw [hrequests, hsleeps, List.range'_succ, List.range'_succ, List.filterMap_cons]
  cases pauseAfter attempts (exchange k) <;> rfl

/-- The counter of the attempts counts on below its maximum. -/
lemma toNat_succ_attempt {attempt : UInt32} (h : attempt.toNat < 2 ^ 32 - 1) :
    (attempt + 1).toNat = attempt.toNat + 1 := by
  rw [UInt32.toNat_add]
  exact Nat.mod_eq_of_lt (by simpa using Nat.add_lt_of_lt_sub h)

/-- **The loop from an attempt on.** It makes the attempts up to the deciding one, sleeps the pauses
between them, and answers the verdict on the deciding one.

**Proof sketch.** Induction on the attempts that are left. A pass that stops the call is the
deciding one; another pass with an attempt left moves on to the next attempt. The last pass ends
the call itself or leaves its verdict as the error of the loop, which the next pass answers. -/
theorem sendFrom_eq (exchange : ℕ → Exchange) {left fuel : ℕ} {attempt : UInt32}
    (last : TransportError) (hmax : attempts.retries.toNat < 2 ^ 32 - 1)
    (hleft : attempt.toNat + left = attempts.retries.toNat) (hfuel : left + 2 ≤ fuel) :
    sendFrom attempts redirects isFailure exchange fuel attempt.toNat attempt last =
      Sent.upTo attempts redirects exchange attempt.toNat
        (deciding (fun k => Stops redirects isFailure (exchange k)) left attempt.toNat) := by
  induction left generalizing attempt last fuel with
  | zero =>
    obtain ⟨fuel, rfl⟩ : ∃ fuel', fuel = fuel' + 2 := ⟨fuel - 2, by omega⟩
    have hwithin : attempt ≤ attempts.retries := by
      rw [UInt32.le_iff_toNat_le]
      omega
    have hlast : ¬attempt < attempts.retries := by
      rw [UInt32.lt_iff_toNat_lt]
      omega
    have hend : ¬attempt + 1 ≤ attempts.retries := by
      rw [UInt32.le_iff_toNat_le, toNat_succ_attempt (by omega)]
      omega
    rw [sendFrom, if_pos hwithin, deciding, Sent.upTo_self]
    rcases sendOnce_of_not_lt hlast with hdone | ⟨last', hagain, hverdict⟩
    · rw [hdone]
    · rw [hagain]
      dsimp only
      rw [sendFrom, if_neg hend, hverdict]
      rfl
  | succ left ih =>
    obtain ⟨fuel, rfl⟩ : ∃ fuel', fuel = fuel' + 1 := ⟨fuel - 1, by omega⟩
    have hwithin : attempt ≤ attempts.retries := by
      rw [UInt32.le_iff_toNat_le]
      omega
    rw [sendFrom, if_pos hwithin]
    by_cases hstops : Stops redirects isFailure (exchange attempt.toNat)
    · rw [sendOnce_of_stops hstops, deciding_of_stops hstops, Sent.upTo_self]
    · have hmore : attempt < attempts.retries := by
        rw [UInt32.lt_iff_toNat_lt]
        omega
      have hnext : (attempt + 1).toNat = attempt.toNat + 1 := toNat_succ_attempt (by omega)
      obtain ⟨last', hagain⟩ := sendOnce_of_lt hstops hmore
      have hrest := @ih fuel (attempt + 1) last' (by omega) (by omega)
      rw [hnext] at hrest
      rw [hagain, deciding_of_not_stops hstops, Sent.upTo_of_lt (le_deciding left _)]
      dsimp only
      rw [hrest]

/-- **The retry loop.** Within the budgets below `u32::MAX` it makes the attempts up to the deciding
one and answers its verdict. -/
theorem sendRetrying_eq (exchange : ℕ → Exchange) {fuel : ℕ}
    (hmax : attempts.retries.toNat < 2 ^ 32 - 1) (hfuel : attempts.retries.toNat + 2 ≤ fuel) :
    sendRetrying attempts redirects isFailure exchange fuel =
      Sent.upTo attempts redirects exchange 0
        (deciding (fun k => Stops redirects isFailure (exchange k)) attempts.retries.toNat 0) :=
  @sendFrom_eq attempts redirects isFailure exchange _ fuel 0 .failed hmax (Nat.zero_add _) hfuel

/-- A pause is no longer than the maximum. -/
lemma le_of_mem_pauseAfter {exchange : Exchange} {delay : ℕ}
    (h : delay ∈ pauseAfter attempts exchange) : delay ≤ attempts.retryAfterMax := by
  obtain ⟨answer, -, hpause⟩ := Option.bind_eq_some_iff.mp h
  split_ifs at hpause
  have hdelay := (Option.filter_eq_some_iff.mp hpause).1
  exact le_of_mem_parseRetryAfter hdelay

/-- The verdict of a rate limit is a 429 answer with its clamped delay. -/
lemma verdict_eq_rateLimited {exchange : Exchange} {retryAfter : Option ℕ}
    (h : verdict attempts redirects exchange = .error (.rateLimited retryAfter)) :
    ∃ answer ∈ readResponse exchange, answer.status = 429 ∧
      retryAfter = parseRetryAfter answer.headers attempts.retryAfterMax := by
  unfold verdict at h
  cases hread : readResponse exchange with
  | none => rw [hread] at h; cases h
  | some answer =>
    rw [hread] at h
    dsimp only at h
    split_ifs at h with h429 hsuccess
    · cases h
      exact ⟨answer, rfl, h429, rfl⟩
    · cases h

/-- The verdict is the failure of no answer only where no answer was read. -/
lemma verdict_eq_failed {exchange : Exchange}
    (h : verdict attempts redirects exchange = .error .failed) : readResponse exchange = none := by
  unfold verdict at h
  cases hread : readResponse exchange with
  | none => rfl
  | some answer =>
    rw [hread] at h
    dsimp only at h
    split_ifs at h with h429 hsuccess
    · cases h
    · cases h

/-- The verdict is an answer only where the attempt read it with a success status. -/
lemma verdict_eq_ok {exchange : Exchange} {answer : Answer}
    (h : verdict attempts redirects exchange = .ok answer) :
    readResponse exchange = some answer ∧ IsSuccess redirects answer.status := by
  unfold verdict at h
  cases hread : readResponse exchange with
  | none => rw [hread] at h; cases h
  | some answer' =>
    rw [hread] at h
    dsimp only at h
    split_ifs at h with h429 hsuccess
    cases h
    exact ⟨rfl, hsuccess⟩

/-- Which attempts have an answer as their verdict. -/
lemma verdict_eq_ok_iff {exchange : Exchange} {answer : Answer} :
    verdict attempts redirects exchange = .ok answer ↔
      readResponse exchange = some answer ∧ IsSuccess redirects answer.status := by
  constructor
  · exact verdict_eq_ok
  · intro h
    obtain ⟨hread, hsuccess⟩ := h
    have h429 : answer.status ≠ 429 := by
      unfold IsSuccess at hsuccess
      omega
    unfold verdict
    rw [hread]
    dsimp only
    rw [if_neg h429, if_pos hsuccess]

/-- A 429 answer does not stop the call. -/
lemma not_stops_of_tooManyRequests {exchange : Exchange} {answer : Answer}
    (hread : readResponse exchange = some answer) (h429 : answer.status = 429) :
    ¬Stops redirects isFailure exchange := by
  rintro ⟨answer', hread', hfinal⟩
  rw [hread] at hread'
  cases hread'
  unfold IsFinal IsSuccess at hfinal
  omega

/-- A flagged success does not stop the call. -/
lemma not_stops_of_flagged {exchange : Exchange} {answer : Answer}
    (hread : readResponse exchange = some answer) (hsuccess : IsSuccess redirects answer.status)
    (hflag : isFailure answer = true) : ¬Stops redirects isFailure exchange := by
  rintro ⟨answer', hread', hfinal⟩
  rw [hread] at hread'
  cases hread'
  unfold IsFinal IsClientError at hfinal
  unfold IsSuccess at hfinal hsuccess
  rw [hflag] at hfinal
  simp only [Bool.true_eq_false, and_false, false_or] at hfinal
  omega

end

/-- **What a call may rely on.** For every retry budget below `u32::MAX`, every cap on
`Retry-After`, both redirect policies and whatever the service does with each request, the loop
ends, and with `d` the number of its last attempt:

* it sends the requests 0 to `d`, at least one and at most `retries + 1`;
* an attempt that stops the call is its last one, and the last one stops it unless it is the last
  of the budget;
* the result is the verdict on the last attempt, so the error of no attempt is the result only
  where the last attempt read no answer;
* a 429 is the result only as the last attempt of the budget, with a delay within the cap;
* it sleeps at most `retries` times, each time within the cap;
* a flagged answer is the result only as the last attempt of the budget.

**Proof sketch.** `deciding` is the number of the first attempt that stops the call, or the last one
of the budget. Induction on the attempts shows that the loop sends the requests up to that number
and sleeps between them (`sendRetrying_eq`), so each part is a fact about one attempt: the verdict
on the deciding one, or the pause before a later one. -/
theorem sendRetrying_contract (attempts : Attempts) (redirects : Redirects)
    (isFailure : Answer → Bool) (exchange : ℕ → Exchange) (fuel : ℕ)
    (hmax : attempts.retries.toNat < 2 ^ 32 - 1) (hfuel : attempts.retries.toNat + 2 ≤ fuel) :
    let sent := sendRetrying attempts redirects isFailure exchange fuel
    ∃ d ≤ attempts.retries.toNat,
      sent.requests = List.range (d + 1) ∧
      (∀ k ∈ sent.requests, Stops redirects isFailure (exchange k) → k = d) ∧
      (d < attempts.retries.toNat → Stops redirects isFailure (exchange d)) ∧
      sent.result = some (verdict attempts redirects (exchange d)) ∧
      (sent.result = some (.error .failed) → readResponse (exchange d) = none) ∧
      (∀ retryAfter, sent.result = some (.error (.rateLimited retryAfter)) →
        d = attempts.retries.toNat ∧ (∃ answer ∈ readResponse (exchange d), answer.status = 429) ∧
          ∀ delay ∈ retryAfter, delay ≤ attempts.retryAfterMax) ∧
      sent.sleeps.length ≤ attempts.retries.toNat ∧
      (∀ delay ∈ sent.sleeps, delay ≤ attempts.retryAfterMax) ∧
      (∀ answer, sent.result = some (.ok answer) → isFailure answer = true →
        d = attempts.retries.toNat) := by
  intro sent
  set d := deciding (fun k => Stops redirects isFailure (exchange k)) attempts.retries.toNat 0
    with hd
  have hsent : sent = Sent.upTo attempts redirects exchange 0 d := sendRetrying_eq _ hmax hfuel
  have hle : d ≤ attempts.retries.toNat := (deciding_le _ 0).trans_eq (Nat.zero_add _)
  have hlast : d < attempts.retries.toNat → Stops redirects isFailure (exchange d) := by
    intro hlt
    rw [← Nat.zero_add attempts.retries.toNat, hd] at hlt
    exact stops_deciding hlt
  have hresult : sent.result = some (verdict attempts redirects (exchange d)) := by rw [hsent]; rfl
  have hverdict : ∀ r, sent.result = some r → verdict attempts redirects (exchange d) = r := by
    intro r hr
    rw [hresult] at hr
    exact Option.some.inj hr
  have hrequests : sent.requests = List.range (d + 1) := by
    rw [hsent, List.range_eq_range']
    rfl
  refine ⟨d, hle, hrequests, ?_, hlast, hresult, ?_, ?_, ?_, ?_, ?_⟩
  · intro k hk hstops
    rw [hrequests, List.mem_range] at hk
    by_contra hne
    have hlt : k < d := by omega
    exact not_stops_of_lt_deciding (Nat.zero_le k) hlt hstops
  · intro hfailed
    exact verdict_eq_failed (hverdict _ hfailed)
  · intro retryAfter hlimited
    obtain ⟨answer, hread, h429, rfl⟩ := verdict_eq_rateLimited (hverdict _ hlimited)
    refine ⟨?_, ⟨answer, hread, h429⟩, fun delay hdelay => le_of_mem_parseRetryAfter hdelay⟩
    by_contra hne
    exact not_stops_of_tooManyRequests hread h429 (hlast (by omega))
  · rw [hsent]
    refine (List.length_filterMap_le _ _).trans ?_
    simpa using hle
  · intro delay hdelay
    rw [hsent] at hdelay
    obtain ⟨k, -, hk⟩ := List.mem_filterMap.mp hdelay
    exact le_of_mem_pauseAfter hk
  · intro answer hok hflag
    obtain ⟨hread, hsuccess⟩ := verdict_eq_ok (hverdict _ hok)
    by_contra hne
    exact not_stops_of_flagged hread hsuccess hflag (hlast (by omega))

/-- A budget of one retry with a cap of six seconds. -/
def oneRetry : Attempts where
  timeout := 6 * nanosPerSecond
  retries := 1
  retryAfterMax := 6 * nanosPerSecond

/-- A service that limits every request and asks for a delay of ten minutes. -/
def limitedService : ℕ → Exchange := fun _ =>
  .response 429 [("retry-after", "600".toList.map fun c => c.toNat.toUInt8)] []

/-- A call to a service that limits every request sleeps once, within the cap, and answers the
clamped delay of its second request. -/
theorem sendRetrying_contract_limited :
    sendRetrying oneRetry .follow (fun _ => false) limitedService 3 =
        { requests := [0, 1]
          sleeps := [6 * nanosPerSecond]
          result := some (.error (.rateLimited (some (6 * nanosPerSecond)))) } ∧
      ∃ d ≤ 1, (sendRetrying oneRetry .follow (fun _ => false) limitedService 3).result =
        some (verdict oneRetry .follow (limitedService d)) := by
  refine ⟨by decide +kernel, ?_⟩
  obtain ⟨d, hd, -, -, -, hresult, -⟩ :=
    sendRetrying_contract oneRetry .follow (fun _ => false) limitedService 3 (by decide) (by decide)
  exact ⟨d, hd, hresult⟩

end PsStore
