import PsStore.Http.Browser

set_option relaxedAutoImplicit false
set_option autoImplicit false

/-!
# The runs of a session

What holds of the sessions of a browser in every run, whatever the order in which requests are sent,
answered and lost.

## Main definitions

* `SignedInWith` — the user signed in with the NPSSO, and Sony accepted it at this sign-in.
* `KeepsSession` — an event that ends no session.

## Main results

* `session_accepted` — every NPSSO that a request carries was accepted at an earlier sign-in.
* `signed_out_until_sign_in` — what a sign-out brings about.
* `signed_in_until_rejected` — what alone ends a session.
-/

namespace PsStore

/-! ## Where the NPSSO of a request comes from -/

/-- **The user signed in with the NPSSO, and Sony accepted it at this sign-in.** The browser sent
the request of the sign-in, and later the server answered this very request: it read the NPSSO from
the body, and its service accepted the NPSSO. -/
inductive SignedInWith (npsso : Secret) : List BrowserEvent → Prop where
  | accepted {before after : List BrowserEvent} {s : Browser} {i : ℕ} {server : Server}
      {jar : CookieJar} {request : HttpRequest} {body : List UInt8}
      (hrun : browserSystem.run browserSystem.init before = some s)
      (hsent : .send request ∈ before)
      (hrequest : s.exchanges[i]? = some ⟨CookieJar.attach jar request, none⟩)
      (hoperation : request.operation? = some .signIn) (hbody : request.body = .ok body)
      (hnpsso : npssoFromBody server.fromSlice body = some npsso)
      (haccepted : server.services.verifyNpsso npsso = .ok ()) :
      SignedInWith npsso (before ++ .serve i server :: after)

/-- More events do not undo a sign-in. -/
lemma SignedInWith.append {es : List BrowserEvent} {npsso : Secret} (h : SignedInWith npsso es)
    (e : BrowserEvent) : SignedInWith npsso (es ++ [e]) := by
  cases h with
  | accepted hrun hsent hrequest hoperation hbody hnpsso haccepted =>
    rw [List.append_assoc, List.cons_append]
    exact .accepted hrun hsent hrequest hoperation hbody hnpsso haccepted

/-- The NPSSOs in the browser and on the way, after the events `es`. -/
structure Accepted (s : Browser) (es : List BrowserEvent) : Prop where
  run : browserSystem.run browserSystem.init es = some s
  kept : ∀ npsso, session s.jar = some npsso → SignedInWith npsso es
  sent : ∀ x ∈ s.exchanges, ∃ jar request, .send request ∈ es ∧
    x.request = CookieJar.attach jar request
  carried : ∀ x ∈ s.exchanges, ∀ npsso, npssoFromCookie x.request.cookies = some npsso →
    SignedInWith npsso es
  entered : ∀ x ∈ s.exchanges, ∀ response, x.response = some response → ∀ npsso,
    effectOf response.setCookie = .enter npsso → SignedInWith npsso es

namespace Accepted

variable {s s' : Browser} {es : List BrowserEvent} {e : BrowserEvent}

/-- The invariant of the browser. -/
lemma inv (h : Accepted s es) : s.Inv := Browser.inv_of_reachable ⟨es, h.run⟩

/-- The run with one more step. -/
lemma run_append (h : Accepted s es) (hstep : browserSystem.step s e = some s') :
    browserSystem.run browserSystem.init (es ++ [e]) = some s' :=
  (TransitionSystem.run_append _).mpr ⟨s, h.run, (TransitionSystem.run_cons _).mpr ⟨s', hstep, rfl⟩⟩

/-- A step after which no request is new keeps the requests on their way accepted. -/
lemma of_subset (h : Accepted s es) (hstep : browserSystem.step s e = some s')
    (hsubset : s'.exchanges ⊆ s.exchanges)
    (hkept : ∀ npsso, session s'.jar = some npsso → SignedInWith npsso es) :
    Accepted s' (es ++ [e]) where
  run := h.run_append hstep
  kept npsso hnpsso := (hkept npsso hnpsso).append e
  sent x hx := by
    obtain ⟨jar, request, hrequest, hsame⟩ := h.sent x (hsubset hx)
    exact ⟨jar, request, List.mem_append_left _ hrequest, hsame⟩
  carried x hx npsso hnpsso := (h.carried x (hsubset hx) npsso hnpsso).append e
  entered x hx response hresponse npsso hnpsso :=
    (h.entered x (hsubset hx) response hresponse npsso hnpsso).append e

/-- A new request carries the session. -/
lemma send (h : Accepted s es) (request : HttpRequest) :
    Accepted { s with exchanges := s.exchanges ++ [⟨CookieJar.attach s.jar request, none⟩] }
      (es ++ [.send request]) where
  run := h.run_append rfl
  kept npsso hnpsso := (h.kept npsso hnpsso).append _
  sent x hx := by
    rcases List.mem_append.mp hx with hx | hx
    · obtain ⟨jar, old, hold, hsame⟩ := h.sent x hx
      exact ⟨jar, old, List.mem_append_left _ hold, hsame⟩
    · obtain rfl := List.mem_singleton.mp hx
      exact ⟨s.jar, request, List.mem_append_right _ (List.mem_singleton_self _), rfl⟩
  carried x hx npsso hnpsso := by
    rcases List.mem_append.mp hx with hx | hx
    · exact (h.carried x hx npsso hnpsso).append _
    · obtain rfl := List.mem_singleton.mp hx
      rw [npssoFromCookie_attach h.inv.jar] at hnpsso
      split_ifs at hnpsso
      exact (h.kept npsso hnpsso).append _
  entered x hx response hresponse npsso hnpsso := by
    rcases List.mem_append.mp hx with hx | hx
    · exact (h.entered x hx response hresponse npsso hnpsso).append _
    · obtain rfl := List.mem_singleton.mp hx
      cases hresponse

/-- An answer sets the cookie only of an accepted NPSSO.

**Proof sketch.** The requests on the way are the ones that were sent, and only this one gets an
answer. The answer enters the session only with the NPSSO of an accepted sign-in
(`exists_setsCookie_app`), and the request of this sign-in was sent before. -/
lemma serve (h : Accepted s es) {i : ℕ} {request : HttpRequest} (server : Server)
    (hrequest : s.exchanges[i]? = some ⟨request, none⟩)
    (hstep : browserSystem.step s (.serve i server) = some s')
    (hs' : s' = { s with
      exchanges := s.exchanges.set i ⟨request, some (app server request).response⟩ }) :
    Accepted s' (es ++ [.serve i server]) := by
  have hold : (⟨request, none⟩ : HttpExchange) ∈ s.exchanges := List.mem_of_getElem? hrequest
  have hrun := h.run_append hstep
  subst hs'
  refine ⟨hrun, fun npsso hnpsso => (h.kept npsso hnpsso).append _, ?_, ?_, ?_⟩
  · intro x hx
    have hsent : ∃ jar sent, .send sent ∈ es ∧ x.request = CookieJar.attach jar sent := by
      rcases List.mem_or_eq_of_mem_set hx with hx | rfl
      · exact h.sent x hx
      · exact h.sent ⟨request, none⟩ hold
    obtain ⟨jar, sent, hmem, hsame⟩ := hsent
    exact ⟨jar, sent, List.mem_append_left _ hmem, hsame⟩
  · intro x hx npsso hnpsso
    rcases List.mem_or_eq_of_mem_set hx with hx | rfl
    · exact (h.carried x hx npsso hnpsso).append _
    · exact (h.carried ⟨request, none⟩ hold npsso hnpsso).append _
  · intro x hx response hresponse npsso hnpsso
    rcases List.mem_or_eq_of_mem_set hx with hx | rfl
    · exact (h.entered x hx response hresponse npsso hnpsso).append _
    · obtain rfl := Option.some.inj hresponse
      obtain ⟨effect, hcookie⟩ := exists_setsCookie_app server request
      rw [(hcookie.spec h.inv.jar request.path).1] at hnpsso
      subst hnpsso
      obtain ⟨jar, sent, hsent, hsame⟩ := h.sent ⟨request, none⟩ hold
      obtain rfl : request = CookieJar.attach jar sent := hsame
      generalize (app server _).response.setCookie = setCookie at hcookie
      cases hcookie with
      | signedIn hoperation hbody hnpsso haccepted =>
        exact .accepted h.run hsent hrequest hoperation hbody hnpsso haccepted

/-- An arriving answer leaves a session that was accepted. -/
lemma session_receive (h : Accepted s es) {i : ℕ} {request : HttpRequest}
    {response : Response Payload} (hresponse : s.exchanges[i]? = some ⟨request, some response⟩)
    {npsso : Secret}
    (hnpsso : session (Browser.receive s.jar request.path response.setCookie) = some npsso) :
    SignedInWith npsso es := by
  obtain ⟨server, effect, hcookie⟩ := h.inv.setsCookie hresponse
  obtain ⟨heffect, -, hsession⟩ := hcookie.spec h.inv.jar request.path
  rw [hsession] at hnpsso
  cases effect with
  | keep => exact h.kept npsso hnpsso
  | enter npsso' =>
    obtain rfl := Option.some.inj hnpsso
    exact h.entered _ (List.mem_of_getElem? hresponse) response rfl _ heffect
  | leave => cases hnpsso

/-- **A step keeps the NPSSOs accepted.** -/
lemma step (h : Accepted s es) (hstep : browserSystem.step s e = some s') :
    Accepted s' (es ++ [e]) := by
  cases Browser.steps_of_step hstep with
  | send request => exact h.send request
  | serve server hrequest => exact h.serve server hrequest hstep rfl
  | receive hresponse =>
    apply h.of_subset hstep (List.eraseIdx_subset)
    intro npsso hnpsso
    exact h.session_receive hresponse hnpsso
  | lose hi => exact h.of_subset hstep (List.eraseIdx_subset) h.kept
  | keepOther path hforeign =>
    apply h.of_subset hstep (List.Subset.refl _)
    intro npsso hnpsso
    rw [session_eq_of_get (Browser.get_set_of_isForeign hforeign)] at hnpsso
    exact h.kept npsso hnpsso
  | forget key =>
    apply h.of_subset hstep (List.Subset.refl _)
    intro npsso hnpsso
    unfold session at hnpsso
    rw [InsertionMap.get_erase] at hnpsso
    split_ifs at hnpsso
    · cases hnpsso
    · exact h.kept npsso hnpsso

end Accepted

/-- **Only accepted NPSSOs are sent.** In every run, whatever the order of the requests, the answers
and the losses, every NPSSO that the server reads from a request on its way is one with which the
user signed in before, and Sony accepted it at this sign-in.

**Proof sketch.** The NPSSO of a request is the session of the browser at that time, and the session
changes only when an answer arrives that enters one. So an accepted sign-in stands behind the
session, behind each request on its way, and behind each answer on its way that enters a session
(`Accepted`). Only the answer of the server to a sign-in brings a new one: the request was sent
before, and the events up to the answer are the run to it (`Accepted.serve`). -/
theorem session_accepted {s : Browser} {es : List BrowserEvent}
    (hrun : browserSystem.run browserSystem.init es = some s) :
    ∀ x ∈ s.exchanges, ∀ npsso, npssoFromCookie x.request.cookies = some npsso →
      SignedInWith npsso es := by
  have haccepted : Accepted s es := by
    apply TransitionSystem.history_invariant _ _ hrun
    · refine ⟨rfl, ?_, ?_, ?_, ?_⟩
      · intro npsso hnpsso
        cases hnpsso
      · intro x hx
        cases hx
      · intro x hx
        cases hx
      · intro x hx
        cases hx
    · intro s es e s' h hstep
      exact h.step hstep
  exact haccepted.carried

/-- A run with a request for the wishlist behind the sign-in. -/
theorem session_accepted_sample :
    SignedInWith { expose := "abcdefgh01234567" }
      (sampleRun ++ [.send (sampleRequest .listWishlistGames none)]) := by
  have hsend : browserSystem.run sampleBrowser [.send (sampleRequest .listWishlistGames none)] =
      some { sampleBrowser with exchanges := sampleBrowser.exchanges ++
        [⟨CookieJar.attach sampleBrowser.jar (sampleRequest .listWishlistGames none), none⟩] } :=
    rfl
  apply session_accepted ((TransitionSystem.run_append _).mpr ⟨_, run_sampleRun, hsend⟩) _
    (List.mem_append_right _ (List.mem_singleton_self _))
  decide +kernel

/-! ## Signed out -/

/-- The browser keeps no session, and no sign-in is on its way. -/
structure SignedOut (s : Browser) : Prop where
  inv : s.Inv
  session_eq : session s.jar = none
  noSignIn : ∀ x ∈ s.exchanges, x.request.operation? ≠ some .signIn

/-- **Without a new sign-in** a step leaves the browser signed out.

**Proof sketch.** Only an answer changes the session, and only that of a sign-in enters one
(`SetsCookie.spec`); none is on its way. A request that is sent is no sign-in, so none is on its way
after the step. -/
lemma SignedOut.step {s s' : Browser} {e : BrowserEvent} (h : SignedOut s)
    (hsend : ∀ request, e = .send request → request.operation? ≠ some .signIn)
    (hstep : browserSystem.step s e = some s') : SignedOut s' := by
  refine ⟨h.inv.step hstep, ?_, ?_⟩
  · cases Browser.steps_of_step hstep with
    | send request => exact h.session_eq
    | serve server hrequest => exact h.session_eq
    | @receive i request response hresponse =>
      obtain ⟨server, effect, hcookie⟩ := h.inv.setsCookie hresponse
      obtain ⟨-, -, hsession⟩ := hcookie.spec h.inv.jar request.path
      have hnot := h.noSignIn _ (List.mem_of_getElem? hresponse)
      show session (Browser.receive s.jar request.path response.setCookie) = none
      rw [hsession, h.session_eq]
      generalize response.setCookie = setCookie at hcookie
      cases hcookie with
      | keep => rfl
      | signedIn hoperation hbody hnpsso haccepted => exact absurd hoperation hnot
      | signedOut hoperation => rfl
      | rejected hoperation hservice hcookie hrejected => rfl
    | lose hi => exact h.session_eq
    | keepOther path hforeign =>
      rw [session_eq_of_get (Browser.get_set_of_isForeign hforeign)]
      exact h.session_eq
    | forget key =>
      unfold session
      rw [InsertionMap.get_erase]
      split_ifs
      · rfl
      · exact h.session_eq
  · intro x hx
    cases Browser.steps_of_step hstep with
    | send request =>
      rcases List.mem_append.mp hx with hx | hx
      · exact h.noSignIn x hx
      · obtain rfl := List.mem_singleton.mp hx
        exact hsend request rfl
    | @serve i request server hrequest =>
      rcases List.mem_or_eq_of_mem_set hx with hx | rfl
      · exact h.noSignIn x hx
      · exact h.noSignIn ⟨request, none⟩ (List.mem_of_getElem? hrequest)
    | receive hresponse => exact h.noSignIn x (List.mem_of_mem_eraseIdx hx)
    | lose hi => exact h.noSignIn x (List.mem_of_mem_eraseIdx hx)
    | keepOther path hforeign => exact h.noSignIn x hx
    | forget key => exact h.noSignIn x hx

/-- A signed-in list without a session answers 401 and asks no service. -/
lemma code?_signedInList {server : Server} {request : HttpRequest} {operation : Operation}
    (hoperation : request.operation? = some operation)
    (hlist : (server.services.signedInList operation).isSome = true)
    (hcookie : npssoFromCookie request.cookies = none)
    (hpanic : server.panics (trimTrailingSlash request) = false) :
    (app server request).response.code? = some .sessionRejected := by
  obtain ⟨segment, hhandle⟩ := @exists_handleOperation server _ _ hoperation
  show (contained server (trimTrailingSlash request)).code? = some .sessionRejected
  unfold contained
  rw [hpanic, if_neg (by decide), hhandle]
  have hroute : ∀ service, (signedInRoute service request.cookies).code? =
      some .sessionRejected := by
    intro service
    unfold signedInRoute
    rw [hcookie]
    rfl
  cases operation with
  | listPurchasedGames => exact hroute _
  | listWishlistGames => exact hroute _
  | _ => cases hlist

/-- **A sign-out lasts until the next sign-in.** Where the answer of a successful sign-out arrives
and no sign-in is on its way, then along every run without a new sign-in, whatever else is sent,
answered, lost or on its way: the browser sends no NPSSO, and the server answers its requests for
the purchased games and the wishlist with `session_rejected`.

**Proof sketch.** The answer of a sign-out clears the cookie (`SetsCookie.spec`), so the browser is
then signed out, with no sign-in on its way. Every step but a sign-in keeps that (`SignedOut.step`),
so no later request carries an NPSSO, and without one a signed-in list is rejected
(`code?_signedInList`). -/
theorem signed_out_until_sign_in {s s₁ s₂ : Browser} (hs : browserSystem.Reachable s) {i : ℕ}
    {request : HttpRequest} {response : Response Payload}
    (hresponse : s.exchanges[i]? = some ⟨request, some response⟩)
    (hoperation : request.operation? = some .signOut) (hstatus : response.status = 204)
    (hreceive : browserSystem.step s (.receive i) = some s₁)
    (hflight : ∀ x ∈ s₁.exchanges, x.request.operation? ≠ some .signIn)
    {es : List BrowserEvent}
    (hes : ∀ request, .send request ∈ es → request.operation? ≠ some .signIn)
    (hrun : browserSystem.run s₁ es = some s₂) (next : HttpRequest) :
    npssoFromCookie (CookieJar.attach s₂.jar next).cookies = none ∧
      ∀ server operation, next.operation? = some operation →
        (server.services.signedInList operation).isSome = true →
        server.panics (trimTrailingSlash (CookieJar.attach s₂.jar next)) = false →
        (app server (CookieJar.attach s₂.jar next)).response.code? = some .sessionRejected := by
  have hinv := Browser.inv_of_reachable hs
  have hout : SignedOut s₁ := by
    refine ⟨hinv.step hreceive, ?_, hflight⟩
    cases Browser.steps_of_step hreceive with
    | @receive i request' response' hresponse' =>
      rw [hresponse] at hresponse'
      cases hresponse'
      obtain ⟨server, hserver⟩ := hinv.answered _ (List.mem_of_getElem? hresponse) response rfl
      have hcookie : response.setCookie = [expiredCookie] := by
        rw [hserver]
        apply setCookie_signOut hoperation
        rw [← hserver]
        exact hstatus
      show session (Browser.receive s.jar request.path response.setCookie) = none
      rw [hcookie]
      have heffect := @SetsCookie.signedOut server request hoperation
      exact (heffect.spec hinv.jar request.path).2.2
  have hout₂ : SignedOut s₂ := by
    have hmeets := TransitionSystem.Meets.of_forall browserSystem
      (fun e he request (h : e = .send request) => hes request (h ▸ he)) s₁
    exact hmeets.invariant (fun s e s' hsend h hstep => h.step hsend hstep) hout hrun
  have hnone : npssoFromCookie (CookieJar.attach s₂.jar next).cookies = none := by
    rw [npssoFromCookie_attach hout₂.inv.jar, hout₂.session_eq, ite_self]
  refine ⟨hnone, ?_⟩
  intro server operation hnext hlist hpanic
  exact code?_signedInList hnext hlist hnone hpanic

/-- The sign-in leaves no request on its way. -/
lemma reachable_sampleJar : browserSystem.Reachable ⟨sampleBrowser.jar, []⟩ := by
  have hexchanges : sampleBrowser.exchanges = [] := by
    apply List.eq_nil_of_length_eq_zero
    decide +kernel
  have hreachable : browserSystem.Reachable sampleBrowser := ⟨sampleRun, run_sampleRun⟩
  generalize sampleBrowser = s at hexchanges hreachable
  cases s
  cases hexchanges
  exact hreachable

/-- A sign-out, and behind it another cookie and a request for the purchased games. -/
def sampleSignOutRun : List BrowserEvent :=
  [.send (sampleRequest .signOut none), .serve 0 (sampleServer none), .receive 0,
    .keepOther "lang".toList "/".toList "fi".toList,
    .send (sampleRequest .listPurchasedGames none), .serve 0 (sampleServer none), .receive 0]

/-- After the sign-out the server that would answer any NPSSO rejects the wishlist. -/
theorem signed_out_until_sign_in_sample :
    ∃ s, browserSystem.run ⟨sampleBrowser.jar, []⟩ sampleSignOutRun = some s ∧
      npssoFromCookie
        (CookieJar.attach s.jar (sampleRequest .listWishlistGames none)).cookies = none ∧
      (app (sampleServer none)
        (CookieJar.attach s.jar (sampleRequest .listWishlistGames none))).response.code? =
          some .sessionRejected := by
  have hstatus : (app (sampleServer none) (CookieJar.attach sampleBrowser.jar
      (sampleRequest .signOut none))).response.status = 204 := by decide +kernel
  have hjar := reachable_sampleJar
  generalize sampleBrowser.jar = jar at hstatus hjar
  have hreachable := hjar.run (rfl : browserSystem.run ⟨jar, []⟩
    [.send (sampleRequest .signOut none), .serve 0 (sampleServer none)] = some _)
  have hoperation : (CookieJar.attach jar (sampleRequest .signOut none)).operation? =
      some .signOut := operation?_sampleRequest .signOut none
  have hes : ∀ request, BrowserEvent.send request ∈ sampleSignOutRun.drop 3 →
      request.operation? ≠ some .signIn := by
    intro request hmem
    have hrequest : request = sampleRequest .listPurchasedGames none := by
      simpa [sampleSignOutRun] using hmem
    rw [hrequest, operation?_sampleRequest]
    decide
  obtain ⟨hnone, hcode⟩ := signed_out_until_sign_in hreachable (i := 0) rfl hoperation hstatus rfl
    (fun x hx => absurd hx List.not_mem_nil) hes rfl (sampleRequest .listWishlistGames none)
  refine ⟨_, rfl, hnone, hcode (sampleServer none) .listWishlistGames ?_ rfl rfl⟩
  exact operation?_sampleRequest .listWishlistGames none

/-! ## Signed in -/

/-- An event that ends no session: no sign-out starts, the browser does not forget the session
cookie, and where the server answers a request, it does not reject the NPSSO of this request. -/
def KeepsSession (s : Browser) : BrowserEvent → Prop
  | .send request => request.operation? ≠ some .signOut
  | .serve i server => ∀ x, s.exchanges[i]? = some x → ¬Rejects server x.request
  | .forget key => key ≠ sessionKey
  | _ => True

/-- The browser keeps a session, and nothing on its way ends it. -/
structure SignedIn (s : Browser) : Prop where
  inv : s.Inv
  session_ne : session s.jar ≠ none
  noSignOut : ∀ x ∈ s.exchanges, x.request.operation? ≠ some .signOut
  noLeave : ∀ x ∈ s.exchanges, ∀ response, x.response = some response →
    response.setCookie ≠ [expiredCookie]

/-- An answer that does not clear the cookie keeps a session. -/
lemma session_receive_ne {s : Browser} (hs : s.Inv) (hsession : session s.jar ≠ none) {i : ℕ}
    {request : HttpRequest} {response : Response Payload}
    (hresponse : s.exchanges[i]? = some ⟨request, some response⟩)
    (hleave : response.setCookie ≠ [expiredCookie]) :
    session (Browser.receive s.jar request.path response.setCookie) ≠ none := by
  obtain ⟨server, effect, hcookie⟩ := hs.setsCookie hresponse
  rw [(hcookie.spec hs.jar request.path).2.2]
  generalize response.setCookie = setCookie at hcookie hleave
  cases hcookie with
  | keep => exact hsession
  | signedIn hoperation hbody hnpsso haccepted => exact nofun
  | signedOut hoperation => exact absurd rfl hleave
  | rejected hoperation hservice hcookie hrejected => exact absurd rfl hleave

/-- **Where nothing ends the session**, a step leaves the browser signed in.

**Proof sketch.** A request that is sent is no sign-out. An answer that the server gives clears the
cookie only to a sign-out, of which none is on its way, or where it rejects the NPSSO, which the
condition rules out. An answer that arrives clears nothing, so the session stays or is another one,
and the cookie is not forgotten. -/
lemma SignedIn.step {s s' : Browser} {e : BrowserEvent} (h : SignedIn s) (he : KeepsSession s e)
    (hstep : browserSystem.step s e = some s') : SignedIn s' := by
  have hinv := h.inv.step hstep
  cases Browser.steps_of_step hstep with
  | send request =>
    refine ⟨hinv, h.session_ne, ?_, ?_⟩
    · intro x hx
      rcases List.mem_append.mp hx with hx | hx
      · exact h.noSignOut x hx
      · obtain rfl := List.mem_singleton.mp hx
        exact he
    · intro x hx response hresponse
      rcases List.mem_append.mp hx with hx | hx
      · exact h.noLeave x hx response hresponse
      · obtain rfl := List.mem_singleton.mp hx
        cases hresponse
  | @serve i request server hrequest =>
    have hold := h.noSignOut ⟨request, none⟩ (List.mem_of_getElem? hrequest)
    refine ⟨hinv, h.session_ne, ?_, ?_⟩
    · intro x hx
      rcases List.mem_or_eq_of_mem_set hx with hx | rfl
      · exact h.noSignOut x hx
      · exact hold
    · intro x hx response hresponse
      rcases List.mem_or_eq_of_mem_set hx with hx | rfl
      · exact h.noLeave x hx response hresponse
      · obtain rfl := Option.some.inj hresponse
        obtain ⟨effect, hcookie⟩ := exists_setsCookie_app server request
        generalize (app server request).response.setCookie = setCookie at hcookie
        cases hcookie with
        | keep => exact (List.cons_ne_nil _ _).symm
        | @signedIn body npsso hoperation hbody hnpsso haccepted =>
          intro hcontra
          have hvalid := (exists_headerValue_signInCookie hnpsso).1
          have heffect := congrArg effectOf hcontra
          rw [effectOf_signInCookie hvalid] at heffect
          have hexpired : effectOf [expiredCookie] = .leave := by decide
          rw [hexpired] at heffect
          cases heffect
        | signedOut hoperation => exact absurd hoperation hold
        | rejected hoperation hservice hcookie hrejected =>
          exact absurd ⟨_, _, _, _, hoperation, hservice, hcookie, hrejected⟩ (he _ hrequest)
  | receive hresponse =>
    have hmem := List.mem_of_getElem? hresponse
    refine ⟨hinv, session_receive_ne h.inv h.session_ne hresponse (h.noLeave _ hmem _ rfl), ?_, ?_⟩
    · intro x hx
      exact h.noSignOut x (List.mem_of_mem_eraseIdx hx)
    · intro x hx
      exact h.noLeave x (List.mem_of_mem_eraseIdx hx)
  | lose hi =>
    refine ⟨hinv, h.session_ne, ?_, ?_⟩
    · intro x hx
      exact h.noSignOut x (List.mem_of_mem_eraseIdx hx)
    · intro x hx
      exact h.noLeave x (List.mem_of_mem_eraseIdx hx)
  | keepOther path hforeign =>
    refine ⟨hinv, ?_, h.noSignOut, h.noLeave⟩
    rw [session_eq_of_get (Browser.get_set_of_isForeign hforeign)]
    exact h.session_ne
  | forget key =>
    refine ⟨hinv, ?_, h.noSignOut, h.noLeave⟩
    unfold session
    rw [InsertionMap.get_erase, if_neg (Ne.symm he)]
    exact h.session_ne

/-- **A session lasts until it is ended.** From any reachable state with a session and with no
sign-out and no clearing answer on its way, along every run in which no sign-out starts, the browser
does not forget the cookie, and no signed-in list rejects the NPSSO of its request: a request under
the path of the cookie carries an NPSSO, unless one of its other cookies has a byte beyond visible
ASCII. So no outage, panic, rate limit, lost answer or failed sign-in ends a session.

**Proof sketch.** The invariant `SignedIn` says that there is a session and that nothing on its way
ends it. It holds at the start, and each step of the run keeps it (`SignedIn.step`). The request
then carries the NPSSO that the browser keeps (`npssoFromCookie_attach`), unless its header is not
read. -/
theorem signed_in_until_rejected {s s' : Browser} (hs : browserSystem.Reachable s)
    (hsession : session s.jar ≠ none)
    (hflight : ∀ x ∈ s.exchanges, x.request.operation? ≠ some .signOut ∧
      ∀ response, x.response = some response → response.setCookie ≠ [expiredCookie])
    {es : List BrowserEvent} (hes : browserSystem.Meets KeepsSession s es)
    (hrun : browserSystem.run s es = some s') (next : HttpRequest)
    (hpath : pathMatches next.path "/api".toList = true) :
    (∃ npsso, npssoFromCookie (CookieJar.attach s'.jar next).cookies = some npsso) ↔
      s'.jar.isPlain next.path = true := by
  have hin : SignedIn s := ⟨Browser.inv_of_reachable hs, hsession, fun x hx => (hflight x hx).1,
    fun x hx => (hflight x hx).2⟩
  have hin' : SignedIn s' := hes.invariant (fun s e s' he h hstep => h.step he hstep) hin hrun
  rw [npssoFromCookie_attach hin'.inv.jar, CookieJar.carries, hpath, Bool.true_and]
  cases hplain : s'.jar.isPlain next.path with
  | true => exact iff_of_true (Option.ne_none_iff_exists'.mp hin'.session_ne) rfl
  | false => exact iff_of_false (fun h => nomatch h) nofun

/-- After the sign-in: a request for the wishlist meets an outage, and another sign-in fails,
because Sony rejects its NPSSO. -/
def sampleTroubleRun : List BrowserEvent :=
  [.send (sampleRequest .listWishlistGames none),
    .serve 0 (sampleServer (some .upstreamUnavailable)), .receive 0,
    .send (sampleRequest .signIn none), .serve 0 (sampleServer (some .sessionRejected)), .receive 0]

/-- The session is still there. -/
theorem signed_in_until_rejected_sample :
    ∃ s, browserSystem.run ⟨sampleBrowser.jar, []⟩ sampleTroubleRun = some s ∧
      ((∃ npsso, npssoFromCookie (CookieJar.attach s.jar
        (sampleRequest .listPurchasedGames none)).cookies = some npsso) ↔
      s.jar.isPlain (sampleRequest .listPurchasedGames none).path = true) := by
  have hpath : pathMatches (sampleRequest .listPurchasedGames none).path "/api".toList = true := by
    decide +kernel
  have hsession : session sampleBrowser.jar ≠ none := by decide +kernel
  have hreachable := reachable_sampleJar
  generalize sampleBrowser.jar = jar at hsession hreachable
  have houtage : ∀ request, ¬Rejects (sampleServer (some .upstreamUnavailable)) request := by
    rintro request ⟨operation, service, npsso, message, -, hservice, -, hrejected⟩
    cases operation <;> cases hservice <;> cases hrejected
  have hsignIn : ∀ jar, ¬Rejects (sampleServer (some .sessionRejected))
      (CookieJar.attach jar (sampleRequest .signIn none)) := by
    rintro jar ⟨operation, service, npsso, message, hoperation, hservice, -, -⟩
    obtain rfl := Option.some.inj ((operation?_sampleRequest .signIn none).symm.trans hoperation)
    cases hservice
  have hes : browserSystem.Meets KeepsSession ⟨jar, []⟩ sampleTroubleRun := by
    refine .cons ?_ rfl (.cons (fun x _ => houtage x.request) rfl (.cons trivial rfl
      (.cons ?_ rfl (.cons ?_ rfl (.cons trivial rfl trivial)))))
    · show (sampleRequest .listWishlistGames none).operation? ≠ some .signOut
      rw [operation?_sampleRequest]
      decide
    · show (sampleRequest .signIn none).operation? ≠ some .signOut
      rw [operation?_sampleRequest]
      decide
    · intro x hx
      obtain rfl := Option.some.inj hx
      exact hsignIn _
  exact ⟨_, rfl, signed_in_until_rejected hreachable hsession
    (fun x hx => absurd hx List.not_mem_nil) hes rfl _ hpath⟩

end PsStore
