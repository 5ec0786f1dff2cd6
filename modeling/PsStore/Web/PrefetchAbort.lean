import PsStore.Web.Prefetch

set_option relaxedAutoImplicit false
set_option autoImplicit false

/-!
# The abort of a signed-in prefetch

A sign-out aborts the signed-in request in flight through the abort function that the session holds.
The `finally` block of a `prefetchTab` call takes that function out of the session, whether it is
its own or that of another loop, and a signed-in tab that starts puts its own function in the place
of another one. So the abort reaches the request only as long as no call finishes, and no signed-in
tab starts, under the request of another call.

## Main definitions

* `Prefetch.StopsInFlight` — the session holds the abort function of the request in flight.
* `Prefetch.Undisturbed` — the condition on a step.
* `Prefetch.Owned` — the session holds the abort function of every open request.

## Main results

* `Prefetch.step_cases` — what a step does to the calls and the session.
* `Prefetch.Owned.step` — an undisturbed step keeps the abort function.
* `Prefetch.prefetch_signOut` — the abort reaches the request along every undisturbed run, and no
  signed-in tab starts after access is denied.
-/

namespace PsStore.Prefetch

/-- A signed-in request of the call is in flight: it is sent, and neither answered nor aborted. -/
def Call.InFlight (call : Call) : Prop :=
  isSignedInTab call.tab = true ∧ call.aborted = false ∧ call.request = .sent

/-- A signed-in request of the call is in flight, or waits for the network. -/
def Call.Open (call : Call) : Prop :=
  isSignedInTab call.tab = true ∧ call.aborted = false ∧
    (call.request = .sent ∨ call.fetching = .paused)

instance (call : Call) : Decidable call.InFlight := by
  unfold Call.InFlight
  infer_instance

instance (call : Call) : Decidable call.Open := by
  unfold Call.Open
  infer_instance

/-- The session holds the abort function of the request in flight, and a sign-out aborts it. -/
def StopsInFlight (s : Sys) : Prop :=
  ∀ i call, s.calls[i]? = some call → call.InFlight →
    s.session.stopSignedIn = some i ∧
      ∃ call', s.stopSignedInPrefetch.calls[i]? = some call' ∧ call'.aborted = true

/-- The condition on a step: a signed-in tab starts, and the `finally` block of a call runs, only
while no signed-in request is open. What counts is the state after the start of the fetch has told
the other calls of it, and after the `catch` block of the call. -/
def Undisturbed (s : Sys) : Event → Prop
  | .resume l client =>
    match s.loops[l]?.bind (s.startsTab client) with
    | none => True
    | some tab =>
      isSignedInTab tab = true → ∀ other ∈ (s.tellStart client tab).calls, ¬other.Open
  | .finish i client =>
    match s.calls[i]? with
    | none => True
    | some call =>
      match call.fetching with
      | .settled result => ∀ other ∈ (s.catchFailure client call.tab result).calls, ¬other.Open
      | .sent | .paused | .following => True
  | .runPrefetch _ | .unmount | .abort _ | .abortTask _ _ | .fetchEvent _ _ | .ready _ _
  | .goOn _ _ | .reset _ | .settle _ _ | .answered _ | .signOut => True

instance : ∀ (s : Sys) (e : Event), Decidable (Undisturbed s e) := by
  intro s e
  cases e with
  | resume l client =>
    dsimp only [Undisturbed]
    cases s.loops[l]?.bind (s.startsTab client) <;> (dsimp only; infer_instance)
  | finish i client =>
    dsimp only [Undisturbed]
    cases s.calls[i]? with
    | none => exact instDecidableTrue
    | some call =>
      dsimp only
      cases call.fetching <;> (dsimp only; infer_instance)
  | _ => exact instDecidableTrue

/-- The session holds the abort function of every open request. -/
def Owned (s : Sys) : Prop :=
  ∀ i call, s.calls[i]? = some call → call.Open → s.session.stopSignedIn = some i

/-! ## Steps that start no request -/

/-- No call starts, no request opens, and a denied access stays denied. -/
structure Calm (s s' : Sys) : Prop where
  access : s.session.access = .denied → s'.session.access = .denied
  calls : ∀ (i : ℕ) (call' : Call), s'.calls[i]? = some call' →
    ∃ call : Call, s.calls[i]? = some call ∧ call'.tab = call.tab ∧ (call'.Open → call.Open)

/-- The step is calm and leaves the abort function. -/
structure Quiet (s s' : Sys) : Prop extends Calm s s' where
  stop : s'.session.stopSignedIn = s.session.stopSignedIn

/-- Calm steps compose. -/
lemma Calm.trans {s m s' : Sys} (h : Calm s m) (h' : Calm m s') : Calm s s' where
  access hdenied := h'.access (h.access hdenied)
  calls i call' hcall' := by
    obtain ⟨call₁, hcall₁, htab₁, hopen₁⟩ := h'.calls i call' hcall'
    obtain ⟨call, hcall, htab, hopen⟩ := h.calls i call₁ hcall₁
    exact ⟨call, hcall, htab₁.trans htab, fun h => hopen (hopen₁ h)⟩

/-- Quiet steps compose. -/
lemma Quiet.trans {s m s' : Sys} (h : Quiet s m) (h' : Quiet m s') : Quiet s s' where
  toCalm := h.toCalm.trans h'.toCalm
  stop := h'.stop.trans h.stop

/-- A step that leaves the calls is quiet where it leaves the abort function and a denied access. -/
lemma Quiet.of_calls {s s' : Sys} (hcalls : s'.calls = s.calls)
    (hstop : s'.session.stopSignedIn = s.session.stopSignedIn)
    (haccess : s.session.access = .denied → s'.session.access = .denied) : Quiet s s' where
  access := haccess
  stop := hstop
  calls _ call hcall := ⟨call, hcalls ▸ hcall, rfl, id⟩

/-- No step at all is quiet. -/
lemma Quiet.refl (s : Sys) : Quiet s s := .of_calls rfl rfl id

/-- A loop that moves on touches no call. -/
lemma quiet_setPhase (s : Sys) (l : ℕ) (phase : Phase) : Quiet s (s.setPhase l phase) :=
  .of_calls rfl rfl id

/-- An update of a call that keeps its tab and opens no request is quiet. -/
lemma quiet_updateCall (s : Sys) (i : ℕ) {f : Call → Call} (htab : ∀ call, (f call).tab = call.tab)
    (hopen : ∀ call, s.calls[i]? = some call → (f call).Open → call.Open) :
    Quiet s (s.updateCall i f) where
  access := id
  stop := rfl
  calls j call' hcall' := by
    simp only [Sys.updateCall, List.getElem?_modify] at hcall'
    obtain ⟨call, hcall, rfl⟩ := Option.map_eq_some_iff.mp hcall'
    refine ⟨call, hcall, ?_, ?_⟩
    · split_ifs
      · exact htab call
      · rfl
    · split_ifs with hij
      · subst hij
        exact hopen call hcall
      · exact id

/-- A reset opens no request. -/
lemma Call.open_of_open_reset (call : Call) (h : call.reset.Open) : call.Open := by
  unfold Call.Open Call.reset at *
  cases hfetching : call.fetching <;> simp_all

/-- A reset leaves the tab of a call. -/
lemma Call.tab_reset (call : Call) : call.reset.tab = call.tab := by
  unfold Call.reset
  cases call.fetching <;> rfl

/-- A promise that settles opens no request. -/
lemma Call.open_of_open_settle (call : Call) (result : Except FetchError Unit)
    (h : (call.settle result).Open) : call.Open := by
  obtain ⟨hsigned, haborted, hsent | hpaused⟩ := h
  · refine ⟨hsigned, haborted, .inl ?_⟩
    dsimp only [Call.settle] at hsent
    split_ifs at hsent
    exact hsent
  · cases hpaused

/-- A reset of a query opens no request. -/
lemma quiet_resetQuery (s : Sys) (queryKey : QueryKey) : Quiet s (s.resetQuery queryKey) where
  access := id
  stop := rfl
  calls i call' hcall' := by
    simp only [Sys.resetQuery, List.getElem?_map] at hcall'
    obtain ⟨call, hcall, rfl⟩ := Option.map_eq_some_iff.mp hcall'
    refine ⟨call, hcall, ?_, ?_⟩
    · split_ifs
      · exact call.tab_reset
      · rfl
    · split_ifs
      · exact call.open_of_open_reset
      · exact id

/-- A discard resets a query or does nothing. -/
lemma quiet_discardIfUnwatched (s : Sys) (client : Client) (queryKey : QueryKey) :
    Quiet s (s.discardIfUnwatched client queryKey) := by
  unfold Sys.discardIfUnwatched
  cases findQuery client queryKey with
  | none => exact .refl s
  | some query =>
    dsimp only
    split_ifs
    · exact .refl s
    · exact quiet_resetQuery s queryKey

/-- An abort takes a request off the wire. -/
lemma quiet_abortForced (s : Sys) (i : ℕ) : Quiet s (s.abortForced i) :=
  quiet_updateCall s i (fun _ => rfl) fun _ _ hopen => by simp [Call.Open] at hopen

/-- An abort without `force` takes a request off the wire and discards its query, or does
nothing. -/
lemma quiet_abortUnlessJoined (s : Sys) (client : Client) (i : ℕ) :
    Quiet s (s.abortUnlessJoined client i) := by
  unfold Sys.abortUnlessJoined
  cases s.calls[i]? with
  | none => exact .refl s
  | some call =>
    dsimp only
    split_ifs
    · exact .refl s
    · exact (quiet_abortForced s i).trans (quiet_discardIfUnwatched _ client _)

/-- The subscriptions of the calls open no request. -/
lemma quiet_fetchEvent (s : Sys) (queryKey : QueryKey) (client : Client) :
    Quiet s (s.fetchEvent queryKey client) := by
  unfold Sys.fetchEvent
  generalize List.range s.calls.length = is
  induction is generalizing s with
  | nil => exact .refl s
  | cons i is ih =>
    rw [List.foldl_cons]
    refine Quiet.trans ?_ (ih (Sys.onFetch queryKey client s i))
    unfold Sys.onFetch
    cases s.calls[i]? with
    | none => exact .refl s
    | some call =>
      dsimp only
      split_ifs
      · exact .refl s
      · exact quiet_abortUnlessJoined s client i

/-- The abort of a loop only queues the microtask of its call. -/
lemma quiet_abort (s : Sys) (l : ℕ) (loop : Loop) : Quiet s (s.abort l loop) := by
  unfold Sys.abort
  split_ifs
  · exact .refl s
  · dsimp only
    generalize hm : ({ s with loops := s.loops.set l { loop with aborted := true } } : Sys) = m
    have hset : Quiet s m := by
      rw [← hm]
      exact .of_calls rfl rfl id
    cases loop.phase with
    | waiting => exact hset.trans (quiet_setPhase m l _)
    | prefetching i => exact hset.trans (quiet_updateCall m i (fun _ => rfl) fun _ _ => id)
    | _ => exact hset

/-- The head of a loop touches no call. -/
lemma quiet_head (s : Sys) (client : Client) (l : ℕ) (loop : Loop) :
    Quiet s (s.head client l loop) := by
  unfold Sys.head
  split_ifs
  · exact quiet_setPhase s l _
  · exact quiet_setPhase s l _
  · exact quiet_setPhase s l _

/-- A loop that judges an outcome can only deny access. -/
lemma quiet_judge (s : Sys) (tab : PrefetchTab) (outcome : Outcome) :
    Quiet s (s.judge tab outcome) := by
  unfold Sys.judge
  cases outcome with
  | failed error =>
    dsimp only
    split_ifs
    · exact .of_calls rfl rfl fun _ => rfl
    · exact .of_calls rfl rfl id
  | _ => exact .refl s

/-- The `catch` block discards a query or does nothing. -/
lemma quiet_catchFailure (s : Sys) (client : Client) (tab : PrefetchTab)
    (result : Except FetchError Unit) : Quiet s (s.catchFailure client tab result) := by
  cases result with
  | ok _ => exact .refl s
  | error _ => exact quiet_discardIfUnwatched s client _

/-- A sign-out denies access and aborts at most one request. -/
lemma quiet_stopSignedInPrefetch (s : Sys) : Quiet s s.stopSignedInPrefetch := by
  unfold Sys.stopSignedInPrefetch
  generalize hm : ({ s with session := { s.session with access := .denied } } : Sys) = m
  have hdenied : Quiet s m := by
    rw [← hm]
    exact .of_calls rfl rfl fun _ => rfl
  dsimp only
  cases m.session.stopSignedIn with
  | none => exact hdenied
  | some i => exact hdenied.trans (quiet_abortForced m i)

/-- The `finally` block opens no request. -/
lemma calm_finallyBlock (s : Sys) (i : ℕ) (call : Call) (result : Except FetchError Unit) :
    Calm s (s.finallyBlock i call result) := by
  have hupdate : Quiet s (s.updateCall i fun call => { call with finished := true }) :=
    quiet_updateCall s i (fun _ => rfl) fun _ _ => id
  exact { access := id, calls := hupdate.calls }

/-! ## What a step does -/

/-- The end of a call. -/
lemma step_finish {s s' : Sys} {i : ℕ} {client : Client}
    (h : step s (.finish i client) = some s') :
    ∃ call result, s.calls[i]? = some call ∧ call.fetching = .settled result ∧
      s' = (s.catchFailure client call.tab result).finallyBlock i call result := by
  unfold step at h
  split_ifs at h
  simp only [stepOn] at h
  split at h
  · cases h
  · rename_i call hcall
    split at h
    · rename_i result hsettled
      split_ifs at h
      exact ⟨call, result, hcall, hsettled, (Option.some.inj h).symm⟩
    · cases h
    · cases h
    · cases h

/-- The start of a tab. -/
lemma step_resume_startsTab {s s' : Sys} {l : ℕ} {client : Client} {loop : Loop}
    {tab : PrefetchTab} (h : step s (.resume l client) = some s')
    (hloop : s.loops[l]? = some loop) (hstarts : s.startsTab client loop = some tab) :
    s' = s.startTab client l tab := by
  unfold step at h
  split_ifs at h
  unfold Sys.startsTab at hstarts
  split_ifs at hstarts with hready
  simp only [stepOn, hloop, Option.bind_some, Sys.resume, hready.1, hready.2, if_true,
    hstarts] at h
  exact (Option.some.inj h).symm

/-- The steps: a loop starts a tab, a call runs its `finally` block, and the quiet ones.

**Proof sketch.** By the kind of the event. A loop that is resumed may start a tab, and a call that
has settled runs its `finally` block; each other event is made of parts that are quiet, one lemma
each. -/
lemma step_cases {s s' : Sys} {e : Event} (h : step s e = some s') :
    (∃ l client loop tab, e = .resume l client ∧ s.loops[l]? = some loop ∧
      s.startsTab client loop = some tab ∧ s' = s.startTab client l tab) ∨
    (∃ i client call result, e = .finish i client ∧ s.calls[i]? = some call ∧
      call.fetching = .settled result ∧
      s' = (s.catchFailure client call.tab result).finallyBlock i call result) ∨
    Quiet s s' := by
  have hstep := h
  unfold step at h
  split_ifs at h
  cases e with
  | runPrefetch pathname =>
    refine Or.inr (Or.inr ?_)
    rw [← Option.some.inj h]
    exact .of_calls rfl rfl id
  | unmount =>
    refine Or.inr (Or.inr ?_)
    rw [← Option.some.inj h]
    exact .of_calls rfl rfl id
  | abort l =>
    refine Or.inr (Or.inr ?_)
    obtain ⟨loop, -, rfl⟩ := Option.map_eq_some_iff.mp h
    exact quiet_abort s l loop
  | abortTask i client =>
    refine Or.inr (Or.inr ?_)
    simp only [stepOn] at h
    split at h
    · cases h
    · split_ifs at h
      rw [← Option.some.inj h]
      refine Quiet.trans ?_ (quiet_abortUnlessJoined _ client i)
      exact quiet_updateCall s i (fun _ => rfl) fun _ _ => id
  | fetchEvent queryKey client =>
    refine Or.inr (Or.inr ?_)
    rw [← Option.some.inj h]
    exact quiet_fetchEvent s queryKey client
  | ready l client =>
    refine Or.inr (Or.inr ?_)
    simp only [stepOn] at h
    split at h
    · cases h
    · split_ifs at h
      rw [← Option.some.inj h]
      exact quiet_setPhase s l _
  | goOn i client =>
    refine Or.inr (Or.inr ?_)
    simp only [stepOn] at h
    split at h
    · cases h
    · rename_i call hcall
      split_ifs at h with hpaused
      rw [← Option.some.inj h]
      refine Quiet.trans ?_ (quiet_fetchEvent _ _ client)
      refine quiet_updateCall s i (fun _ => rfl) fun other hother hopen => ?_
      -- the request was open before: it waited for the network
      obtain rfl : call = other := Option.some.inj (hcall.symm.trans hother)
      exact ⟨hopen.1, hopen.2.1, .inr hpaused⟩
  | reset queryKey =>
    refine Or.inr (Or.inr ?_)
    rw [← Option.some.inj h]
    exact quiet_resetQuery s queryKey
  | settle i result =>
    refine Or.inr (Or.inr ?_)
    have hquiet : Quiet s (s.updateCall i (Call.settle result)) :=
      quiet_updateCall s i (fun _ => rfl) fun call _ => call.open_of_open_settle result
    simp only [stepOn] at h
    split at h
    · cases h
    · split at h
      · cases h
      · rw [← Option.some.inj h]
        exact hquiet
      · rw [← Option.some.inj h]
        exact hquiet
      · rw [← Option.some.inj h]
        exact hquiet
  | answered i =>
    refine Or.inr (Or.inr ?_)
    simp only [stepOn] at h
    split at h
    · cases h
    · split_ifs at h
      rw [← Option.some.inj h]
      refine quiet_updateCall s i (fun _ => rfl) fun call _ hopen => ?_
      exact ⟨hopen.1, hopen.2.1, hopen.2.2.imp (fun hended => nomatch hended) id⟩
  | finish i client =>
    obtain ⟨call, result, hcall, hsettled, hs'⟩ := step_finish hstep
    exact Or.inr (Or.inl ⟨i, client, call, result, rfl, hcall, hsettled, hs'⟩)
  | resume l client =>
    obtain ⟨loop, hloop, h⟩ := Option.bind_eq_some_iff.mp h
    unfold Sys.resume at h
    split at h
    · rw [← Option.some.inj h]
      exact Or.inr (Or.inr (quiet_head s client l loop))
    · rw [← Option.some.inj h]
      exact Or.inr (Or.inr (quiet_setPhase s l _))
    · rename_i hphase
      split_ifs at h with hready
      · split at h
        · rw [← Option.some.inj h]
          exact Or.inr (Or.inr (quiet_setPhase s l _))
        · rename_i tab htab
          refine Or.inl ⟨l, client, loop, tab, rfl, hloop, ?_, (Option.some.inj h).symm⟩
          unfold Sys.startsTab
          rw [if_pos ⟨hphase, hready⟩, htab]
      · rw [← Option.some.inj h]
        exact Or.inr (Or.inr (quiet_head s client l loop))
    · rw [← Option.some.inj h]
      exact Or.inr (Or.inr ((quiet_judge s _ _).trans (quiet_head _ client l loop)))
    · cases h
    · cases h
    · cases h
  | signOut =>
    refine Or.inr (Or.inr ?_)
    rw [← Option.some.inj h]
    exact quiet_stopSignedInPrefetch s

/-- A quiet step keeps the abort functions. -/
lemma Owned.of_quiet {s s' : Sys} (h : Owned s) (hquiet : Quiet s s') : Owned s' := by
  intro i call' hcall' hopen'
  obtain ⟨call, hcall, -, hopen⟩ := hquiet.calls i call' hcall'
  rw [hquiet.stop]
  exact h i call hcall (hopen hopen')

/-- The tab that a loop starts is open to it. -/
lemma startsTab_eq_some {s : Sys} {client : Client} {loop : Loop} {tab : PrefetchTab}
    (h : s.startsTab client loop = some tab) (hdenied : s.session.access = .denied) :
    isSignedInTab tab = false := by
  unfold Sys.startsTab at h
  split_ifs at h with hready
  have htab := List.find?_some h
  rw [hdenied] at htab
  simp only [beq_self_eq_true, Bool.true_and, Bool.and_eq_true, Bool.not_eq_true'] at htab
  exact htab.2

/-! ## Along a run -/

/-- The start of a fetch opens no request of another call. -/
lemma quiet_tellStart (s : Sys) (client : Client) (tab : PrefetchTab) :
    Quiet s (s.tellStart client tab) := by
  unfold Sys.tellStart
  split_ifs
  · exact .refl s
  · exact quiet_fetchEvent s tab.queryKey client

/-- A call after a start is one of before or the new one. -/
lemma Sys.startTab_calls {s : Sys} {client : Client} {l : ℕ} {tab : PrefetchTab} {i : ℕ}
    {call : Call} (h : (s.startTab client l tab).calls[i]? = some call) :
    (s.tellStart client tab).calls[i]? = some call ∨
      i = (s.tellStart client tab).calls.length ∧ call.tab = tab := by
  unfold Sys.startTab at h
  dsimp only at h
  generalize (s.tellStart client tab).calls = calls at h ⊢
  rcases Nat.lt_trichotomy i calls.length with hlt | rfl | hgt
  · rw [List.getElem?_append_left hlt] at h
    exact .inl h
  · rw [List.getElem?_concat_length] at h
    exact .inr ⟨rfl, by rw [← Option.some.inj h]⟩
  · have hlt := (List.getElem?_eq_some_iff.mp h).1
    rw [List.length_append, List.length_singleton] at hlt
    omega

/-- A start of a signed-in tab puts the abort function of its call into the session. -/
lemma Sys.startTab_stop (s : Sys) (client : Client) (l : ℕ) (tab : PrefetchTab) :
    (s.startTab client l tab).session.stopSignedIn =
      if isSignedInTab tab then some (s.tellStart client tab).calls.length
      else (s.tellStart client tab).session.stopSignedIn := rfl

/-- **An undisturbed step** keeps the abort function of every open request in the session. -/
lemma Owned.step {s s' : Sys} {e : Event} (hundisturbed : Undisturbed s e) (h : Owned s)
    (hstep : step s e = some s') : Owned s' := by
  obtain ⟨l, client, loop, tab, rfl, hloop, hstarts, rfl⟩ |
    ⟨i, client, call, result, rfl, hcall, hsettled, rfl⟩ | hquiet := step_cases hstep
  · have hm := quiet_tellStart s client tab
    have hclosed : isSignedInTab tab = true →
        ∀ other ∈ (s.tellStart client tab).calls, ¬other.Open := by
      simpa only [Undisturbed, hloop, Option.bind_some, hstarts] using hundisturbed
    intro j other hother hopen
    rw [s.startTab_stop]
    rcases Sys.startTab_calls hother with hother | ⟨rfl, htab⟩
    · by_cases hsigned : isSignedInTab tab = true
      · exact absurd hopen (hclosed hsigned other (List.mem_of_getElem? hother))
      · rw [if_neg hsigned]
        exact h.of_quiet hm j other hother hopen
    · rw [← htab, if_pos hopen.1]
  · have hclosed : ∀ other ∈ (s.catchFailure client call.tab result).calls, ¬other.Open := by
      simpa only [Undisturbed, hcall, hsettled] using hundisturbed
    intro j other hother hopen
    obtain ⟨before, hbefore, -, hback⟩ := (calm_finallyBlock _ i call result).calls j other hother
    exact absurd (hback hopen) (hclosed before (List.mem_of_getElem? hbefore))
  · exact h.of_quiet hquiet

/-- Where the session holds the abort function of a request, a sign-out aborts it. -/
lemma Owned.stopsInFlight {s : Sys} (h : Owned s) : StopsInFlight s := by
  intro i call hcall hflight
  have hstop := h i call hcall ⟨hflight.1, hflight.2.1, .inl hflight.2.2⟩
  refine ⟨hstop, { call with aborted := true }, ?_, rfl⟩
  simp only [Sys.stopSignedInPrefetch, hstop, Sys.abortForced, Sys.updateCall,
    List.getElem?_modify, hcall, if_true, Option.map_eq_map, Option.map_some]

/-- A `finally` block under a request in flight takes its abort function out of the session. -/
lemma not_stopsInFlight_finallyBlock {s : Sys} {i : ℕ} {call other : Call}
    {result : Except FetchError Unit} (hmem : other ∈ s.calls) (hflight : other.InFlight) :
    ¬StopsInFlight (s.finallyBlock i call result) := by
  intro hstops
  obtain ⟨j, hj⟩ := List.mem_iff_getElem?.mp hmem
  have hother : (s.finallyBlock i call result).calls[j]? =
      some (if i = j then { other with finished := true } else other) := by
    simp only [Sys.finallyBlock, Sys.setPhase, Sys.updateCall, List.getElem?_modify, hj,
      Option.map_eq_map, Option.map_some]
  have hflight' : (if i = j then { other with finished := true } else other).InFlight := by
    split_ifs
    · exact hflight
    · exact hflight
  obtain ⟨hstop, -⟩ := hstops j _ hother hflight'
  cases hstop

/-- **A denied access stays denied**, and no call of a signed-in tab starts under it. -/
lemma denied_step {s s' : Sys} {e : Event} {n : ℕ} (hdenied : s.session.access = .denied)
    (hcalls : ∀ i call, n ≤ i → s.calls[i]? = some call → isSignedInTab call.tab = false)
    (hstep : step s e = some s') :
    s'.session.access = .denied ∧
      ∀ i call, n ≤ i → s'.calls[i]? = some call → isSignedInTab call.tab = false := by
  have hcalm : ∀ m, Calm s m → m.session.access = .denied ∧
      ∀ i call, n ≤ i → m.calls[i]? = some call → isSignedInTab call.tab = false := by
    intro m hm
    refine ⟨hm.access hdenied, fun i call hi hcall => ?_⟩
    obtain ⟨before, hbefore, htab, -⟩ := hm.calls i call hcall
    rw [htab]
    exact hcalls i before hi hbefore
  obtain ⟨l, client, loop, tab, rfl, -, hstarts, rfl⟩ |
    ⟨i, client, call, result, rfl, -, -, rfl⟩ | hquiet := step_cases hstep
  · obtain ⟨haccess, hbefore⟩ := hcalm _ (quiet_tellStart s client tab).toCalm
    refine ⟨haccess, fun i call hi hcall => ?_⟩
    rcases Sys.startTab_calls hcall with hcall | ⟨-, htab⟩
    · exact hbefore i call hi hcall
    · rw [htab]
      exact startsTab_eq_some hstarts hdenied
  · exact hcalm _ ((quiet_catchFailure s client call.tab result).toCalm.trans
      (calm_finallyBlock _ i call result))
  · exact hcalm s' hquiet.toCalm

/-- A start of a signed-in tab under a request in flight takes the abort function of that request
out of the session. -/
lemma not_stopsInFlight_startTab {s : Sys} {client : Client} {l : ℕ} {tab : PrefetchTab}
    {other : Call} (hsigned : isSignedInTab tab = true)
    (hmem : other ∈ (s.tellStart client tab).calls) (hflight : other.InFlight) :
    ¬StopsInFlight (s.startTab client l tab) := by
  intro hstops
  obtain ⟨j, hj⟩ := List.mem_iff_getElem?.mp hmem
  have hlt := (List.getElem?_eq_some_iff.mp hj).1
  have hother : (s.startTab client l tab).calls[j]? = some other := by
    unfold Sys.startTab
    dsimp only
    rw [List.getElem?_append_left hlt, hj]
  obtain ⟨hstop, -⟩ := hstops j other hother hflight
  rw [s.startTab_stop, if_pos hsigned] at hstop
  have hlength := Option.some.inj hstop
  omega

/-- **The abort of a sign-out.** After every run whose steps are undisturbed the session holds the
abort function of the signed-in request in flight, so that a sign-out aborts it. After every run in
which access was denied no later step of a loop starts a signed-in tab. A `finally` block that runs,
or a signed-in tab that starts, while another signed-in request is in flight leaves that request
without its abort function.

**Proof sketch.** The invariant is that the session holds the abort function of every open request,
those in flight and those that wait for the network. A step starts a tab, runs a `finally` block, or
is quiet: it opens no request and leaves the function. A quiet step keeps the invariant, and before
the two other steps no request is open in an undisturbed run. -/
theorem prefetch_signOut (es : List Event) (s : Sys) (hrun : system.run system.init es = some s) :
    (system.Meets Undisturbed system.init es → StopsInFlight s) ∧
    (∀ es' s', s.session.access = .denied → system.run s es' = some s' →
      s'.session.access = .denied ∧
        ∀ i call, s.calls.length ≤ i → s'.calls[i]? = some call → isSignedInTab call.tab = false) ∧
    (∀ i client s' call result other, system.step s (.finish i client) = some s' →
      s.calls[i]? = some call → call.fetching = .settled result →
      other ∈ (s.catchFailure client call.tab result).calls → other.InFlight →
      ¬StopsInFlight s') ∧
    ∀ l client loop tab other s', system.step s (.resume l client) = some s' →
      s.loops[l]? = some loop → s.startsTab client loop = some tab → isSignedInTab tab = true →
      other ∈ (s.tellStart client tab).calls → other.InFlight → ¬StopsInFlight s' := by
  refine ⟨?_, ?_, ?_, ?_⟩
  · intro hmeets
    have hinit : Owned system.init := fun i call hcall => by simp [system, Sys.start] at hcall
    exact (hmeets.invariant (fun s e s' hC h hstep => h.step hC hstep) hinit hrun).stopsInFlight
  · intro es' s' hdenied hrun'
    have hs : system.Reachable s := ⟨es, hrun⟩
    refine hs.run_invariant (P := fun m => m.session.access = .denied ∧
      ∀ i call, s.calls.length ≤ i → m.calls[i]? = some call → isSignedInTab call.tab = false)
      (fun m e m' _ hm hstep => denied_step hm.1 hm.2 hstep) ⟨hdenied, ?_⟩ hrun'
    intro i call hi hcall
    rw [List.getElem?_eq_none hi] at hcall
    cases hcall
  · intro i client s' call result other hstep hcall hsettled hmem hflight hstops
    obtain ⟨call', result', hcall', hsettled', rfl⟩ := step_finish hstep
    obtain rfl : call = call' := Option.some.inj (hcall.symm.trans hcall')
    obtain rfl : result = result' := by
      rw [hsettled] at hsettled'
      exact Fetching.settled.inj hsettled'
    exact not_stopsInFlight_finallyBlock hmem hflight hstops
  · intro l client loop tab other s' hstep hloop hstarts hsigned hmem hflight
    obtain rfl := step_resume_startsTab hstep hloop hstarts
    exact not_stopsInFlight_startTab hsigned hmem hflight

/-- A client that shows a route, with the tabs UPCOMING, DISCOUNTED and MONTHLY in place and the
queries `queries`. -/
def warmClient (queries : List Query) : Client where
  queries := queries ++ [.games .upcoming, .games .discounted, .games .monthly].map fun queryKey =>
    { queryKey, status := .success, fetchStatus := .idle, isActive := false }
  online := true

/-- A query without data that fetches. -/
def fetchingQuery (queryKey : QueryKey) (isActive : Bool) : Query where
  queryKey := queryKey
  status := .pending
  fetchStatus := .fetching
  isActive := isActive

/-- A query with data. -/
def loadedQuery (queryKey : QueryKey) (isActive : Bool) : Query where
  queryKey := queryKey
  status := .success
  fetchStatus := .idle
  isActive := isActive

/-- A loop on NEW reads WISHLIST to its end and starts PURCHASED. -/
def undisturbedRun : List Event :=
  let wishlistLoaded := warmClient [loadedQuery (.games .new) true, loadedQuery .wishlist false]
  [.runPrefetch "/new",
    .resume 0 (warmClient [loadedQuery (.games .new) true]),
    .resume 0 (warmClient [loadedQuery (.games .new) true]),
    .settle 0 (.ok ()),
    .finish 0 wishlistLoaded,
    .resume 0 wishlistLoaded,
    .resume 0 wishlistLoaded]

/-- In that run the session holds the abort function of the PURCHASED request. -/
theorem prefetch_signOut_purchased :
    ∃ s, system.run system.init undisturbedRun = some s ∧ StopsInFlight s ∧
      ∃ call ∈ s.calls, call.tab = .purchased ∧ call.InFlight := by
  obtain ⟨s, hrun, hcall⟩ : ∃ s, system.run system.init undisturbedRun = some s ∧
      (s.calls.any fun call => call.tab = .purchased ∧ call.InFlight) = true :=
    Option.any_eq_true _ _ |>.mp (by decide +kernel)
  refine ⟨s, hrun, (prefetch_signOut _ s hrun).1 (by decide +kernel), ?_⟩
  simpa using hcall

/-- A loop on NEW prefetches WISHLIST, and the user opens that tab. The request is not aborted,
since the view joins it. When it settles, the loop of the new route starts PURCHASED before the call
of the first loop runs its `finally` block. -/
def joinedRun : List Event :=
  let wishlistLoaded := warmClient [loadedQuery .wishlist true]
  [.runPrefetch "/new",
    .resume 0 (warmClient [loadedQuery (.games .new) true]),
    .resume 0 (warmClient [loadedQuery (.games .new) true]),
    .abort 0,
    .runPrefetch "/wishlist",
    .abortTask 0 (warmClient [fetchingQuery .wishlist true]),
    .resume 1 (warmClient [fetchingQuery .wishlist true]),
    .settle 0 (.ok ()),
    .ready 1 wishlistLoaded,
    .resume 1 wishlistLoaded,
    .finish 0 (warmClient [loadedQuery .wishlist true, fetchingQuery .purchased false])]

/-- In that run the PURCHASED request is in flight, and the session holds no abort function. -/
theorem prefetch_signOut_joined :
    ∃ s, system.run system.init joinedRun = some s ∧ ¬StopsInFlight s := by
  obtain ⟨s, hrun, hlost⟩ : ∃ s, system.run system.init joinedRun = some s ∧
      ((s.calls[1]?.any fun call => call.InFlight) && s.session.stopSignedIn == none) = true :=
    Option.any_eq_true _ _ |>.mp (by decide +kernel)
  rw [Bool.and_eq_true] at hlost
  obtain ⟨call, hcall, hflight⟩ := (Option.any_eq_true _ _).mp hlost.1
  refine ⟨s, hrun, fun hstops => ?_⟩
  obtain ⟨hstop, -⟩ := hstops 1 call hcall (of_decide_eq_true hflight)
  rw [hstop] at hlost
  cases hlost.2

end PsStore.Prefetch
