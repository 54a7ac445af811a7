import FluxPurr.Lan.Authorization

/-!
# What the LAN gate guarantees

`Session.Guarded` is what holds in every state of a run: nothing is passed on without
the token and, for writes, without the lease and a revision; a token comes from a claim
with the code of the open window; and a cleared token stays cleared until something is
claimed.  `leaseEnded_of_accepts` is about two points of a run: one lease follows another
only after the first one has ended.
-/

namespace FluxPurr.Lan

open FluxPurr.Runs
open NetHttpState

variable {pairingClaimCode : String → Option String}

section

variable (pairingClaimCode)

/-- The answer to the action has the token in it. -/
def Discloses (state : NetHttpState) (token : LanToken) : LanAction → Prop
  | .gate nowMs request => ∃ response,
      (state.gate pairingClaimCode nowMs request).2 = .respond response ∧
        response.body = .token token
  | .gateLightRead request => ∃ response,
      state.gateLightRead request = .respond response ∧ response.body = .token token
  | _ => False

/-- The action makes a token. -/
def Creates (state : NetHttpState) (token : LanToken) (action : LanAction) : Prop :=
  (action.perform pairingClaimCode state).token = some token ∧ state.token ≠ some token

structure Session.Guarded (session : Session) : Prop where
  bearer : ∀ nowMs request command origin, session.clockMs ≤ nowMs →
    (session.state.gate pairingClaimCode nowMs request).2 = .dispatch command origin →
      ∃ token value, session.state.token = some token ∧
        request.authorization.bind stripBearer = some value ∧ matchesBearer token value = true
  lease : ∀ nowMs request command origin, session.clockMs ≤ nowMs →
    (session.state.gate pairingClaimCode nowMs request).2 = .dispatch command origin →
      isWrite request.method = true →
        ∃ id renewedMs revision, command.leaseId = some id ∧
          leaseOf session.history = some (id, renewedMs) ∧ nowMs < renewedMs + lanLeaseTtlMs ∧
          command.expectedRevision = some revision
  token : ∀ action token, session.state.pairingMode = .required →
    Creates pairingClaimCode session.state token action ∨
        Discloses pairingClaimCode session.state token action →
      ∃ nowMs request submitted wrong, action = .gate nowMs request ∧ request.isClaim = true ∧
        pairingClaimCode request.body = some submitted ∧
        windowOf session.history = some (asBytes submitted, wrong) ∧ wrong < 5
  cleared : ∀ before after, session.history = before ++ .cleared :: after → .claimed ∉ after →
    (∀ nowMs request endpoint, endpointForPath request.path = some endpoint →
      endpointAllowsMethod endpoint request.method = true → endpoint.permission ≠ .publicAccess →
        session.state.gate pairingClaimCode nowMs request =
          (session.state, .respond (withCors request.origin unauthorizedResponse))) ∧
    ∀ request endpoint origin, session.state.gateLightRead request ≠ .snapshot endpoint origin

end

/-! ## The parts -/

variable {state : NetHttpState} {session later : Session} {nowMs : ℕ} {request : HttpRequest}

theorem exists_token_of_authorized (h : state.authorized request.authorization = true) :
    ∃ token value, state.token = some token ∧
      request.authorization.bind stripBearer = some value ∧ matchesBearer token value = true := by
  unfold authorized at h
  split at h
  · rename_i token value htoken hvalue
    exact ⟨token, value, htoken, hvalue, h⟩
  · cases h

theorem live_of_expire {leases : LanLeaseState} {lease : LanLease}
    (h : (leases.expire nowMs).lease = some lease) : nowMs < lease.expiresAtMs := by
  obtain ⟨-, hlive⟩ := Option.filter_eq_some_iff.mp h
  exact of_decide_eq_true hlive

theorem lt_of_lt_saturatingAdd {left right : ℕ} (h : nowMs < saturatingAdd left right) :
    nowMs < left + right ∧ nowMs < u64Max := by
  unfold saturatingAdd at h
  omega

/-- A lease that the gate accepts is the one of the events, and it is younger than 30 s. -/
theorem Tracks.lease_of_gate (h : Tracks session) (hclock : session.clockMs ≤ nowMs)
    {lease : LanLease} (hlease : (session.state.leases.expire nowMs).lease = some lease) :
    ∃ renewedMs, leaseOf session.history = some (lease.id, renewedMs) ∧
      nowMs < renewedMs + lanLeaseTtlMs ∧ nowMs < u64Max := by
  obtain ⟨renewedMs, hevents, hexpires⟩ := (h.lease.expire hclock).leaseOf_eq hlease
  have hlive := live_of_expire hlease
  rw [hexpires] at hlive
  exact ⟨renewedMs, hevents, lt_of_lt_saturatingAdd hlive⟩

/-- A claim in required mode that is granted has the code of the window. -/
theorem right_of_grant (hmode : state.pairingMode = .required) {after : NetHttpState}
    {response : HttpResponse} (token : LanToken)
    (hcase : ClaimCase pairingClaimCode state request after response)
    (hgrant : response.body = .token token ∨ after.token = some token ∧ state.token ≠ some token) :
    ∃ submitted, pairingClaimCode request.body = some submitted ∧
      state.pairing.code = some (asBytes submitted) := by
  cases hcase with
  | unread _ hplain =>
    rcases hgrant with hbody | ⟨hafter, hbefore⟩
    · rw [hbody] at hplain
      cases hplain
    · exact absurd hafter hbefore
  | wrong submitted error =>
    rcases hgrant with hbody | ⟨hafter, hbefore⟩
    · have hplain := isPlain_accessErrorResponse error
      rw [hbody] at hplain
      cases hplain
    · exact absurd hafter hbefore
  | granted hright =>
    obtain ⟨submitted, hsubmitted, hcode, -⟩ := hright hmode
    exact ⟨submitted, hsubmitted, hcode⟩

theorem leaseRoute_body (state : NetHttpState) (nowMs : ℕ) (request : HttpRequest)
    (token : LanToken) : (state.leaseRoute nowMs request).2.body ≠ .token token := by
  have herror : ∀ error, (accessErrorResponse error).body ≠ .token token := by
    intro error hbody
    have hplain := isPlain_accessErrorResponse error
    rw [hbody] at hplain
    cases hplain
  have hresponse : ∀ result, (leaseResponse result).body ≠ .token token := by
    intro result
    cases result with
    | ok lease => nofun
    | error error => exact herror error
  unfold leaseRoute
  split
  · exact hresponse _
  · split
    · exact hresponse _
    · exact hresponse _
  · split
    · exact herror _
    · split
      · nofun
      · exact herror _
  · nofun

theorem Tracks.claim_of_token (h : Tracks session) {action : LanAction} {token : LanToken}
    (hmode : session.state.pairingMode = .required)
    (htoken : Creates pairingClaimCode session.state token action ∨
      Discloses pairingClaimCode session.state token action) :
    ∃ nowMs request submitted wrong, action = .gate nowMs request ∧ request.isClaim = true ∧
      pairingClaimCode request.body = some submitted ∧
      windowOf session.history = some (asBytes submitted, wrong) ∧ wrong < 5 := by
  cases action with
  | gate nowMs request =>
    have hgrant : (∃ response,
        (session.state.gate pairingClaimCode nowMs request).2 = .respond response ∧
          response.body = .token token) ∨
        (session.state.gate pairingClaimCode nowMs request).1.token = some token ∧
          session.state.token ≠ some token := htoken.symm
    have hcase := gate_case pairingClaimCode session.state nowMs request
    generalize session.state.gate pairingClaimCode nowMs request = result at hgrant hcase
    obtain ⟨after, answer⟩ := result
    cases hcase with
    | claim hclaim =>
      have hright : ∃ submitted, pairingClaimCode request.body = some submitted ∧
          session.state.pairing.code = some (asBytes submitted) := by
        refine right_of_grant hmode token (claimPairing_case session.state request) ?_
        rcases hgrant with ⟨response, hresponse, hbody⟩ | hcreated
        · obtain rfl := HttpGate.respond.inj hresponse
          exact Or.inl hbody
        · exact Or.inr hcreated
      obtain ⟨submitted, hsubmitted, hcode⟩ := hright
      obtain ⟨hwindow, hfailed⟩ := h.window.window _ hcode
      exact ⟨nowMs, request, submitted, session.state.pairing.failedAttempts, rfl, hclaim,
        hsubmitted, hwindow, hfailed⟩
    | plain response hplain | refused response hplain =>
      rcases hgrant with ⟨response', hresponse, hbody⟩ | ⟨hafter, hbefore⟩
      · obtain rfl := HttpGate.respond.inj hresponse
        rw [hbody] at hplain
        cases hplain
      · exact absurd hafter hbefore
    | lease =>
      rcases hgrant with ⟨response, hresponse, hbody⟩ | ⟨hafter, hbefore⟩
      · obtain rfl := HttpGate.respond.inj hresponse
        exact absurd hbody (leaseRoute_body _ _ _ _)
      · rw [(leaseRoute_rest session.state nowMs request).2.2] at hafter
        exact absurd hafter hbefore
    | read | write =>
      rcases hgrant with ⟨response, hresponse, -⟩ | ⟨hafter, hbefore⟩
      · cases hresponse
      · exact absurd hafter hbefore
  | gateLightRead request =>
    rcases htoken with ⟨hafter, hbefore⟩ | ⟨response, hresponse, hbody⟩
    · exact absurd hafter hbefore
    · have hplain := isPlain_gateLightRead hresponse
      rw [hbody] at hplain
      cases hplain
  | clearTokenFromUsb =>
    rcases htoken with ⟨hafter, -⟩ | hdisclosed
    · cases hafter
    · exact hdisclosed.elim
  | pairingCodeFromRandom random =>
    have hsame : (session.state.pairingCodeFromRandom random).1.token = session.state.token := by
      unfold pairingCodeFromRandom
      split_ifs <;> rfl
    rcases htoken with ⟨hafter, hbefore⟩ | hdisclosed
    · exact absurd (hsame.symm.trans hafter) hbefore
    · exact hdisclosed.elim
  | takePersistedTokenChange =>
    have hsame : session.state.takePersistedTokenChange.1.token = session.state.token := by
      unfold takePersistedTokenChange
      split_ifs <;> rfl
    rcases htoken with ⟨hafter, hbefore⟩ | hdisclosed
    · exact absurd (hsame.symm.trans hafter) hbefore
    · exact hdisclosed.elim
  | leavePairing | setPairingMode | commandLeaseIsActive =>
    rcases htoken with ⟨hafter, hbefore⟩ | hdisclosed
    · exact absurd hafter hbefore
    · exact hdisclosed.elim

/-! ## A cleared token -/

theorem not_authorized_of_none (htoken : state.token = none) (header : Option String) :
    state.authorized header = false := by
  unfold authorized
  rw [htoken]

/-- Without a token every endpoint that is not public is refused, and nothing changes. -/
theorem gate_of_no_token (htoken : state.token = none) {endpoint : LanEndpoint}
    (hendpoint : endpointForPath request.path = some endpoint)
    (hmethod : endpointAllowsMethod endpoint request.method = true)
    (hpermission : endpoint.permission ≠ .publicAccess) :
    state.gate pairingClaimCode nowMs request =
      (state, .respond (withCors request.origin unauthorizedResponse)) := by
  have hoptions : request.method ≠ .options := by
    intro hoptions
    rw [hoptions] at hmethod
    cases endpoint <;> cases hmethod
  have hhealth : endpoint ≠ .health := by
    rintro rfl
    exact hpermission rfl
  have hpairing : endpoint ≠ .pairing := by
    rintro rfl
    exact hpermission rfl
  have hclaim : endpoint ≠ .pairingClaim := by
    rintro rfl
    exact hpermission rfl
  simp [gate, dispatchGate, hoptions, hendpoint, hmethod, hhealth,
    hpairing, hclaim, not_authorized_of_none htoken]

theorem gateLightRead_of_no_token (htoken : state.token = none) (request : HttpRequest)
    (endpoint : LanEndpoint) (origin : Option String) :
    state.gateLightRead request ≠ .snapshot endpoint origin := by
  intro hsnapshot
  unfold gateLightRead at hsnapshot
  simp only [not_authorized_of_none htoken, Bool.false_eq_true, if_false] at hsnapshot
  split_ifs at hsnapshot
  split at hsnapshot
  · cases hsnapshot
  · split_ifs at hsnapshot

theorem foldl_clearedStep_of_not_claimed {events : List LanEvent} (h : .claimed ∉ events) :
    events.foldl clearedStep true = true := by
  induction events with
  | nil => rfl
  | cons event events ih =>
    have hstep : clearedStep true event = true := by
      cases event with
      | claimed => exact absurd List.mem_cons_self h
      | _ => rfl
    rw [List.foldl_cons, hstep]
    exact ih fun hmem => h (List.mem_cons_of_mem event hmem)

theorem Tracks.no_token (h : Tracks session) {before after : List LanEvent}
    (hhistory : session.history = before ++ .cleared :: after) (hclaimed : .claimed ∉ after) :
    session.state.token = none := by
  refine h.token ?_
  rw [hhistory, clearedIn_append]
  exact foldl_clearedStep_of_not_claimed hclaimed

/-! ## The guarantees -/

theorem Tracks.guarded (h : Tracks session) : session.Guarded pairingClaimCode where
  bearer nowMs request command origin hclock hdispatch := by
    have hcase := gate_case pairingClaimCode session.state nowMs request
    rw [hdispatch] at hcase
    generalize (session.state.gate pairingClaimCode nowMs request).1 = after at hcase
    cases hcase with
    | read _ _ hauthorized | write _ _ _ _ _ hauthorized =>
      exact exists_token_of_authorized hauthorized
  lease nowMs request command origin hclock hdispatch hwrite := by
    have hcase := gate_case pairingClaimCode session.state nowMs request
    rw [hdispatch] at hcase
    generalize (session.state.gate pairingClaimCode nowMs request).1 = after at hcase
    cases hcase with
    | read _ _ _ hread =>
      rw [hwrite] at hread
      cases hread
    | write _ _ id revision lease _ _ hleaseId hrevision hlease hid =>
      obtain ⟨renewedMs, hevents, hyoung, -⟩ := h.lease_of_gate hclock hlease
      rw [hid] at hevents
      exact ⟨id, renewedMs, revision, hleaseId, hevents, hyoung, hrevision⟩
  token action token hmode htoken := h.claim_of_token hmode htoken
  cleared before after hhistory hclaimed :=
    have htoken := h.no_token hhistory hclaimed
    ⟨fun _ _ _ hendpoint hmethod hpermission =>
        gate_of_no_token htoken hendpoint hmethod hpermission,
      gateLightRead_of_no_token htoken⟩

/-! ## One lease after another -/

/-- After a lease was accepted it is still the lease, or it has ended, or the clock has
reached its end, where no lease lives. -/
def LeaseFollowed (id : LeaseId) (earlier : List LanEvent) (later : Session) : Prop :=
  LeaseEnded id earlier later.history ∨
    (∃ events renewedMs, later.history = earlier ++ events ∧
      leaseOf later.history = some (id, renewedMs)) ∨
    u64Max ≤ later.clockMs

theorem LeaseEnded.of_event {id : LeaseId} {earlier events : List LanEvent} {event : LanEvent}
    (hevent : event = .leaseReleased id ∨ event = .cleared ∨
      ∃ other nowMs renewedMs, event = .leaseCreated other nowMs ∧
        leaseOf (earlier ++ events) = some (id, renewedMs) ∧
        renewedMs + lanLeaseTtlMs ≤ nowMs) :
    LeaseEnded id earlier (earlier ++ events ++ [event]) :=
  ⟨events, event, [], rfl, hevent⟩

theorem length_answerEvents_le (nowMs : ℕ) (request : HttpRequest) (body : HttpBody) :
    (answerEvents pairingClaimCode nowMs request body).length ≤ 1 := by
  have hoption : ∀ {α : Type} (value : Option α) (f : α → LanEvent),
      (value.toList.map f).length ≤ 1 := by
    intro α value f
    cases value <;> simp
  unfold answerEvents
  split
  · exact Nat.le_refl 1
  · split_ifs <;> exact Nat.le_refl 1
  · exact hoption _ _
  · split_ifs
    · exact hoption _ _
    · exact Nat.zero_le 1

variable (pairingClaimCode) in
theorem eventsOf_case (state : NetHttpState) (action : LanAction) :
    eventsOf pairingClaimCode state action = [] ∨
      ∃ event, eventsOf pairingClaimCode state action = [event] := by
  have hlength : (eventsOf pairingClaimCode state action).length ≤ 1 := by
    cases action with
    | gate nowMs request =>
      simp only [eventsOf]
      cases (state.gate pairingClaimCode nowMs request).2 with
      | respond response => exact length_answerEvents_le nowMs request response.body
      | dispatch command origin => exact Nat.zero_le 1
    | pairingCodeFromRandom random =>
      simp only [eventsOf]
      split <;> exact Nat.le_refl 1
    | setPairingMode mode =>
      simp only [eventsOf]
      split_ifs
      · exact Nat.le_refl 1
      · exact Nat.zero_le 1
    | leavePairing | clearTokenFromUsb => exact Nat.le_refl 1
    | gateLightRead | takePersistedTokenChange | commandLeaseIsActive => exact Nat.zero_le 1
  cases hevents : eventsOf pairingClaimCode state action with
  | nil => exact Or.inl rfl
  | cons event rest =>
    rw [hevents, List.length_cons] at hlength
    obtain rfl : rest = [] := List.length_eq_zero_iff.mp (by omega)
    exact Or.inr ⟨event, rfl⟩

theorem no_lease_of_leaseCreated {action : LanAction} {other : LeaseId} {createdMs : ℕ}
    (h : eventsOf pairingClaimCode state action = [.leaseCreated other createdMs]) :
    action.timeMs = some createdMs ∧ (state.leases.expire createdMs).lease = none := by
  have hunrelated : ∀ {body : HttpBody} {nowMs : ℕ} {request : HttpRequest},
      body.isPlain = true →
        answerEvents pairingClaimCode nowMs request body ≠ [.leaseCreated other createdMs] := by
    intro body nowMs request hbody hevents
    rw [answerEvents_of_plain hbody] at hevents
    split_ifs at hevents
    cases hcode : pairingClaimCode request.body with
    | none | some submitted =>
      rw [hcode] at hevents
      cases hevents
  cases action with
  | gate nowMs request =>
    have hcase := gate_case pairingClaimCode state nowMs request
    simp only [eventsOf] at h
    generalize state.gate pairingClaimCode nowMs request = result at h hcase
    obtain ⟨after, answer⟩ := result
    cases hcase with
    | plain response hplain | refused response hplain => exact absurd h (hunrelated hplain)
    | claim =>
      have hclaim : ClaimCase pairingClaimCode state request _ _ :=
        claimPairing_case state request
      change answerEvents pairingClaimCode nowMs request
        (state.claimPairing pairingClaimCode request).2.body = _ at h
      generalize state.claimPairing pairingClaimCode request = result at h hclaim
      obtain ⟨after, response⟩ := result
      cases hclaim with
      | unread _ hplain => exact absurd h (hunrelated hplain)
      | wrong submitted error =>
        exact absurd h (hunrelated (isPlain_accessErrorResponse error))
      | granted =>
        obtain ⟨token, hbody, -⟩ := grantToken_body state request.entropy
        rw [hbody] at h
        cases h
    | lease =>
      change answerEvents pairingClaimCode nowMs request
        (state.leaseRoute nowMs request).2.body = _ at h
      have hmethod : request.method = .post := by
        unfold answerEvents at h
        split at h
        · cases h
        · split_ifs at h with hpost
          · exact hpost
          · cases h
        · cases hid : request.leaseId.bind parseLeaseId <;>
          · rw [hid] at h
            cases h
        · split_ifs at h
          cases hcode : pairingClaimCode request.body <;>
          · rw [hcode] at h
            cases h
      unfold leaseRoute at h
      simp only [hmethod] at h
      rcases state.leases.create_case nowMs (leaseEntropy request.entropy) with
        ⟨error, hcreate⟩ | ⟨hnone, hcreate⟩
      · rw [hcreate] at h
        exact absurd h (hunrelated (isPlain_accessErrorResponse error))
      · rw [hcreate] at h
        simp only [leaseResponse, HttpResponse.new, answerEvents, hmethod, if_true] at h
        obtain ⟨-, rfl⟩ := LanEvent.leaseCreated.inj (List.cons_eq_cons.mp h).1
        exact ⟨rfl, hnone⟩
    | read | write => cases h
  | pairingCodeFromRandom random =>
    simp only [eventsOf] at h
    split at h <;> cases h
  | setPairingMode mode =>
    simp only [eventsOf] at h
    split_ifs at h
    cases h
  | leavePairing | clearTokenFromUsb | gateLightRead | takePersistedTokenChange
  | commandLeaseIsActive => cases h

theorem LeaseFollowed.next {id : LeaseId} {earlier : List LanEvent} {action : LanAction}
    (htracks : Tracks session) (h : LeaseFollowed id earlier session)
    (hnext : session.next pairingClaimCode action = some later) :
    LeaseFollowed id earlier later := by
  unfold Session.next at hnext
  split_ifs at hnext with hclock
  obtain rfl := Option.some.inj hnext
  have hforward : session.clockMs ≤ action.timeMs.getD session.clockMs := by
    cases htime : action.timeMs with
    | none => exact Nat.le_refl _
    | some nowMs =>
      rw [htime] at hclock
      exact of_decide_eq_true hclock
  rcases h with hended | ⟨events, renewedMs, hhistory, hlease⟩ | hlate
  · exact Or.inl (hended.append _)
  · rcases eventsOf_case pairingClaimCode session.state action with
      hnone | ⟨event, hevent⟩
    · refine Or.inr (Or.inl ⟨events, renewedMs, ?_, ?_⟩)
      · show session.history ++ eventsOf pairingClaimCode session.state action = _
        rw [hnone, List.append_nil, hhistory]
      · show leaseOf (session.history ++ eventsOf pairingClaimCode session.state action) = _
        rw [hnone, List.append_nil, hlease]
    · have hafter : (session.apply pairingClaimCode action).history =
          earlier ++ events ++ [event] := by
        show session.history ++ eventsOf pairingClaimCode session.state action = _
        rw [hevent, hhistory]
      have hkept : ∀ renewedMs', leaseStep (some (id, renewedMs)) event = some (id, renewedMs') →
          LeaseFollowed id earlier (session.apply pairingClaimCode action) := by
        intro renewedMs' hstep
        refine Or.inr (Or.inl ⟨events ++ [event], renewedMs', ?_, ?_⟩)
        · rw [hafter, List.append_assoc]
        · rw [hafter, ← hhistory, leaseOf_append, hlease]
          exact hstep
      cases event with
      | leaseReleased released =>
        by_cases hsame : id = released
        · subst hsame
          refine Or.inl ?_
          rw [hafter]
          exact .of_event (Or.inl rfl)
        · exact hkept renewedMs (by simp [leaseStep, hsame])
      | cleared =>
        refine Or.inl ?_
        rw [hafter]
        exact .of_event (Or.inr (Or.inl rfl))
      | leaseCreated other createdMs =>
        -- the old lease has run out
        obtain ⟨htime, hgone⟩ := no_lease_of_leaseCreated hevent
        rw [htime, Option.getD_some] at hforward
        have hexpired : saturatingAdd renewedMs lanLeaseTtlMs ≤ createdMs := by
          rcases htracks.lease.expire hforward with
            ⟨hfree, -⟩ | ⟨held, heldMs, hheld, hlive | ⟨-, hold⟩⟩
          · rw [hlease] at hfree
            cases hfree
          · rw [hgone] at hlive
            cases hlive
          · obtain ⟨-, rfl⟩ := Prod.mk.inj (Option.some.inj (hlease.symm.trans hheld))
            exact hold
        unfold saturatingAdd at hexpired
        rcases Nat.lt_or_ge createdMs u64Max with hearly | hlate
        · refine Or.inl ?_
          rw [hafter]
          refine .of_event (Or.inr (Or.inr ⟨other, createdMs, renewedMs, rfl, ?_, ?_⟩))
          · rw [← hhistory]
            exact hlease
          · omega
        · refine Or.inr (Or.inr ?_)
          show u64Max ≤ action.timeMs.getD session.clockMs
          rw [htime]
          exact hlate
      | leaseRenewed renewed renewedMs' =>
        by_cases hsame : id = renewed
        · exact hkept renewedMs' (by simp [leaseStep, hsame])
        · exact hkept renewedMs (by simp [leaseStep, hsame])
      | windowOpened | windowClosed | claimed | claimFailed => exact hkept renewedMs rfl
  · exact Or.inr (Or.inr (Nat.le_trans hlate hforward))

theorem Tracks.lease_of_accepts (h : Tracks session) {id : LeaseId}
    (haccepts : session.AcceptsLease pairingClaimCode nowMs id) :
    ∃ renewedMs, leaseOf session.history = some (id, renewedMs) ∧ nowMs < u64Max := by
  obtain ⟨hclock, request, haccepted⟩ := haccepts
  have hcase := gate_case pairingClaimCode session.state nowMs request
  generalize session.state.gate pairingClaimCode nowMs request = result at haccepted hcase
  obtain ⟨after, answer⟩ := result
  cases hcase with
  | plain | claim | lease | refused => cases haccepted
  | read command origin _ _ hleaseId =>
    rw [show acceptedLease _ = command.leaseId from rfl, hleaseId] at haccepted
    cases haccepted
  | write command origin held revision lease _ _ hleaseId _ hlease hid =>
    obtain ⟨renewedMs, hevents, -, hearly⟩ := h.lease_of_gate hclock hlease
    rw [show acceptedLease _ = command.leaseId from rfl, hleaseId] at haccepted
    obtain rfl := Option.some.inj haccepted
    rw [hid] at hevents
    exact ⟨renewedMs, hevents, hearly⟩

theorem leaseEnded_of_accepts (h : Tracks session) {actions : List LanAction}
    (hrun : Reaches (Session.Step pairingClaimCode) session actions later) {id id' : LeaseId}
    {laterMs : ℕ} (hfirst : session.AcceptsLease pairingClaimCode nowMs id)
    (hsecond : later.AcceptsLease pairingClaimCode laterMs id') (hdifferent : id ≠ id') :
    LeaseEnded id session.history later.history := by
  obtain ⟨renewedMs, hlease, -⟩ := h.lease_of_accepts hfirst
  have hstart : LeaseFollowed id session.history session :=
    Or.inr (Or.inl ⟨[], renewedMs, (List.append_nil _).symm, hlease⟩)
  obtain ⟨htracks, hfollowed⟩ : Tracks later ∧ LeaseFollowed id session.history later := by
    have hstep : ∀ state action after,
        Tracks state ∧ LeaseFollowed id session.history state →
          Session.Step pairingClaimCode state action after →
            Tracks after ∧ LeaseFollowed id session.history after := by
      rintro state action after ⟨htracks, hfollowed⟩ hnext
      exact ⟨htracks.next hnext, hfollowed.next htracks hnext⟩
    exact hrun.invariant ⟨h, hstart⟩ hstep
  obtain ⟨laterRenewedMs, hlaterLease, hearly⟩ := htracks.lease_of_accepts hsecond
  rcases hfollowed with hended | ⟨events, heldMs, -, hheld⟩ | hlate
  · exact hended
  · exact absurd (Prod.mk.inj (Option.some.inj (hheld.symm.trans hlaterLease))).1 hdifferent
  · exact absurd (Nat.lt_of_le_of_lt (Nat.le_trans hlate hsecond.1) hearly) (Nat.lt_irrefl _)

/-- The guarantees in every state of a run, and between any two of its states. -/
theorem lan_gate_is_guarded {start : Session} {actions : List LanAction} (hstart : start.Starts)
    (hrun : Reaches (Session.Step pairingClaimCode) start actions session) :
    session.Guarded pairingClaimCode ∧
      ∀ nowMs id laterActions later laterMs id',
        session.AcceptsLease pairingClaimCode nowMs id →
          Reaches (Session.Step pairingClaimCode) session laterActions later →
            later.AcceptsLease pairingClaimCode laterMs id' → id ≠ id' →
              LeaseEnded id session.history later.history := by
  have htracks := Tracks.of_reaches (Tracks.of_starts hstart) hrun
  exact ⟨htracks.guarded, fun _ _ _ _ _ _ hfirst hlater hsecond hdifferent =>
    leaseEnded_of_accepts htracks hlater hfirst hsecond hdifferent⟩

/-! ## Two runs -/

/-- A claim with the code 1234, as a client sends it. -/
def claimBody : String := "\x7b\"code\":\"1234\"\x7d"

/-- The code of `claimBody`. -/
def claimBodyCode (body : String) : Option String := if body = claimBody then some "1234" else none

/-- A byte in hexadecimal, over and over. -/
def repeatedHex (pair : String) (count : ℕ) : String :=
  String.ofList (List.replicate count pair.toList).flatten

def bearerOf (pair : String) : String := "Bearer " ++ repeatedHex pair lanTokenBytes

/-- The token is 32 times the byte 7. -/
def pairedSession : Session := { state := .new (some (List.replicate lanTokenBytes 7)) }

theorem pairedSession_starts : pairedSession.Starts := ⟨rfl, _, rfl⟩

def leaseRequest (pair : String) (entropy : UInt8) : HttpRequest :=
  { method := .post
    path := "/api/v1/leases"
    authorization := some (bearerOf pair)
    entropy := List.replicate lanTokenBytes entropy }

def runtimeRequest (pair leasePair : String) : HttpRequest :=
  { method := .put
    path := "/api/v1/runtime"
    authorization := some (bearerOf pair)
    leaseId := some (repeatedHex leasePair lanLeaseIdBytes)
    expectedRevision := some 1
    entropy := [] }

def claimRequest (entropy : UInt8) : HttpRequest :=
  { method := .post
    path := "/api/v1/pairing/claim"
    body := claimBody
    entropy := List.replicate lanTokenBytes entropy }

def takesLease : List LanAction := [.gate 0 (leaseRequest "07" 1)]

theorem pairedSession_takesLease : ∃ session,
    Reaches (Session.Step claimBodyCode) pairedSession takesLease session ∧
      session.AcceptsLease claimBodyCode 1 (List.replicate lanLeaseIdBytes 1) := by
  have hrun : (takesLease.foldlM (Session.next claimBodyCode) pairedSession).any
      (fun session => session.clockMs ≤ 1 ∧
        acceptedLease (session.state.gate claimBodyCode 1 (runtimeRequest "07" "01")).2 =
          some (List.replicate lanLeaseIdBytes 1)) = true := by
    decide +kernel
  obtain ⟨session, hreaches, haccepts⟩ := (Option.any_eq_true _ _).mp hrun
  obtain ⟨hclock, haccepted⟩ := of_decide_eq_true haccepts
  exact ⟨session, .of_foldlM hreaches, hclock, runtimeRequest "07" "01", haccepted⟩

theorem pairedSession_guarded : ∃ session : Session,
    session.AcceptsLease claimBodyCode 1 (List.replicate lanLeaseIdBytes 1) ∧
      session.Guarded claimBodyCode := by
  obtain ⟨session, hrun, haccepts⟩ := pairedSession_takesLease
  exact ⟨session, haccepts, (lan_gate_is_guarded pairedSession_starts hrun).1⟩

/-- The token is cleared and claimed anew, and another lease is created. -/
def takesOtherLease : List LanAction :=
  [.clearTokenFromUsb, .pairingCodeFromRandom 1234, .gate 2 (claimRequest 9),
    .gate 3 (leaseRequest "09" 2)]

/-- In optional mode a claim needs no code. -/
def claimsWithoutCode : List LanAction :=
  [.setPairingMode .optional, .clearTokenFromUsb, .gate 0 (claimRequest 9)]

/-- A lease follows another one that was neither released nor has run out, because the
token was cleared in between; and after a cleared token an optional mode accepts a token
that no window was open for. -/
theorem not_all_runs_strictly_guarded :
    (¬ ∀ actions session laterActions later id id' laterMs,
        Reaches (Session.Step claimBodyCode) pairedSession actions session →
          session.AcceptsLease claimBodyCode 1 id →
            Reaches (Session.Step claimBodyCode) session laterActions later →
              later.AcceptsLease claimBodyCode laterMs id' → id ≠ id' →
                .leaseReleased id ∈ later.history ∨ lanLeaseTtlMs ≤ laterMs) ∧
      ¬ ∀ actions session,
        Reaches (Session.Step claimBodyCode) pairedSession actions session →
          .cleared ∈ session.history → (∀ code, .windowOpened code ∉ session.history) →
            session.state.token = none := by
  constructor
  · intro hexclusive
    have hruns : (takesLease.foldlM (Session.next claimBodyCode) pairedSession).any
        (fun session => session.clockMs ≤ 1 ∧
          acceptedLease (session.state.gate claimBodyCode 1 (runtimeRequest "07" "01")).2 =
            some (List.replicate lanLeaseIdBytes 1) ∧
          (takesOtherLease.foldlM (Session.next claimBodyCode) session).any
            (fun later => later.clockMs ≤ 4 ∧
              acceptedLease (later.state.gate claimBodyCode 4 (runtimeRequest "09" "02")).2 =
                some (List.replicate lanLeaseIdBytes 2) ∧
              .leaseReleased (List.replicate lanLeaseIdBytes 1) ∉ later.history)) = true := by
      decide +kernel
    obtain ⟨session, hrun, hsession⟩ := (Option.any_eq_true _ _).mp hruns
    obtain ⟨hclock, haccepted, hlaterRun⟩ := of_decide_eq_true hsession
    obtain ⟨later, hlaterReaches, hlater⟩ := (Option.any_eq_true _ _).mp hlaterRun
    obtain ⟨hlaterClock, hlaterAccepted, hunreleased⟩ := of_decide_eq_true hlater
    rcases hexclusive _ session _ later _ _ 4 (.of_foldlM hrun)
        ⟨hclock, runtimeRequest "07" "01", haccepted⟩ (.of_foldlM hlaterReaches)
        ⟨hlaterClock, runtimeRequest "09" "02", hlaterAccepted⟩ (by decide) with
      hreleased | hexpired
    · exact hunreleased hreleased
    · exact absurd hexpired (by decide)
  · intro hcleared
    have hruns : (claimsWithoutCode.foldlM (Session.next claimBodyCode) pairedSession).any
        (fun session => session.history = [.windowClosed, .cleared, .claimed] ∧
          session.state.token ≠ none) = true := by
      decide +kernel
    obtain ⟨session, hrun, hsession⟩ := (Option.any_eq_true _ _).mp hruns
    obtain ⟨hhistory, htoken⟩ := of_decide_eq_true hsession
    refine htoken (hcleared _ session (.of_foldlM hrun) ?_ ?_)
    · rw [hhistory]
      decide
    · intro code
      rw [hhistory]
      simp

end FluxPurr.Lan
