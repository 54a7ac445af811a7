import FluxPurr.Pd.SinkSession

/-!
# When a contract authorizes heating

`Authorized` is the invariant of a session: a contract is active only after the
source has offered capabilities, an RDO was returned for it, and the source has
answered by `Accept` and `PS_RDY`, all since the source was lost the last time.

Two operations can break it, and `Session.Allows` excludes just that: a standby step
to a voltage that has no RDO, which waits for an answer to a request that was never
sent, and a request on capabilities that are older than a fault.

Strategy: every operation either leaves the negotiation alone, is a request
(`RequestOutcome`), is an answer of the source (`onControlMessage_cases`), or loses
the source; one preservation lemma for each kind, then one case for each operation
(`authorized_apply`).
-/

namespace FluxPurr.Pd

open scoped List
open SinkOperation
open SinkPolicy

/-- The milestones that have been passed in a phase. -/
def requiredMilestones : SinkPhase → List Milestone
  | .waitingForAccept => [.capabilities, .request]
  | .waitingForPsRdy => [.capabilities, .request, .accept]
  | _ => []

abbrev fullNegotiation : List Milestone := [.capabilities, .request, .accept, .psRdy]

/-- The operations that keep a session authorized. -/
def Session.Allows (session : Session) (operation : SinkOperation) : Prop :=
  (∀ requestedMv, operation = .requestAutomaticIdlePpsStep requestedMv →
      session.policy.StepAligned requestedMv) ∧
    (operation.isRequest → session.history.capabilitiesOutliveFault = false)

structure Authorized (session : Session) : Prop where
  capabilities : session.policy.sourceCapabilities.WellFormed
  received : session.policy.sourceCapabilitiesReceived = true →
    session.history.capabilitiesOutliveFault = false → [.capabilities] <+ session.history.milestones
  waiting : session.policy.phase = .waitingForAccept ∨ session.policy.phase = .waitingForPsRdy →
    ∃ rdo, requestDataObject session.policy.pendingContract = some rdo ∧
      Selected session.policy.pendingContract ∧
      session.history.lastRequest = some (rdo, session.policy.pendingContract)
  progress : requiredMilestones session.policy.phase <+ session.history.milestones
  ready : session.policy.phase = .ready → session.policy.activeContract ≠ .none
  confirmed : session.policy.activeContract ≠ .none →
    Selected session.policy.activeContract ∧ fullNegotiation <+ session.history.milestones

namespace Authorized

variable {session after : Session}

theorem floor (h : Authorized session) (hkind : session.policy.activeContract.kind = .pps) :
    fusb302bPpsMinMv ≤ session.policy.activeContract.voltageMv := by
  have hactive : session.policy.activeContract ≠ .none := by
    intro hnone
    rw [hnone] at hkind
    cases hkind
  exact (h.confirmed hactive).1.floor hkind

theorem of_starts (h : session.Starts) : Authorized session := by
  obtain ⟨hhistory, requestedMv, preferredMa, hpolicy⟩ := h
  obtain ⟨policy, history⟩ := session
  subst hhistory
  rcases hpolicy with rfl | rfl
  all_goals
    exact
      { capabilities := SourceCapabilities.wellFormed_empty
        received := fun hreceived => by cases hreceived
        waiting := by
          rintro (hphase | hphase)
          · cases hphase
          · cases hphase
        progress := List.nil_sublist _
        ready := fun hphase => by cases hphase
        confirmed := fun hactive => absurd rfl hactive }

/-- Operations that leave the negotiation and its history alone. -/
theorem quiet (h : Authorized session) (hsame : SameNegotiation after.policy session.policy)
    (hlast : after.history.lastRequest = session.history.lastRequest)
    (hmilestones : after.history.milestones = session.history.milestones)
    (hfault : after.history.capabilitiesOutliveFault = session.history.capabilitiesOutliveFault) :
    Authorized after := by
  obtain ⟨hphase, hpending, hactive, hcapabilities, hreceived⟩ := hsame
  exact
    { capabilities := hcapabilities ▸ h.capabilities
      received := by
        rw [hreceived, hfault, hmilestones]
        exact h.received
      waiting := by
        rw [hphase, hpending, hlast]
        exact h.waiting
      progress := by
        rw [hphase, hmilestones]
        exact h.progress
      ready := by
        rw [hphase, hactive]
        exact h.ready
      confirmed := by
        rw [hactive, hmilestones]
        exact h.confirmed }

theorem store (h : Authorized session) (pdos : List UInt32) :
    Authorized
      { policy := session.policy.storeCapabilities pdos
        history :=
          { session.history with
            milestones := session.history.milestones ++ [.capabilities]
            capabilitiesOutliveFault := false } } := by
  have hmore : session.history.milestones <+ session.history.milestones ++ [.capabilities] :=
    List.sublist_append_left _ _
  exact
    { h with
      capabilities := SourceCapabilities.wellFormed_fromPdos pdos
      received := fun _ _ => List.sublist_append_right _ _
      progress := h.progress.trans hmore
      confirmed := fun hactive =>
        ⟨(h.confirmed hactive).1, (h.confirmed hactive).2.trans hmore⟩ }

/-- A request on capabilities that the source has sent since it was lost. -/
theorem request (h : Authorized session)
    (hfault : session.history.capabilitiesOutliveFault = false) {response : Response}
    (houtcome : RequestOutcome session.policy response) (hpolicy : after.policy = response.policy)
    (hlast : after.history.lastRequest =
      (response.rdo.map fun rdo => (rdo, response.policy.pendingContract)).or
        session.history.lastRequest)
    (hmilestones : after.history.milestones =
      session.history.milestones ++ if response.rdo.isSome then [.request] else [])
    (hkept : after.history.capabilitiesOutliveFault = false) : Authorized after := by
  cases houtcome with
  | none hrdo hsame =>
    rw [hrdo] at hlast hmilestones
    rw [← hpolicy] at hsame
    refine h.quiet hsame hlast ?_ (hkept.trans hfault.symm)
    rw [hmilestones]
    exact List.append_nil _
  | request rdo hrdo hreceived hpending hselected hsame =>
    rw [hrdo] at hlast hmilestones
    rw [← hpolicy] at hsame hpending hselected hlast
    obtain ⟨hphase, -, hactive, hcapabilities, hsameReceived⟩ := hsame
    have hmore : session.history.milestones <+ after.history.milestones := by
      rw [hmilestones]
      exact List.sublist_append_left _ _
    exact
      { capabilities := hcapabilities ▸ h.capabilities
        received := fun _ _ => (h.received hreceived hfault).trans hmore
        waiting := fun _ => ⟨rdo, hpending, hselected, hlast⟩
        progress := by
          rw [hphase, hmilestones]
          exact (h.received hreceived hfault).append (List.Sublist.refl [Milestone.request])
        ready := fun hready => by
          rw [hphase] at hready
          cases hready
        confirmed := fun hconfirmed => by
          rw [hactive] at hconfirmed ⊢
          exact ⟨(h.confirmed hconfirmed).1, (h.confirmed hconfirmed).2.trans hmore⟩ }

theorem cancel (h : Authorized session)
    (hsame : SameNegotiation after.policy session.policy.cancelPendingRequest)
    (hmilestones : after.history.milestones = session.history.milestones)
    (hfault : after.history.capabilitiesOutliveFault = session.history.capabilitiesOutliveFault) :
    Authorized after := by
  obtain ⟨hphase, -, hactive, hcapabilities, hreceived⟩ := hsame
  have hidle : after.policy.phase = .waitingForSourceCapabilities ∨
      after.policy.phase = .ready ∧ after.policy.activeContract ≠ .none := by
    rw [hphase, hactive]
    unfold SinkPolicy.cancelPendingRequest
    by_cases hnone : session.policy.activeContract = .none
    · exact Or.inl (if_pos hnone)
    · exact Or.inr ⟨if_neg hnone, hnone⟩
  exact
    { capabilities := hcapabilities ▸ h.capabilities
      received := by
        rw [hreceived, hfault, hmilestones]
        exact h.received
      waiting := by
        rcases hidle with hidle | ⟨hidle, -⟩ <;>
        · rw [hidle]
          rintro (hphase | hphase) <;> cases hphase
      progress := by
        rcases hidle with hidle | ⟨hidle, -⟩ <;>
        · rw [hidle]
          exact List.nil_sublist _
      ready := by
        rcases hidle with hidle | ⟨-, hconfirmed⟩
        · rw [hidle]
          exact fun hready => by cases hready
        · exact fun _ => hconfirmed
      confirmed := by
        rw [hactive, hmilestones]
        exact h.confirmed }

theorem lost (hcapabilities : after.policy.sourceCapabilities.WellFormed)
    (hreceived : after.policy.sourceCapabilitiesReceived = true →
      after.history.capabilitiesOutliveFault = true)
    (hphase : requiredMilestones after.policy.phase = [])
    (hidle : after.policy.phase ≠ .ready) (hactive : after.policy.activeContract = .none) :
    Authorized after :=
  { capabilities := hcapabilities
    received := fun h hfault => by
      rw [hreceived h] at hfault
      cases hfault
    waiting := by
      rintro (hwaiting | hwaiting)
      · rw [hwaiting] at hphase
        cases hphase
      · rw [hwaiting] at hphase
        cases hphase
    progress := hphase ▸ List.nil_sublist _
    ready := fun hready => absurd hready hidle
    confirmed := fun hconfirmed => absurd hactive hconfirmed }

end Authorized

/-! ## Answers of the source -/

theorem sameNegotiation_of_observe {policy observed : SinkPolicy} {messageId : Option UInt8}
    (h : policy.observeSourceMessageId messageId = some observed) :
    SameNegotiation observed policy := by
  unfold SinkPolicy.observeSourceMessageId at h
  split at h
  · obtain rfl := Option.some.inj h
    exact .refl policy
  · split_ifs at h
    obtain rfl := Option.some.inj h
    exact ⟨rfl, rfl, rfl, rfl, rfl⟩

theorem sameNegotiation_getD_observe (policy : SinkPolicy) (messageId : Option UInt8) :
    SameNegotiation ((policy.observeSourceMessageId messageId).getD policy) policy := by
  cases h : policy.observeSourceMessageId messageId with
  | none => exact .refl policy
  | some observed => exact sameNegotiation_of_observe h

/-- An answer accepts the request, confirms it, or at most gives it up. -/
inductive AnswerOutcome (policy : SinkPolicy) (messageType : UInt8) (messageId : Option UInt8)
    (after : SinkPolicy) : Prop
  | accepted (hphase : policy.phase = .waitingForAccept)
      (hanswer : (controlMessage messageType messageId).answers policy
        .waitingForAccept accept = true)
      (hsame : SameNegotiation after { policy with phase := .waitingForPsRdy })
  | confirmed (hphase : policy.phase = .waitingForPsRdy)
      (hanswer : (controlMessage messageType messageId).answers policy
        .waitingForPsRdy psRdy = true)
      (hsame : SameNegotiation after
        { policy with
          activeContract := policy.pendingContract
          pendingContract := .none
          phase := .ready })
  | other
      (haccept : (controlMessage messageType messageId).answers policy
        .waitingForAccept accept = false)
      (hpsRdy : (controlMessage messageType messageId).answers policy
        .waitingForPsRdy psRdy = false)
      (hsame : SameNegotiation after policy ∨ SameNegotiation after policy.cancelPendingRequest)

theorem answers_eq_false {policy : SinkPolicy} {phase : SinkPhase} {answer messageType : UInt8}
    {messageId : Option UInt8}
    (h : ¬ (policy.phase = phase ∧ messageType = answer ∧
      (policy.observeSourceMessageId messageId).isSome = true)) :
    (controlMessage messageType messageId).answers policy phase answer = false :=
  decide_eq_false h

theorem cancelPendingRequest_congr {left right : SinkPolicy} (h : SameNegotiation left right) :
    SameNegotiation left.cancelPendingRequest right.cancelPendingRequest := by
  obtain ⟨-, -, hactive, hcapabilities, hreceived⟩ := h
  refine ⟨?_, rfl, hactive, hcapabilities, hreceived⟩
  simp only [SinkPolicy.cancelPendingRequest, hactive]

theorem onControlMessage_cases (policy : SinkPolicy) (messageType : UInt8)
    (messageId : Option UInt8) :
    AnswerOutcome policy messageType messageId
      (policy.onControlMessageWithMessageId messageType messageId) := by
  unfold onControlMessageWithMessageId
  by_cases hlistens : policy.listens = true
  · rw [if_neg (not_not.mpr hlistens)]
    by_cases hgoodCrc : messageType = goodCrc
    · -- `GoodCRC` echoes an identifier of the sink and is not looked at
      rw [if_pos hgoodCrc, hgoodCrc]
      refine .other (answers_eq_false ?_) (answers_eq_false ?_) (Or.inl (.refl policy))
      · rintro ⟨-, htype, -⟩
        cases htype
      · rintro ⟨-, htype, -⟩
        cases htype
    · rw [if_neg hgoodCrc]
      cases hobserve : policy.observeSourceMessageId messageId with
      | none =>
        refine .other (answers_eq_false ?_) (answers_eq_false ?_) (Or.inl (.refl policy)) <;>
        · rintro ⟨-, -, hfresh⟩
          rw [hobserve] at hfresh
          cases hfresh
      | some observed =>
        have hsame := sameNegotiation_of_observe hobserve
        have hparts := hsame
        obtain ⟨hphase, hpending, hactive, hcapabilities, hreceived⟩ := hparts
        have hfresh : (policy.observeSourceMessageId messageId).isSome = true := by
          rw [hobserve]
          rfl
        simp only
        unfold onAnswer
        rw [hphase]
        split_ifs with haccept hpsRdy hreject
        · exact .accepted haccept.1 (decide_eq_true ⟨haccept.1, haccept.2, hfresh⟩)
            ⟨rfl, hpending, hactive, hcapabilities, hreceived⟩
        · exact .confirmed hpsRdy.1 (decide_eq_true ⟨hpsRdy.1, hpsRdy.2, hfresh⟩)
            ⟨rfl, rfl, hpending, hcapabilities, hreceived⟩
        · exact .other (answers_eq_false fun h => haccept ⟨h.1, h.2.1⟩)
            (answers_eq_false fun h => hpsRdy ⟨h.1, h.2.1⟩)
            (Or.inr (cancelPendingRequest_congr hsame))
        · exact .other (answers_eq_false fun h => haccept ⟨h.1, h.2.1⟩)
            (answers_eq_false fun h => hpsRdy ⟨h.1, h.2.1⟩) (Or.inl hsame)
  · rw [if_pos hlistens]
    refine .other (answers_eq_false ?_) (answers_eq_false ?_) (Or.inl (.refl policy))
    · rintro ⟨hphase, -, -⟩
      simp [listens, hphase] at hlistens
    · rintro ⟨hphase, -, -⟩
      simp [listens, hphase] at hlistens

namespace Authorized

variable {session after : Session}

theorem accept (h : Authorized session) (hphase : session.policy.phase = .waitingForAccept)
    (hsame : SameNegotiation after.policy { session.policy with phase := .waitingForPsRdy })
    (hlast : after.history.lastRequest = session.history.lastRequest)
    (hmilestones : after.history.milestones = session.history.milestones ++ [.accept])
    (hfault : after.history.capabilitiesOutliveFault = session.history.capabilitiesOutliveFault) :
    Authorized after := by
  obtain ⟨hafter, hpending, hactive, hcapabilities, hreceived⟩ := hsame
  have hmore : session.history.milestones <+ after.history.milestones := by
    rw [hmilestones]
    exact List.sublist_append_left _ _
  have hprogress := h.progress
  rw [hphase] at hprogress
  exact
    { capabilities := hcapabilities ▸ h.capabilities
      received := by
        rw [hreceived, hfault]
        exact fun hseen hfresh => (h.received hseen hfresh).trans hmore
      waiting := by
        rw [hpending, hlast]
        exact fun _ => h.waiting (Or.inl hphase)
      progress := by
        rw [hafter, hmilestones]
        exact hprogress.append (List.Sublist.refl [Milestone.accept])
      ready := fun hready => by
        rw [hafter] at hready
        cases hready
      confirmed := by
        rw [hactive]
        exact fun hconfirmed =>
          ⟨(h.confirmed hconfirmed).1, (h.confirmed hconfirmed).2.trans hmore⟩ }

/-- The source confirms the request: the pending contract becomes the active one. -/
theorem confirm (h : Authorized session) (hphase : session.policy.phase = .waitingForPsRdy)
    (hsame : SameNegotiation after.policy
      { session.policy with
        activeContract := session.policy.pendingContract
        pendingContract := .none
        phase := .ready })
    (hmilestones : after.history.milestones = session.history.milestones ++ [.psRdy])
    (hfault : after.history.capabilitiesOutliveFault = session.history.capabilitiesOutliveFault) :
    Authorized after := by
  obtain ⟨hafter, -, hactive, hcapabilities, hreceived⟩ := hsame
  obtain ⟨rdo, -, hselected, -⟩ := h.waiting (Or.inr hphase)
  have hmore : session.history.milestones <+ after.history.milestones := by
    rw [hmilestones]
    exact List.sublist_append_left _ _
  have hprogress := h.progress
  rw [hphase] at hprogress
  have hfull : fullNegotiation <+ after.history.milestones := by
    rw [hmilestones]
    exact hprogress.append (List.Sublist.refl [Milestone.psRdy])
  exact
    { capabilities := hcapabilities ▸ h.capabilities
      received := by
        rw [hreceived, hfault]
        exact fun hseen hfresh => (h.received hseen hfresh).trans hmore
      waiting := by
        rw [hafter]
        rintro (hwaiting | hwaiting) <;> cases hwaiting
      progress := by
        rw [hafter]
        exact List.nil_sublist _
      ready := fun _ hnone => by
        rw [hactive] at hnone
        exact hselected.kind (congrArg Contract.kind hnone)
      confirmed := fun _ => ⟨hactive ▸ hselected, hfull⟩ }

/-- A confirmed contract that the source no longer offers is dropped. -/
theorem drop (h : Authorized session) :
    Authorized
      { policy :=
          { session.policy with
            activeContract := .none
            pendingContract := .none
            phase := .waitingForSourceCapabilities }
        history := session.history } :=
  { h with
    waiting := by
      rintro (hwaiting | hwaiting) <;> cases hwaiting
    progress := List.nil_sublist _
    ready := fun hready => by cases hready
    confirmed := fun hconfirmed => absurd rfl hconfirmed }

/-- A ready session stays ready when a pending contract is cleared. -/
theorem clearPending (h : Authorized session) (hready : session.policy.phase = .ready) :
    Authorized
      { policy := { session.policy with pendingContract := .none }
        history := session.history } :=
  { capabilities := h.capabilities
    received := h.received
    waiting := by
      rintro (hwaiting | hwaiting)
      · rw [show session.policy.phase = _ from hwaiting] at hready
        cases hready
      · rw [show session.policy.phase = _ from hwaiting] at hready
        cases hready
    progress := h.progress
    ready := h.ready
    confirmed := h.confirmed }

/-! ## One case for each operation -/

variable {operation : SinkOperation}

/-- The history after fresh capabilities and what is requested on them. -/
theorem apply_of_bringsCapabilities (hbrings : operation.bringsCapabilities session.policy = true) :
    (session.apply operation).history =
      { lastRequest := ((operation.perform session.policy).rdo.map fun rdo =>
          (rdo, (operation.perform session.policy).policy.pendingContract)).or
          session.history.lastRequest
        milestones := session.history.milestones ++ [.capabilities] ++
          if (operation.perform session.policy).rdo.isSome then [.request] else []
        capabilitiesOutliveFault := false } := by
  cases operation with
  | sourceCapabilities | refreshSourceCapabilities =>
    simp only [Session.apply, lastRequestAfter, milestonesOf, capabilitiesOutliveFaultAfter,
      hbrings, losesSource, answers]
    simp
  | _ => cases hbrings

theorem apply_of_stale {pdos : List UInt32} {messageId : Option UInt8}
    (hoperation : operation = .sourceCapabilities pdos messageId ∨
      operation = .refreshSourceCapabilities pdos messageId)
    (hobserve : session.policy.observeSourceMessageId (messageId.map (· &&& 0x07)) = none) :
    session.apply operation = session := by
  rcases hoperation with rfl | rfl
  all_goals
    simp [Session.apply, lastRequestAfter, milestonesOf, capabilitiesOutliveFaultAfter,
      losesSource, answers, bringsCapabilities,
      isRequest, perform, onSourceCapabilitiesWithMessageId,
      refreshSourceCapabilitiesWithMessageId, hobserve]

/-- A session whose capabilities have just been replaced, followed by the request they
are answered with. -/
theorem apply_of_outcome
    (hbrings : operation.bringsCapabilities session.policy = true) {stored : SinkPolicy}
    (hstored : Authorized
      { policy := stored
        history :=
          { session.history with
            milestones := session.history.milestones ++ [.capabilities]
            capabilitiesOutliveFault := false } })
    (houtcome : RequestOutcome stored (operation.perform session.policy)) :
    Authorized (session.apply operation) := by
  have hhistory := apply_of_bringsCapabilities hbrings
  refine hstored.request rfl houtcome rfl ?_ ?_ ?_
  · rw [hhistory]
  · rw [hhistory]
  · rw [hhistory]

theorem store_observed (h : Authorized session) {observed : SinkPolicy} {messageId : Option UInt8}
    (hobserve : session.policy.observeSourceMessageId messageId = some observed)
    (pdos : List UInt32) :
    Authorized
      { policy := observed.storeCapabilities pdos
        history :=
          { session.history with
            milestones := session.history.milestones ++ [.capabilities]
            capabilitiesOutliveFault := false } } := by
  have hobserved : Authorized { policy := observed, history := session.history } :=
    h.quiet (sameNegotiation_of_observe hobserve) rfl rfl rfl
  exact hobserved.store pdos

theorem apply_sourceCapabilities (h : Authorized session) (pdos : List UInt32)
    (messageId : Option UInt8) :
    Authorized (session.apply (.sourceCapabilities pdos messageId)) := by
  cases hobserve : session.policy.observeSourceMessageId (messageId.map (· &&& 0x07)) with
  | none =>
    rw [apply_of_stale (Or.inl rfl) hobserve]
    exact h
  | some observed =>
    have hstored := h.store_observed hobserve pdos
    have hbrings : (sourceCapabilities pdos messageId).bringsCapabilities
        session.policy = true := by
      rw [bringsCapabilities, hobserve]
      rfl
    refine apply_of_outcome hbrings hstored ?_
    rw [perform, onSourceCapabilitiesWithMessageId, hobserve]
    exact requestOutcome_beginRequest hstored.capabilities hstored.floor rfl (.refl _)

theorem apply_refreshSourceCapabilities (h : Authorized session) (pdos : List UInt32)
    (messageId : Option UInt8) :
    Authorized (session.apply (.refreshSourceCapabilities pdos messageId)) := by
  cases hobserve : session.policy.observeSourceMessageId (messageId.map (· &&& 0x07)) with
  | none =>
    rw [apply_of_stale (Or.inr rfl) hobserve]
    exact h
  | some observed =>
    have hstored := h.store_observed hobserve pdos
    have hbrings : (refreshSourceCapabilities pdos messageId).bringsCapabilities
        session.policy = true := by
      rw [bringsCapabilities, hobserve]
      rfl
    have hperform : (refreshSourceCapabilities pdos messageId).perform
        session.policy = (observed.storeCapabilities pdos).keepOrRequest := by
      rw [perform, refreshSourceCapabilitiesWithMessageId, hobserve]
    unfold keepOrRequest at hperform
    split_ifs at hperform with hready hsupports
    · -- the confirmed contract is still offered and nothing is requested
      refine apply_of_outcome hbrings (hstored.clearPending hready.1) ?_
      rw [hperform]
      exact requestOutcome_idle _
    · refine apply_of_outcome hbrings hstored.drop ?_
      rw [hperform]
      exact requestOutcome_beginRequest hstored.capabilities hstored.drop.floor rfl
        (.refl _)
    · refine apply_of_outcome hbrings hstored ?_
      rw [hperform]
      exact requestOutcome_beginRequest hstored.capabilities hstored.floor rfl
        (.refl _)

theorem apply_of_isRequest (hrequest : operation.isRequest = true) :
    (session.apply operation).history =
      { lastRequest := ((operation.perform session.policy).rdo.map fun rdo =>
          (rdo, (operation.perform session.policy).policy.pendingContract)).or
          session.history.lastRequest
        milestones := session.history.milestones ++
          if (operation.perform session.policy).rdo.isSome then [.request] else []
        capabilitiesOutliveFault := session.history.capabilitiesOutliveFault } := by
  cases operation with
  | requestContract | requestPpsVoltage | requestAutomaticIdleFixedContract
  | requestAutomaticIdlePpsStep | requestFixedVoltage =>
    simp [Session.apply, lastRequestAfter, milestonesOf, capabilitiesOutliveFaultAfter,
      losesSource, answers, bringsCapabilities,
      isRequest]
  | _ => cases hrequest

theorem apply_request (h : Authorized session) (hrequest : operation.isRequest = true)
    (hfault : session.history.capabilitiesOutliveFault = false)
    (houtcome : RequestOutcome session.policy (operation.perform session.policy)) :
    Authorized (session.apply operation) := by
  refine h.request hfault houtcome rfl ?_ ?_ ?_
  · rw [apply_of_isRequest hrequest]
  · rw [apply_of_isRequest hrequest]
  · rw [apply_of_isRequest hrequest]
    exact hfault

end Authorized

end FluxPurr.Pd
