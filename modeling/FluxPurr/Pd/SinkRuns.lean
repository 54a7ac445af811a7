import FluxPurr.Pd.SinkAuthorization

/-!
# Runs of the sink policy

`authorized_apply` is the step: every operation that a session allows keeps it
authorized.  What a run guarantees is then read off `Authorized`, and the step to a
new active contract off `activeContract_apply`, which holds of every operation.
-/

namespace FluxPurr.Pd

open FluxPurr.Runs
open scoped List
open SinkOperation
open SinkPolicy

namespace Authorized

variable {session : Session} {operation : SinkOperation}

/-- The history after an operation that is no step of the negotiation. -/
theorem apply_of_silent (hbrings : operation.bringsCapabilities session.policy = false)
    (hrequest : operation.isRequest = false) (hloses : operation.losesSource = false)
    (haccept : operation.answers session.policy .waitingForAccept SinkPolicy.accept = false)
    (hpsRdy : operation.answers session.policy .waitingForPsRdy SinkPolicy.psRdy = false) :
    (session.apply operation).history = session.history := by
  have hfault : capabilitiesOutliveFaultAfter session operation =
      session.history.capabilitiesOutliveFault := by
    cases operation with
    | detach | protocolReset | interlock | fault => cases hloses
    | _ => simp only [capabilitiesOutliveFaultAfter, hbrings, Bool.false_eq_true, if_false]
  simp [Session.apply, lastRequestAfter, milestonesOf, hbrings, hrequest, hloses, haccept, hpsRdy,
    hfault]

theorem apply_silent (h : Authorized session)
    (hbrings : operation.bringsCapabilities session.policy = false)
    (hrequest : operation.isRequest = false) (hloses : operation.losesSource = false)
    (haccept : operation.answers session.policy .waitingForAccept SinkPolicy.accept = false)
    (hpsRdy : operation.answers session.policy .waitingForPsRdy SinkPolicy.psRdy = false)
    (hsame : SameNegotiation (operation.perform session.policy).policy session.policy ∨
      SameNegotiation (operation.perform session.policy).policy
        session.policy.cancelPendingRequest) : Authorized (session.apply operation) := by
  have hhistory := apply_of_silent hbrings hrequest hloses haccept hpsRdy
  rcases hsame with hsame | hsame
  · exact h.quiet hsame (by rw [hhistory]) (by rw [hhistory]) (by rw [hhistory])
  · exact h.cancel hsame (by rw [hhistory]) (by rw [hhistory])

theorem apply_controlMessage (h : Authorized session) (messageType : UInt8)
    (messageId : Option UInt8) :
    Authorized (session.apply (.controlMessage messageType messageId)) := by
  cases onControlMessage_cases session.policy messageType messageId with
  | accepted hphase hanswers hsame =>
    have hpsRdy : (controlMessage messageType messageId).answers session.policy
        .waitingForPsRdy psRdy = false := by
      refine answers_eq_false ?_
      rintro ⟨hother, -, -⟩
      rw [hphase] at hother
      cases hother
    refine h.accept hphase hsame rfl ?_ rfl
    simp [Session.apply, milestonesOf, losesSource, isRequest,
      bringsCapabilities, hanswers, hpsRdy]
  | confirmed hphase hanswers hsame =>
    have haccept : (controlMessage messageType messageId).answers session.policy
        .waitingForAccept SinkPolicy.accept = false := by
      refine answers_eq_false ?_
      rintro ⟨hother, -, -⟩
      rw [hphase] at hother
      cases hother
    refine h.confirm hphase hsame ?_ rfl
    simp [Session.apply, milestonesOf, losesSource, isRequest,
      bringsCapabilities, hanswers, haccept]
  | other haccept hpsRdy hsame => exact h.apply_silent rfl rfl rfl haccept hpsRdy hsame

/-- A policy that is attached waits for capabilities instead of for an attachment. -/
theorem apply_attach (h : Authorized session) : Authorized (session.apply .attach) := by
  have hhistory : (session.apply .attach).history = session.history :=
    apply_of_silent rfl rfl rfl rfl rfl
  by_cases hdetached : session.policy.phase = .detached
  · have hpolicy : (session.apply .attach).policy =
        { session.policy with phase := .waitingForSourceCapabilities } := if_pos hdetached
    exact
      { capabilities := hpolicy ▸ h.capabilities
        received := by
          rw [hpolicy, hhistory]
          exact h.received
        waiting := by
          rw [hpolicy]
          rintro (hwaiting | hwaiting) <;> cases hwaiting
        progress := by
          rw [hpolicy]
          exact List.nil_sublist _
        ready := fun hready => by
          rw [hpolicy] at hready
          cases hready
        confirmed := by
          rw [hpolicy, hhistory]
          exact h.confirmed }
  · have hpolicy : (session.apply .attach).policy = session.policy := if_neg hdetached
    exact h.quiet (hpolicy ▸ .refl _) (by rw [hhistory]) (by rw [hhistory]) (by rw [hhistory])

theorem apply_forgetSource (operation : SinkOperation) (phase : SinkPhase)
    (hpolicy : (session.apply operation).policy = session.policy.forgetSource phase)
    (hphase : requiredMilestones phase = []) (hidle : phase ≠ .ready) :
    Authorized (session.apply operation) := by
  refine lost ?_ ?_ ?_ ?_ ?_
  · rw [hpolicy]
    exact SourceCapabilities.wellFormed_empty
  · rw [hpolicy]
    exact fun hreceived => by cases hreceived
  · rw [hpolicy]
    exact hphase
  · rw [hpolicy]
    exact hidle
  · rw [hpolicy]
    rfl

theorem authorized_apply (h : Authorized session)
    (hallows : session.Allows operation) : Authorized (session.apply operation) := by
  obtain ⟨haligned, hfault⟩ := hallows
  cases operation with
  | sourceCapabilities pdos messageId => exact h.apply_sourceCapabilities pdos messageId
  | refreshSourceCapabilities pdos messageId =>
    exact h.apply_refreshSourceCapabilities pdos messageId
  | requestContract request =>
    exact h.apply_request rfl (hfault rfl)
      (requestOutcome_requestContract h.capabilities request)
  | requestPpsVoltage requestedMv =>
    exact h.apply_request rfl (hfault rfl)
      (requestOutcome_requestPpsVoltage h.capabilities requestedMv)
  | requestAutomaticIdleFixedContract =>
    exact h.apply_request rfl (hfault rfl)
      (requestOutcome_requestAutomaticIdleFixedContract h.capabilities h.floor)
  | requestAutomaticIdlePpsStep requestedMv =>
    exact h.apply_request rfl (hfault rfl)
      (requestOutcome_requestAutomaticIdlePpsStep h.capabilities h.floor
        (haligned requestedMv rfl))
  | requestFixedVoltage requestedMv =>
    exact h.apply_request rfl (hfault rfl)
      (requestOutcome_requestFixedVoltage h.capabilities requestedMv)
  | refreshActivePps => exact h.apply_silent rfl rfl rfl rfl rfl (Or.inl (.refl _))
  | preparePpsRequest requestedMv =>
    refine h.apply_silent rfl rfl rfl rfl rfl (Or.inl ?_)
    simp only [perform, SinkPolicy.preparePpsRequest]
    split_ifs
    · exact .refl _
    · exact ⟨rfl, rfl, rfl, rfl, rfl⟩
  | prepareContractRefresh request | prepareAutomaticIdleRefresh | setStandbyMinimumMv minimumMv =>
    exact h.apply_silent rfl rfl rfl rfl rfl (Or.inl ⟨rfl, rfl, rfl, rfl, rfl⟩)
  | unhandledDataMessage messageId discoveryQueryActive =>
    refine h.apply_silent rfl rfl rfl rfl rfl (Or.inl ?_)
    simp only [perform, onUnhandledDataMessageWithMessageId]
    split_ifs
    · exact sameNegotiation_getD_observe session.policy messageId
    · exact .refl _
  | observeSourceMessageId messageId =>
    exact h.apply_silent rfl rfl rfl rfl rfl
      (Or.inl (sameNegotiation_getD_observe session.policy messageId))
  | controlMessage messageType messageId => exact h.apply_controlMessage messageType messageId
  | cancelPendingRequest => exact h.apply_silent rfl rfl rfl rfl rfl (Or.inr (.refl _))
  | attach => exact h.apply_attach
  | detach => exact apply_forgetSource .detach .detached rfl rfl (by rintro ⟨⟩)
  | protocolReset =>
    exact apply_forgetSource .protocolReset .waitingForSourceCapabilities rfl rfl (by rintro ⟨⟩)
  | interlock =>
    exact apply_forgetSource .interlock .waitingForSourceCapabilities rfl rfl (by rintro ⟨⟩)
  | fault => exact lost h.capabilities id rfl (by rintro ⟨⟩) rfl

end Authorized

/-! ## A new active contract -/

/-- The active contract and the capabilities stay. -/
structure KeepsContract (policy after : SinkPolicy) : Prop where
  active : after.activeContract = policy.activeContract
  capabilities : after.sourceCapabilities = policy.sourceCapabilities

theorem SameNegotiation.keepsContract {policy after : SinkPolicy}
    (h : SameNegotiation after policy) : KeepsContract policy after :=
  ⟨h.2.2.1, h.2.2.2.1⟩

namespace KeepsContract

theorem refl (policy : SinkPolicy) : KeepsContract policy policy := ⟨rfl, rfl⟩

theorem sendRequest {policy failed prepared : SinkPolicy} (hfailed : KeepsContract policy failed)
    (hprepared : KeepsContract policy prepared) (contract : Contract) :
    KeepsContract policy (SinkPolicy.sendRequest failed prepared contract).policy := by
  unfold SinkPolicy.sendRequest
  cases requestDataObject contract with
  | none => exact hfailed
  | some rdo => exact ⟨hprepared.active, hprepared.capabilities⟩

theorem beginRequest (policy : SinkPolicy) (capabilities : SourceCapabilities) :
    KeepsContract policy (policy.beginRequest capabilities).policy := by
  unfold SinkPolicy.beginRequest
  cases policy.beginTarget capabilities with
  | none => exact refl policy
  | some contract => exact sendRequest ⟨rfl, rfl⟩ ⟨rfl, rfl⟩ contract

end KeepsContract

theorem contract_keepOrRequest (policy : SinkPolicy) :
    policy.keepOrRequest.policy.sourceCapabilities = policy.sourceCapabilities ∧
      (policy.keepOrRequest.policy.activeContract = policy.activeContract ∨
        policy.keepOrRequest.policy.activeContract = .none) := by
  unfold keepOrRequest
  split_ifs
  · exact ⟨rfl, Or.inl rfl⟩
  · have hkept := KeepsContract.beginRequest
      { policy with
        activeContract := .none
        pendingContract := .none
        phase := .waitingForSourceCapabilities } policy.sourceCapabilities
    exact ⟨hkept.capabilities, Or.inr hkept.active⟩
  · have hkept := KeepsContract.beginRequest policy policy.sourceCapabilities
    exact ⟨hkept.capabilities, Or.inl hkept.active⟩

/-- What an operation makes of the active contract and of the capabilities. -/
inductive ContractOutcome (policy : SinkPolicy) (operation : SinkOperation)
    (after : SinkPolicy) : Prop
  | kept (h : KeepsContract policy after)
  | read (pdos : List UInt32) (hread : after.sourceCapabilities = .fromPdos pdos)
      (hactive : after.activeContract = policy.activeContract ∨ after.activeContract = .none)
  | confirmed (hanswers : operation.answers policy .waitingForPsRdy psRdy = true)
      (hactive : after.activeContract = policy.pendingContract)
      (hcapabilities : after.sourceCapabilities = policy.sourceCapabilities)
  | dropped (hactive : after.activeContract = .none)
      (hcapabilities : after.sourceCapabilities = policy.sourceCapabilities)

theorem contractOutcome_perform (policy : SinkPolicy) (operation : SinkOperation) :
    ContractOutcome policy operation (operation.perform policy).policy := by
  cases operation with
  | sourceCapabilities pdos messageId =>
    simp only [perform, onSourceCapabilitiesWithMessageId]
    cases hobserve : policy.observeSourceMessageId (messageId.map (· &&& 0x07)) with
    | none => exact .kept (.refl policy)
    | some observed =>
      have hactive := (sameNegotiation_of_observe hobserve).keepsContract.active
      have hkept := KeepsContract.beginRequest (observed.storeCapabilities pdos)
        (.fromPdos pdos)
      exact .read pdos hkept.capabilities (Or.inl (hkept.active.trans hactive))
  | refreshSourceCapabilities pdos messageId =>
    simp only [perform, refreshSourceCapabilitiesWithMessageId]
    cases hobserve : policy.observeSourceMessageId (messageId.map (· &&& 0x07)) with
    | none => exact .kept (.refl policy)
    | some observed =>
      have hactive := (sameNegotiation_of_observe hobserve).keepsContract.active
      obtain ⟨hcapabilities, hcontract⟩ :=
        contract_keepOrRequest (observed.storeCapabilities pdos)
      exact .read pdos hcapabilities (hcontract.imp_left fun hkept => hkept.trans hactive)
  | requestContract request =>
    refine .kept ?_
    simp only [perform, SinkPolicy.requestContract]
    split_ifs
    · cases policy.sourceCapabilities.selectExactContract request with
      | none => exact .refl policy
      | some contract => refine .sendRequest ?_ ?_ contract <;> exact ⟨rfl, rfl⟩
    · exact .refl policy
  | requestPpsVoltage requestedMv =>
    refine .kept ?_
    simp only [perform, SinkPolicy.requestPpsVoltage]
    cases policy.selectPpsContract requestedMv with
    | none => exact .refl policy
    | some contract => refine .sendRequest ?_ ?_ contract <;> exact ⟨rfl, rfl⟩
  | requestAutomaticIdleFixedContract =>
    refine .kept ?_
    simp only [perform, SinkPolicy.requestAutomaticIdleFixedContract]
    split_ifs
    · have hkept := KeepsContract.beginRequest policy.prepareAutomaticIdleRefresh
        policy.sourceCapabilities
      exact ⟨hkept.active, hkept.capabilities⟩
    · exact .refl policy
  | requestAutomaticIdlePpsStep requestedMv =>
    refine .kept ?_
    simp only [perform, SinkPolicy.requestAutomaticIdlePpsStep]
    split_ifs
    · cases policy.sourceCapabilities.selectFusb302bStandbyPpsStep policy.activeContract
        requestedMv with
      | none => exact .refl policy
      | some contract => exact ⟨rfl, rfl⟩
    · exact .refl policy
  | requestFixedVoltage requestedMv =>
    refine .kept ?_
    simp only [perform, SinkPolicy.requestFixedVoltage]
    split_ifs
    · cases policy.sourceCapabilities.selectFusb302bFixedContract requestedMv
        policy.preferredMa with
      | none => exact .refl policy
      | some contract => refine .sendRequest ?_ ?_ contract <;> exact ⟨rfl, rfl⟩
    · exact .refl policy
  | preparePpsRequest requestedMv =>
    refine .kept ?_
    simp only [perform, SinkPolicy.preparePpsRequest]
    split_ifs <;> exact ⟨rfl, rfl⟩
  | refreshActivePps | prepareContractRefresh _ | prepareAutomaticIdleRefresh
  | setStandbyMinimumMv _ | cancelPendingRequest => exact .kept ⟨rfl, rfl⟩
  | unhandledDataMessage messageId discoveryQueryActive =>
    refine .kept ?_
    simp only [perform, onUnhandledDataMessageWithMessageId]
    split_ifs
    · exact (sameNegotiation_getD_observe policy messageId).keepsContract
    · exact .refl policy
  | observeSourceMessageId messageId =>
    exact .kept (sameNegotiation_getD_observe policy messageId).keepsContract
  | controlMessage messageType messageId =>
    cases onControlMessage_cases policy messageType messageId with
    | accepted hphase hanswers hsame => exact .kept ⟨hsame.2.2.1, hsame.2.2.2.1⟩
    | confirmed hphase hanswers hsame =>
      exact .confirmed hanswers hsame.2.2.1 hsame.2.2.2.1
    | other haccept hpsRdy hsame =>
      rcases hsame with hsame | hsame <;> exact .kept ⟨hsame.2.2.1, hsame.2.2.2.1⟩
  | attach =>
    refine .kept ?_
    simp only [perform, onAttachmentDetected]
    split_ifs <;> exact ⟨rfl, rfl⟩
  | detach | protocolReset | interlock => exact .read [] rfl (Or.inr rfl)
  | fault => exact .dropped rfl rfl

/-- Every operation keeps the active contract, drops it, or confirms the pending one. -/
theorem activeContract_apply (session : Session) (operation : SinkOperation) :
    (session.apply operation).policy.activeContract = session.policy.activeContract ∨
      (session.apply operation).policy.activeContract = .none ∨
      operation.answers session.policy .waitingForPsRdy psRdy = true ∧
        (session.apply operation).policy.activeContract = session.policy.pendingContract := by
  cases contractOutcome_perform session.policy operation with
  | kept hkept => exact Or.inl hkept.active
  | read pdos hread hactive => exact hactive.imp_right Or.inl
  | confirmed hanswers hactive => exact Or.inr (Or.inr ⟨hanswers, hactive⟩)
  | dropped hactive => exact Or.inr (Or.inl hactive)

/-! ## What a run guarantees -/

namespace Session

/-- A step of a session, whatever the operation. -/
def Step (session : Session) (operation : SinkOperation) (after : Session) : Prop :=
  after = session.apply operation

/-- A step by an operation that the session allows. -/
def AllowedStep (session : Session) (operation : SinkOperation) (after : Session) : Prop :=
  session.Allows operation ∧ after = session.apply operation

/-- What the phase, the pending and the active contract promise in a state. -/
structure Sound (session : Session) : Prop where
  ready : session.policy.phase = .ready → session.policy.activeContract ≠ .none
  waiting : session.policy.phase = .waitingForAccept ∨ session.policy.phase = .waitingForPsRdy →
    session.policy.pendingContract ≠ .none ∧
      (requestDataObject session.policy.pendingContract).isSome
  negotiated : session.policy.activeContract ≠ .none →
    fullNegotiation <+ session.history.milestones
  floor : session.policy.activeContract.kind = .pps →
    fusb302bPpsMinMv ≤ session.policy.activeContract.voltageMv
  clampBounds : ∀ apdo,
    session.policy.activeContract.kind = .pps →
      session.policy.sourceCapabilities.activeApdo session.policy.activeContract = some apdo →
        SourceCapabilities.standbyStepMinMv apdo ≤ SourceCapabilities.standbyStepMaxMv apdo

/-- A new active contract is confirmed by a fresh `PS_RDY`, and it is the one that the
last RDO asked for. -/
def ConfirmsLastRequest (session : Session) (operation : SinkOperation) : Prop :=
  (session.apply operation).policy.activeContract ≠ .none →
    (session.apply operation).policy.activeContract ≠ session.policy.activeContract →
      operation.answers session.policy .waitingForPsRdy psRdy ∧
        ∃ rdo,
          session.history.lastRequest =
            some (rdo, (session.apply operation).policy.activeContract) ∧
          requestDataObject (session.apply operation).policy.activeContract = some rdo

end Session

theorem ne_none_of_requestDataObject {contract : Contract} {rdo : Rdo}
    (h : requestDataObject contract = some rdo) : contract ≠ .none := by
  rintro rfl
  cases h

namespace Authorized

variable {session : Session}

theorem sound (h : Authorized session) : session.Sound :=
  { ready := h.ready
    waiting := fun hwaiting => by
      obtain ⟨rdo, hrdo, -, -⟩ := h.waiting hwaiting
      exact ⟨ne_none_of_requestDataObject hrdo, Option.isSome_iff_exists.mpr ⟨rdo, hrdo⟩⟩
    negotiated := fun hactive => (h.confirmed hactive).2
    floor := h.floor
    clampBounds := fun _ hkind hapdo =>
      SourceCapabilities.standbyStepMinMv_le h.capabilities (h.floor hkind) hapdo }

theorem confirmsLastRequest (h : Authorized session) (operation : SinkOperation) :
    session.ConfirmsLastRequest operation := by
  intro hactive hnew
  rcases activeContract_apply session operation with hkept | hnone | ⟨hanswers, hpending⟩
  · exact absurd hkept hnew
  · exact absurd hnone hactive
  · have hphase : session.policy.phase = .waitingForPsRdy := by
      cases operation with
      | controlMessage messageType messageId => exact (of_decide_eq_true hanswers).1
      | _ => cases hanswers
    obtain ⟨rdo, hrdo, -, hlast⟩ := h.waiting (Or.inr hphase)
    rw [hpending]
    exact ⟨hanswers, rdo, hlast, hrdo⟩

theorem of_reaches {start : Session} {operations : List SinkOperation} (hstart : start.Starts)
    (hrun : Reaches Session.AllowedStep start operations session) : Authorized session := by
  refine hrun.invariant (of_starts hstart) ?_
  rintro state operation after hstate ⟨hallows, rfl⟩
  exact hstate.authorized_apply hallows

end Authorized

/-- In a run of allowed operations a contract authorizes heating only when it was
negotiated. -/
theorem sound_of_allowed_run {start session : Session} {operations : List SinkOperation}
    (hstart : start.Starts) (hrun : Reaches Session.AllowedStep start operations session) :
    session.Sound ∧ ∀ operation, session.ConfirmsLastRequest operation := by
  have hsession := Authorized.of_reaches hstart hrun
  exact ⟨hsession.sound, hsession.confirmsLastRequest⟩

/-! ## Runs that are not allowed -/

/-- A source with 5 V at 3 A and a PPS range of 5 V to 21 V at 3 A. -/
def offeredPdos : List UInt32 := [0x0001912C, 0xC1A4323C]

def newSession : Session := { policy := .new 12000 3000 }

/-- The 12 V PPS contract of `newSession` with this source. -/
def negotiation : List SinkOperation :=
  [.sourceCapabilities offeredPdos none, .controlMessage accept none, .controlMessage psRdy none]

theorem newSession_starts : newSession.Starts := ⟨rfl, 12000, 3000, Or.inl rfl⟩

theorem newSession_negotiation_allowed : Reaches Session.AllowedStep newSession negotiation
      (negotiation.foldl Session.apply newSession) :=
  .step
    (.step (.step .refl ⟨⟨nofun, nofun⟩, rfl⟩) ⟨⟨nofun, nofun⟩, rfl⟩)
    ⟨⟨nofun, nofun⟩, rfl⟩

theorem newSession_negotiation_sound :
    (negotiation.foldl Session.apply newSession).policy.activeContract ≠ .none ∧
      (negotiation.foldl Session.apply newSession).Sound := by
  have hactive :
      (negotiation.foldl Session.apply newSession).policy.activeContract ≠ .none := by
    decide +kernel
  exact ⟨hactive, (sound_of_allowed_run newSession_starts newSession_negotiation_allowed).1⟩

/-- 9.05 V is no multiple of 20 mV: the policy waits for the answer to an RDO that does
not exist.  And the capabilities of before a fault still answer a request after it. -/
theorem not_all_runs_sound :
    (¬ ∀ operations session, Reaches Session.Step newSession operations session →
        session.policy.phase = .waitingForAccept →
          (requestDataObject session.policy.pendingContract).isSome) ∧
      ¬ ∀ operations session, Reaches Session.Step newSession operations session →
        session.policy.activeContract ≠ .none → fullNegotiation <+ session.history.milestones := by
  constructor
  · intro hwaiting
    have hrun := Reaches.of_foldl Session.apply newSession
      (negotiation ++ [.requestAutomaticIdlePpsStep 9050])
    exact absurd (hwaiting _ _ hrun (by decide +kernel)) (by decide +kernel)
  · intro hnegotiated
    have hrun := Reaches.of_foldl Session.apply newSession
      (negotiation ++ [.fault, .requestPpsVoltage 12000,
        .controlMessage accept none, .controlMessage psRdy none])
    exact absurd (hnegotiated _ _ hrun (by decide +kernel)) (by decide +kernel)

end FluxPurr.Pd
