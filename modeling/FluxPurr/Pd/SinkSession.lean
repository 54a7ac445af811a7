import FluxPurr.Pd.Selection
import FluxPurr.Runs.Reaches

/-!
# Sessions of the sink policy

A session is a policy with what has happened to it: the last request that was
returned to the transport, and the steps of the negotiation since the source was
lost.  `SinkOperation` lists everything that can be done to a policy, in any order.

`RequestOutcome` is what an operation that may return an RDO does: it returns none
and leaves the negotiation as it is, or it waits for the answer to the RDO of the
contract that is now pending.
-/

namespace FluxPurr.Pd

open FluxPurr.Runs
open SourceCapabilities

inductive SinkOperation where
  | sourceCapabilities (pdos : List UInt32) (messageId : Option UInt8)
  | refreshSourceCapabilities (pdos : List UInt32) (messageId : Option UInt8)
  | requestContract (request : PdContractRequest)
  | requestPpsVoltage (requestedMv : ℕ)
  | requestAutomaticIdleFixedContract
  | requestAutomaticIdlePpsStep (requestedMv : ℕ)
  | requestFixedVoltage (requestedMv : ℕ)
  | refreshActivePps
  | preparePpsRequest (requestedMv : ℕ)
  | prepareContractRefresh (request : PdContractRequest)
  | prepareAutomaticIdleRefresh
  | setStandbyMinimumMv (minimumMv : ℕ)
  | unhandledDataMessage (messageId : Option UInt8) (discoveryQueryActive : Bool)
  | observeSourceMessageId (messageId : Option UInt8)
  | controlMessage (messageType : UInt8) (messageId : Option UInt8)
  | cancelPendingRequest
  | attach
  | detach
  | protocolReset
  | interlock
  | fault

namespace SinkOperation

/-- The operation on the policy. -/
def perform (policy : SinkPolicy) : SinkOperation → Response
  | sourceCapabilities pdos messageId => policy.onSourceCapabilitiesWithMessageId pdos messageId
  | refreshSourceCapabilities pdos messageId =>
      policy.refreshSourceCapabilitiesWithMessageId pdos messageId
  | requestContract request => policy.requestContract request
  | requestPpsVoltage requestedMv => policy.requestPpsVoltage requestedMv
  | requestAutomaticIdleFixedContract => policy.requestAutomaticIdleFixedContract
  | requestAutomaticIdlePpsStep requestedMv => policy.requestAutomaticIdlePpsStep requestedMv
  | requestFixedVoltage requestedMv => policy.requestFixedVoltage requestedMv
  | refreshActivePps => ⟨policy, policy.refreshActivePps⟩
  | preparePpsRequest requestedMv => ⟨policy.preparePpsRequest requestedMv, none⟩
  | prepareContractRefresh request => ⟨policy.prepareContractRefresh request, none⟩
  | prepareAutomaticIdleRefresh => ⟨policy.prepareAutomaticIdleRefresh, none⟩
  | setStandbyMinimumMv minimumMv => ⟨policy.setStandbyMinimumMv minimumMv, none⟩
  | unhandledDataMessage messageId discoveryQueryActive =>
      ⟨policy.onUnhandledDataMessageWithMessageId messageId discoveryQueryActive, none⟩
  | observeSourceMessageId messageId =>
      ⟨(policy.observeSourceMessageId messageId).getD policy, none⟩
  | controlMessage messageType messageId =>
      ⟨policy.onControlMessageWithMessageId messageType messageId, none⟩
  | cancelPendingRequest => ⟨policy.cancelPendingRequest, none⟩
  | attach => ⟨policy.onAttachmentDetected, none⟩
  | detach => ⟨policy.onDetachOrReset, none⟩
  | protocolReset => ⟨policy.onReceivedProtocolReset, none⟩
  | interlock => ⟨policy.interlockAfterTransientTransportFault, none⟩
  | fault => ⟨policy.markFault, none⟩

/-- A `request_...` call.  A keepalive repeats a confirmed RDO and is not one. -/
def isRequest : SinkOperation → Bool
  | requestContract _ | requestPpsVoltage _ | requestAutomaticIdleFixedContract
  | requestAutomaticIdlePpsStep _ | requestFixedVoltage _ => true
  | _ => false

/-- Capabilities whose message identifier is fresh. -/
def bringsCapabilities (policy : SinkPolicy) : SinkOperation → Bool
  | sourceCapabilities _ messageId | refreshSourceCapabilities _ messageId =>
      (policy.observeSourceMessageId (messageId.map (· &&& 0x07))).isSome
  | _ => false

/-- The source is lost: a detach, a reset, an interlock or a fault. -/
def losesSource : SinkOperation → Bool
  | detach | protocolReset | interlock | fault => true
  | _ => false

/-- A fresh answer of this type in this phase. -/
def answers (policy : SinkPolicy) (phase : SinkPhase) (answer : UInt8) : SinkOperation → Bool
  | controlMessage messageType messageId =>
      policy.phase = phase ∧ messageType = answer ∧ (policy.observeSourceMessageId messageId).isSome
  | _ => false

end SinkOperation

/-! ## History -/

/-- The steps of a negotiation. -/
inductive Milestone where
  | capabilities
  | request
  | accept
  | psRdy
deriving DecidableEq, Repr

structure History where
  /-- The RDO that a capabilities or request operation returned last, with the contract
  it encodes. -/
  lastRequest : Option (Rdo × Contract) := none
  /-- The milestones since the source was lost. -/
  milestones : List Milestone := []
  /-- The capabilities are older than the last fault. -/
  capabilitiesOutliveFault : Bool := false

structure Session where
  policy : SinkPolicy
  history : History := {}

/-- The milestones of one operation. -/
def milestonesOf (policy : SinkPolicy) (operation : SinkOperation) (response : Response) :
    List Milestone :=
  (if operation.bringsCapabilities policy then [.capabilities] else []) ++
    ((if (operation.isRequest ∨ operation.bringsCapabilities policy) ∧ response.rdo.isSome then
        [.request] else []) ++
      ((if operation.answers policy .waitingForAccept SinkPolicy.accept then [.accept] else []) ++
        if operation.answers policy .waitingForPsRdy SinkPolicy.psRdy then [.psRdy] else []))

/-- The last request after an operation. -/
def lastRequestAfter (session : Session) (operation : SinkOperation) (response : Response) :
    Option (Rdo × Contract) :=
  if operation.isRequest ∨ operation.bringsCapabilities session.policy then
    (response.rdo.map fun rdo => (rdo, response.policy.pendingContract)).or
      session.history.lastRequest
  else session.history.lastRequest

def capabilitiesOutliveFaultAfter (session : Session) (operation : SinkOperation) : Bool :=
  match operation with
  | .fault => session.policy.sourceCapabilitiesReceived
  | .detach | .protocolReset | .interlock => false
  | _ =>
      if operation.bringsCapabilities session.policy then false
      else session.history.capabilitiesOutliveFault

namespace Session

def apply (session : Session) (operation : SinkOperation) : Session :=
  let response := operation.perform session.policy
  { policy := response.policy
    history :=
      { lastRequest := lastRequestAfter session operation response
        milestones :=
          if operation.losesSource then []
          else session.history.milestones ++ milestonesOf session.policy operation response
        capabilitiesOutliveFault := capabilitiesOutliveFaultAfter session operation } }

/-- A session begins with a new policy. -/
def Starts (session : Session) : Prop :=
  session.history = {} ∧ ∃ requestedMv preferredMa,
    session.policy = .new requestedMv preferredMa ∨
      session.policy = .newStandby requestedMv preferredMa

end Session

/-! ## What the operations do -/

/-- The parts of a policy that the negotiation is about. -/
def SameNegotiation (left right : SinkPolicy) : Prop :=
  left.phase = right.phase ∧ left.pendingContract = right.pendingContract ∧
    left.activeContract = right.activeContract ∧
    left.sourceCapabilities = right.sourceCapabilities ∧
    left.sourceCapabilitiesReceived = right.sourceCapabilitiesReceived

/-- What an operation does that may return an RDO. -/
inductive RequestOutcome (policy : SinkPolicy) (response : Response) : Prop
  | none (hrdo : response.rdo = none) (hsame : SameNegotiation response.policy policy)
  | request (rdo : Rdo) (hrdo : response.rdo = some rdo)
      (hreceived : policy.sourceCapabilitiesReceived = true)
      (hpending : requestDataObject response.policy.pendingContract = some rdo)
      (hselected : Selected response.policy.pendingContract)
      (hsame : SameNegotiation response.policy
        { policy with
          phase := .waitingForAccept
          pendingContract := response.policy.pendingContract })

theorem SameNegotiation.refl (policy : SinkPolicy) : SameNegotiation policy policy :=
  ⟨rfl, rfl, rfl, rfl, rfl⟩

namespace SinkPolicy

variable {policy failed prepared : SinkPolicy}

theorem requestOutcome_sendRequest (hfailed : SameNegotiation failed policy)
    (hprepared : SameNegotiation prepared policy)
    (hreceived : policy.sourceCapabilitiesReceived = true) {contract : Contract}
    (hselected : Selected contract) :
    RequestOutcome policy (sendRequest failed prepared contract) := by
  unfold sendRequest
  cases hrdo : requestDataObject contract with
  | none => exact .none rfl hfailed
  | some rdo =>
    obtain ⟨-, -, hactive, hcapabilities, hsameReceived⟩ := hprepared
    exact .request rdo rfl hreceived hrdo hselected
      ⟨rfl, rfl, hactive, hcapabilities, hsameReceived⟩

theorem requestOutcome_idle (policy : SinkPolicy) : RequestOutcome policy ⟨policy, none⟩ :=
  .none rfl (.refl policy)

theorem selected_of_beginTarget (hcapabilities : policy.sourceCapabilities.WellFormed)
    (hfloor : policy.activeContract.kind = .pps →
      fusb302bPpsMinMv ≤ policy.activeContract.voltageMv)
    {contract : Contract}
    (h : policy.beginTarget policy.sourceCapabilities = some contract) : Selected contract := by
  unfold beginTarget at h
  split_ifs at h with hidle
  · obtain ⟨standby, hstandby, htarget⟩ := Option.map_eq_some_iff.mp h
    have hselected := selected_of_selectFusb302bStandbyContract hcapabilities hstandby
    split_ifs at htarget with hdescend
    · cases hstep : (nextPpsToFixedVoltage policy.activeContract.voltageMv
          (max standby.voltageMv fusb302bPpsMinMv)).bind fun stepMv =>
          policy.sourceCapabilities.selectFusb302bStandbyPpsStep policy.activeContract stepMv with
      | none =>
        rw [hstep] at htarget
        exact htarget ▸ hselected
      | some step =>
        rw [hstep] at htarget
        obtain ⟨stepMv, -, hselect⟩ := Option.bind_eq_some_iff.mp hstep
        obtain rfl : step = contract := htarget
        exact selected_of_standbyPpsStep hcapabilities hfloor hselect
    · exact htarget ▸ hselected
  · cases hexplicit : policy.explicitRequest with
    | some request =>
      rw [hexplicit] at h
      exact selected_of_selectExactContract hcapabilities h
    | none =>
      rw [hexplicit] at h
      cases hmode : policy.requestedMode with
      | some mode =>
        rw [hmode] at h
        obtain ⟨request, -, hexact⟩ := Option.bind_eq_some_iff.mp h
        exact selected_of_selectExactContract hcapabilities hexact
      | none =>
        rw [hmode] at h
        exact selected_of_selectFusb302bContract hcapabilities h

theorem requestOutcome_beginRequest (hcapabilities : policy.sourceCapabilities.WellFormed)
    (hfloor : policy.activeContract.kind = .pps →
      fusb302bPpsMinMv ≤ policy.activeContract.voltageMv)
    (hreceived : policy.sourceCapabilitiesReceived = true)
    (hprepared : SameNegotiation prepared policy) :
    RequestOutcome policy (prepared.beginRequest policy.sourceCapabilities) := by
  have hsame := hprepared
  obtain ⟨-, -, hactive, hsameCapabilities, -⟩ := hprepared
  unfold beginRequest
  rw [← hsameCapabilities] at hcapabilities ⊢
  rw [← hactive] at hfloor
  cases htarget : prepared.beginTarget prepared.sourceCapabilities with
  | none => exact .none rfl hsame
  | some contract =>
    exact requestOutcome_sendRequest hsame hsame hreceived
      (selected_of_beginTarget hcapabilities hfloor htarget)

theorem requestOutcome_requestContract (hcapabilities : policy.sourceCapabilities.WellFormed)
    (request : PdContractRequest) : RequestOutcome policy (policy.requestContract request) := by
  unfold requestContract
  split_ifs with hreceived
  · cases hselect : policy.sourceCapabilities.selectExactContract request with
    | none => exact requestOutcome_idle policy
    | some contract =>
      have hprepared : SameNegotiation (policy.prepareContractRefresh request) policy :=
        ⟨rfl, rfl, rfl, rfl, rfl⟩
      exact requestOutcome_sendRequest (.refl policy) hprepared hreceived
        (selected_of_selectExactContract hcapabilities hselect)
  · exact requestOutcome_idle policy

theorem requestOutcome_requestPpsVoltage (hcapabilities : policy.sourceCapabilities.WellFormed)
    (requestedMv : ℕ) : RequestOutcome policy (policy.requestPpsVoltage requestedMv) := by
  unfold requestPpsVoltage
  cases hselect : policy.selectPpsContract requestedMv with
  | none => exact requestOutcome_idle policy
  | some contract =>
    unfold selectPpsContract at hselect
    split_ifs at hselect with hreceived
    have hfound := (Option.filter_eq_some_iff.mp hselect).1
    have hprepared : SameNegotiation (policy.wantPps requestedMv) policy :=
      ⟨rfl, rfl, rfl, rfl, rfl⟩
    exact requestOutcome_sendRequest hprepared hprepared hreceived
      (selected_of_selectFusb302bContract hcapabilities hfound)

theorem requestOutcome_requestFixedVoltage (hcapabilities : policy.sourceCapabilities.WellFormed)
    (requestedMv : ℕ) : RequestOutcome policy (policy.requestFixedVoltage requestedMv) := by
  unfold requestFixedVoltage
  split_ifs with hreceived
  · cases hselect : policy.sourceCapabilities.selectFusb302bFixedContract requestedMv
        policy.preferredMa with
    | none => exact requestOutcome_idle policy
    | some contract =>
      have hprepared : SameNegotiation
          { policy with
            explicitRequest := none
            requestedMode := some .fixed
            idleStandby := false } policy := ⟨rfl, rfl, rfl, rfl, rfl⟩
      exact requestOutcome_sendRequest (.refl policy) hprepared hreceived
        (selected_of_selectFusb302bFixedContract hcapabilities hselect)
  · exact requestOutcome_idle policy

theorem requestOutcome_requestAutomaticIdleFixedContract
    (hcapabilities : policy.sourceCapabilities.WellFormed)
    (hfloor : policy.activeContract.kind = .pps →
      fusb302bPpsMinMv ≤ policy.activeContract.voltageMv) :
    RequestOutcome policy policy.requestAutomaticIdleFixedContract := by
  unfold requestAutomaticIdleFixedContract
  split_ifs with hreceived
  · exact requestOutcome_beginRequest hcapabilities hfloor hreceived ⟨rfl, rfl, rfl, rfl, rfl⟩
  · exact requestOutcome_idle policy

/-- The voltage a standby step settles on has an RDO. -/
def StepAligned (policy : SinkPolicy) (requestedMv : ℕ) : Prop :=
  ∀ contract,
    policy.sourceCapabilities.selectFusb302bStandbyPpsStep policy.activeContract requestedMv =
      some contract → contract.voltageMv % ppsRdoVoltageStepMv = 0

/-- The one request that does not check its RDO behaves like the others where there
is one. -/
theorem requestOutcome_requestAutomaticIdlePpsStep
    (hcapabilities : policy.sourceCapabilities.WellFormed)
    (hfloor : policy.activeContract.kind = .pps →
      fusb302bPpsMinMv ≤ policy.activeContract.voltageMv)
    {requestedMv : ℕ} (haligned : policy.StepAligned requestedMv) :
    RequestOutcome policy (policy.requestAutomaticIdlePpsStep requestedMv) := by
  unfold requestAutomaticIdlePpsStep
  split_ifs with hreceived
  · cases hselect : policy.sourceCapabilities.selectFusb302bStandbyPpsStep policy.activeContract
        requestedMv with
    | none => exact requestOutcome_idle policy
    | some contract =>
      obtain ⟨rdo, hrdo⟩ := requestDataObject_standbyPpsStep hcapabilities
        hfloor hselect (haligned contract hselect)
      exact .request rdo hrdo hreceived hrdo
        (selected_of_standbyPpsStep hcapabilities hfloor hselect)
        ⟨rfl, rfl, rfl, rfl, rfl⟩
  · exact requestOutcome_idle policy

end SinkPolicy

end FluxPurr.Pd
