import FluxPurr.Pd.Fusb302bPoll
import FluxPurr.Pd.SinkAuthorization

/-!
# What an operation of the policy leaves behind

The runtime keeps a timer for everything the policy waits for.  A policy owes an answer to
its timer in both phases of a negotiation, and for a PPS contract that has to be kept alive
(`Owes`).  `Responds` says what an operation with an RDO can do: it keeps or drops the
active contract, and it owes more than before only where it returns an RDO.

`Moves` covers the messages as well: only a `PS_RDY` makes a contract active, and without an
active contract a message takes the negotiation one stage further at most.
-/

namespace FluxPurr.Pd

namespace SinkPolicy

/-- The source owes an answer, or a PPS contract has to be kept alive. -/
def Owes (policy : SinkPolicy) : Prop :=
  policy.phase = .waitingForAccept ∨ policy.phase = .waitingForPsRdy ∨
    policy.activeContract.kind = .pps

/-- How far the negotiation has come. -/
def stage (policy : SinkPolicy) : ℕ :=
  match policy.phase with
  | .waitingForAccept => 1
  | .waitingForPsRdy => 2
  | .ready => 3
  | _ => 0

end SinkPolicy

structure Responds (policy : SinkPolicy) (response : Response) : Prop where
  active : response.policy.activeContract = policy.activeContract ∨
    response.policy.activeContract = .none
  phase : response.policy.phase = policy.phase ∨ response.policy.phase = .waitingForAccept ∨
    response.policy.phase = .waitingForSourceCapabilities
  owes : response.rdo = none → response.policy.Owes → policy.Owes

namespace Responds

open SinkPolicy

variable {policy failed prepared : SinkPolicy}

theorem idle (policy : SinkPolicy) : Responds policy ⟨policy, none⟩ :=
  ⟨.inl rfl, .inl rfl, fun _ h => h⟩

/-- The operation began with another policy in the same phase with the same contract. -/
theorem congr {other : SinkPolicy} {response : Response} (h : Responds other response)
    (hphase : other.phase = policy.phase)
    (hactive : other.activeContract = policy.activeContract) : Responds policy response := by
  obtain ⟨hactive', hphase', howes⟩ := h
  rw [hactive] at hactive'
  rw [hphase] at hphase'
  refine ⟨hactive', hphase', fun hrdo howes' => ?_⟩
  have hother := howes hrdo howes'
  rwa [Owes, hphase, hactive] at hother

theorem sendRequest (hfailed : SameNegotiation failed policy)
    (hprepared : prepared.activeContract = policy.activeContract) (contract : Contract) :
    Responds policy (SinkPolicy.sendRequest failed prepared contract) := by
  unfold SinkPolicy.sendRequest
  cases requestDataObject contract with
  | none => exact (idle failed).congr hfailed.1 hfailed.2.2.1
  | some rdo => exact ⟨.inl hprepared, .inr (.inl rfl), fun h => (nomatch h)⟩

theorem beginRequest (policy : SinkPolicy) (capabilities : SourceCapabilities) :
    Responds policy (policy.beginRequest capabilities) := by
  unfold SinkPolicy.beginRequest
  cases policy.beginTarget capabilities with
  | none => exact idle policy
  | some contract => exact sendRequest (.refl policy) rfl contract

theorem requestContract (policy : SinkPolicy) (request : PdContractRequest) :
    Responds policy (policy.requestContract request) := by
  unfold SinkPolicy.requestContract
  split_ifs
  · cases policy.sourceCapabilities.selectExactContract request with
    | none => exact idle policy
    | some contract =>
      have hprepared : (policy.prepareContractRefresh request).activeContract =
        policy.activeContract := rfl
      exact sendRequest (.refl policy) hprepared contract
  · exact idle policy

theorem requestAutomaticIdleFixedContract (policy : SinkPolicy) :
    Responds policy policy.requestAutomaticIdleFixedContract := by
  unfold SinkPolicy.requestAutomaticIdleFixedContract
  split_ifs
  · exact (beginRequest policy.prepareAutomaticIdleRefresh _).congr rfl rfl
  · exact idle policy

/-- A step without an RDO waits for `Accept` as well, but only a PPS contract has steps. -/
theorem requestAutomaticIdlePpsStep (policy : SinkPolicy) (requestedMv : ℕ) :
    Responds policy (policy.requestAutomaticIdlePpsStep requestedMv) := by
  unfold SinkPolicy.requestAutomaticIdlePpsStep
  split_ifs
  · cases hselect : policy.sourceCapabilities.selectFusb302bStandbyPpsStep
        policy.activeContract requestedMv with
    | none => exact idle policy
    | some contract =>
      have hpps : policy.activeContract.kind = .pps := by
        by_contra hkind
        rw [SourceCapabilities.selectFusb302bStandbyPpsStep, if_pos hkind] at hselect
        cases hselect
      exact ⟨.inl rfl, .inr (.inl rfl), fun _ _ => .inr (.inr hpps)⟩
  · exact idle policy

theorem keepOrRequest (policy : SinkPolicy) : Responds policy policy.keepOrRequest := by
  unfold SinkPolicy.keepOrRequest
  split_ifs with hready hsupports
  · exact ⟨.inl rfl, .inl rfl, fun _ howes => howes⟩
  · obtain ⟨hactive, hphase, howes⟩ := beginRequest
      { policy with
        activeContract := .none
        pendingContract := .none
        phase := .waitingForSourceCapabilities } policy.sourceCapabilities
    refine ⟨.inr ?_, .inr ?_, fun hrdo h => ?_⟩
    · rcases hactive with h | h
      · exact h
      · exact h
    · rcases hphase with h | h | h
      · exact .inr h
      · exact .inl h
      · exact .inr h
    · obtain hphase | hphase | hkind := howes hrdo h
      · cases hphase
      · cases hphase
      · cases hkind
  · exact beginRequest policy _

theorem onSourceCapabilities (policy : SinkPolicy) (pdos : List UInt32) (messageId : Option UInt8) :
    Responds policy (policy.onSourceCapabilitiesWithMessageId pdos messageId) := by
  unfold SinkPolicy.onSourceCapabilitiesWithMessageId
  cases hobserve : policy.observeSourceMessageId (messageId.map (· &&& 0x07)) with
  | none => exact idle policy
  | some observed =>
    obtain ⟨hphase, -, hactive, -⟩ := sameNegotiation_of_observe hobserve
    exact (beginRequest (observed.storeCapabilities pdos) _).congr hphase hactive

theorem refreshSourceCapabilities (policy : SinkPolicy) (pdos : List UInt32)
    (messageId : Option UInt8) :
    Responds policy (policy.refreshSourceCapabilitiesWithMessageId pdos messageId) := by
  unfold SinkPolicy.refreshSourceCapabilitiesWithMessageId
  cases hobserve : policy.observeSourceMessageId (messageId.map (· &&& 0x07)) with
  | none => exact idle policy
  | some observed =>
    obtain ⟨hphase, -, hactive, -⟩ := sameNegotiation_of_observe hobserve
    exact (keepOrRequest (observed.storeCapabilities pdos)).congr hphase hactive

theorem respondToCapabilities (runtime : Fusb302bRuntime) (messageId : Option UInt8)
    (pdos : List UInt32) :
    Responds runtime.policy (runtime.respondToCapabilities messageId pdos) := by
  unfold Fusb302bRuntime.respondToCapabilities
  split_ifs
  · exact refreshSourceCapabilities runtime.policy pdos messageId
  · exact onSourceCapabilities runtime.policy pdos messageId

end Responds

/-! ## Operations without an RDO -/

namespace SinkPolicy

theorem not_owes_reset (policy : SinkPolicy) : ¬ policy.onReceivedProtocolReset.Owes := by
  rintro (h | h | h) <;> cases h

theorem not_owes_markFault (policy : SinkPolicy) : ¬ policy.markFault.Owes := by
  rintro (h | h | h) <;> cases h

theorem owes_cancelPendingRequest {policy : SinkPolicy} (h : policy.cancelPendingRequest.Owes) :
    policy.Owes := by
  obtain hphase | hphase | hkind := h
  · simp only [cancelPendingRequest] at hphase
    split_ifs at hphase
  · simp only [cancelPendingRequest] at hphase
    split_ifs at hphase
  · exact .inr (.inr hkind)

theorem owes_onAttachmentDetected {policy : SinkPolicy} (h : policy.onAttachmentDetected.Owes) :
    policy.Owes := by
  unfold onAttachmentDetected at h
  split_ifs at h
  · obtain hphase | hphase | hkind := h
    · cases hphase
    · cases hphase
    · exact .inr (.inr hkind)
  · exact h

theorem owes_congr {left right : SinkPolicy} (h : SameNegotiation left right) :
    left.Owes ↔ right.Owes := by
  rw [Owes, Owes, h.1, h.2.2.1]

/-- An answer of the source is owed only where one was owed before. -/
theorem owes_onControlMessage {policy : SinkPolicy} {messageType : UInt8} {messageId : Option UInt8}
    (h : (policy.onControlMessageWithMessageId messageType messageId).Owes) : policy.Owes := by
  cases onControlMessage_cases policy messageType messageId with
  | accepted hphase _ _ => exact .inl hphase
  | confirmed hphase _ _ => exact .inr (.inl hphase)
  | other _ _ hsame =>
    obtain hsame | hsame := hsame
    · exact (owes_congr hsame).mp h
    · exact owes_cancelPendingRequest ((owes_congr hsame).mp h)

theorem sameNegotiation_onUnhandledDataMessage (policy : SinkPolicy) (messageId : Option UInt8)
    (discoveryQueryActive : Bool) :
    SameNegotiation (policy.onUnhandledDataMessageWithMessageId messageId discoveryQueryActive)
      policy := by
  unfold onUnhandledDataMessageWithMessageId
  split_ifs
  · exact sameNegotiation_getD_observe policy messageId
  · exact .refl policy

end SinkPolicy

/-! ## The stages of a negotiation -/

structure Moves (policy : SinkPolicy) (isPsRdy : Prop) (after : SinkPolicy) : Prop where
  active : after.activeContract = policy.activeContract ∨ after.activeContract = .none ∨
    (isPsRdy ∧ policy.phase = .waitingForPsRdy)
  stage : policy.activeContract = .none → after.stage ≤ policy.stage + 1
  fault : after.phase = .fault → policy.phase = .fault ∨ after.activeContract = .none

namespace Moves

open SinkPolicy

variable {policy after : SinkPolicy} {isPsRdy : Prop}

theorem refl (policy : SinkPolicy) (isPsRdy : Prop) : Moves policy isPsRdy policy :=
  ⟨.inl rfl, fun _ => Nat.le_succ _, .inl⟩

theorem of_sameNegotiation (h : SameNegotiation after policy) : Moves policy isPsRdy after := by
  obtain ⟨hphase, -, hactive, -⟩ := h
  refine ⟨.inl hactive, fun _ => ?_, fun hfault => .inl (hphase ▸ hfault)⟩
  rw [SinkPolicy.stage, SinkPolicy.stage, hphase]
  exact Nat.le_succ _

/-- What begins or gives up a request leaves no later stage than the request. -/
theorem of_responds {response : Response} (h : Responds policy response) :
    Moves policy isPsRdy response.policy := by
  obtain ⟨hactive, hphase, -⟩ := h
  refine ⟨hactive.imp_right .inl, fun _ => ?_, fun hfault => ?_⟩
  · unfold SinkPolicy.stage
    obtain hphase | hphase | hphase := hphase <;> rw [hphase]
    · exact Nat.le_succ _
    · exact Nat.le_add_left 1 _
    · exact Nat.zero_le _
  · obtain hphase | hphase | hphase := hphase
    · exact .inl (hphase ▸ hfault)
    · rw [hphase] at hfault
      cases hfault
    · rw [hphase] at hfault
      cases hfault

theorem cancelPendingRequest (policy : SinkPolicy) :
    Moves policy isPsRdy policy.cancelPendingRequest := by
  refine ⟨.inl rfl, fun hnone => ?_, fun hfault => ?_⟩
  · simp [SinkPolicy.stage, SinkPolicy.cancelPendingRequest, hnone]
  · simp only [SinkPolicy.cancelPendingRequest] at hfault
    split_ifs at hfault

theorem congr {between : SinkPolicy} (h : Moves policy isPsRdy between)
    (hsame : SameNegotiation after between) : Moves policy isPsRdy after := by
  obtain ⟨hphase, -, hactive, -⟩ := hsame
  refine ⟨hactive ▸ h.active, fun hnone => ?_, fun hfault => hactive ▸ h.fault (hphase ▸ hfault)⟩
  rw [SinkPolicy.stage, hphase]
  exact h.stage hnone

/-- An answer goes one stage further, and only `PS_RDY` to an active contract. -/
theorem onControlMessage (policy : SinkPolicy) (messageType : UInt8) (messageId : Option UInt8) :
    Moves policy (messageType = psRdy)
      (policy.onControlMessageWithMessageId messageType messageId) := by
  cases onControlMessage_cases policy messageType messageId with
  | accepted hphase _ hsame =>
    have hmoves : Moves policy (messageType = psRdy)
        { policy with phase := .waitingForPsRdy } := by
      refine ⟨.inl rfl, fun _ => ?_, fun hfault => (nomatch hfault)⟩
      simp [SinkPolicy.stage, hphase]
    exact hmoves.congr hsame
  | confirmed hphase hanswer hsame =>
    have hmoves : Moves policy (messageType = psRdy)
        { policy with
          activeContract := policy.pendingContract
          pendingContract := .none
          phase := .ready } := by
      refine ⟨.inr (.inr ⟨(of_decide_eq_true hanswer).2.1, hphase⟩), fun _ => ?_,
        fun hfault => (nomatch hfault)⟩
      simp [SinkPolicy.stage, hphase]
    exact hmoves.congr hsame
  | other _ _ hsame =>
    obtain hsame | hsame := hsame
    · exact of_sameNegotiation hsame
    · exact (cancelPendingRequest policy).congr hsame

theorem reset (policy : SinkPolicy) : Moves policy isPsRdy policy.onReceivedProtocolReset :=
  ⟨.inr (.inl rfl), fun _ => Nat.zero_le _, fun hfault => (nomatch hfault)⟩

theorem markFault (policy : SinkPolicy) : Moves policy isPsRdy policy.markFault :=
  ⟨.inr (.inl rfl), fun _ => Nat.zero_le _, fun _ => .inr rfl⟩

theorem active_none (h : Moves policy isPsRdy after) (hnot : ¬ isPsRdy)
    (hnone : policy.activeContract = .none) : after.activeContract = .none := by
  obtain hactive | hactive | ⟨hpsRdy, -⟩ := h.active
  · exact hactive.trans hnone
  · exact hactive
  · exact absurd hpsRdy hnot

end Moves

/-- No contract is active, and so few messages do not make one active. -/
def SinkPolicy.Unconfirmed (policy : SinkPolicy) (messages : ℕ) : Prop :=
  policy.activeContract = .none ∧ policy.stage + messages ≤ 2

theorem Moves.unconfirmed {policy after : SinkPolicy} {isPsRdy : Prop} {messages : ℕ}
    (h : Moves policy isPsRdy after) (hbefore : policy.Unconfirmed (messages + 1)) :
    after.Unconfirmed messages := by
  obtain ⟨hnone, hstage⟩ := hbefore
  have hnext := h.stage hnone
  refine ⟨?_, by omega⟩
  obtain hactive | hactive | ⟨-, hphase⟩ := h.active
  · exact hactive.trans hnone
  · exact hactive
  · simp only [SinkPolicy.stage, hphase] at hstage
    omega

end FluxPurr.Pd
