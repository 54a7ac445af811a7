import FluxPurr.Pd.PolicyResponses

/-!
# The deadlines of the PD runtime

Whatever the runtime waits for has a timer: the answer to a request, the capabilities that
were asked for again, the capabilities of a new source, and the keepalive of a PPS contract.
The operations set the phase and the timers in different places and fail midway, but after
each of them a policy that owes an answer has the time of a request (`Deadlines`).

A poll that looks at the timers late enough then leaves the wait (`Armed`).
-/

namespace FluxPurr.Pd

open FluxPurr.Runs
open Fusb302bRuntime
open SinkPolicy

structure Deadlines (runtime : Fusb302bRuntime) : Prop where
  request : runtime.policy.Owes → runtime.lastRequestAtMs.isSome
  refresh : runtime.sourceCapabilitiesRefreshPending = true →
    runtime.sourceCapabilitiesRefreshRequestedAtMs.isSome
  attached : runtime.polarity.isSome → runtime.attachedAtMs.isSome

namespace Deadlines

variable {runtime : Fusb302bRuntime} {nowMs : ℕ}

theorem new : Deadlines .new := by
  refine ⟨?_, fun h => (nomatch h), fun h => (nomatch h)⟩
  rintro (h | h | h) <;> cases h

theorem quiet (h : Deadlines runtime) {after : Fusb302bRuntime}
    (howes : after.policy.Owes → runtime.policy.Owes)
    (hrequest : after.lastRequestAtMs = runtime.lastRequestAtMs)
    (hpending : after.sourceCapabilitiesRefreshPending = true →
      runtime.sourceCapabilitiesRefreshPending = true)
    (hrefresh : after.sourceCapabilitiesRefreshRequestedAtMs =
      runtime.sourceCapabilitiesRefreshRequestedAtMs)
    (hpolarity : after.polarity = runtime.polarity)
    (hattached : after.attachedAtMs = runtime.attachedAtMs) : Deadlines after := by
  refine ⟨fun ho => ?_, fun hp => ?_, fun hs => ?_⟩
  · rw [hrequest]
    exact h.request (howes ho)
  · rw [hrefresh]
    exact h.refresh (hpending hp)
  · rw [hattached]
    exact h.attached (hpolarity ▸ hs)

theorem recover (h : Deadlines runtime) (fault : TransientTransportFault) (nowMs : ℕ) :
    Deadlines (runtime.recoverTransientTransportFault fault nowMs) :=
  ⟨fun howes => absurd howes (not_owes_reset _), fun hp => (nomatch hp), h.attached⟩

theorem clearContractAuthorization (runtime : Fusb302bRuntime) (nowMs : ℕ) :
    Deadlines (runtime.clearContractAuthorization nowMs) :=
  ⟨fun howes => absurd howes (not_owes_reset _), fun hp => (nomatch hp), fun _ => rfl⟩

theorem clearVbusLowInterlock (h : Deadlines runtime) : Deadlines runtime.clearVbusLowInterlock :=
  h.quiet id rfl id rfl rfl rfl

theorem transmitOr (ok : Bool) {sent : Fusb302bRuntime → PdContractRequestState × Fusb302bRuntime}
    (hrecover : runtime.polarity.isSome → runtime.attachedAtMs.isSome)
    (hsent : ∀ messageId, Deadlines (sent { runtime with nextMessageId := messageId }).2) :
    Deadlines (runtime.transmitOr nowMs ok sent).2 := by
  unfold Fusb302bRuntime.transmitOr transmit
  cases ok with
  | true => exact hsent _
  | false =>
    exact ⟨fun howes => absurd howes (not_owes_reset _), fun hp => (nomatch hp), hrecover⟩

/-! ## Requests -/

theorem sendRequest (h : Deadlines runtime) {response : Response}
    (hresponds : Responds runtime.policy response) (ok : Bool) :
    Deadlines (runtime.sendRequest response nowMs ok).2 := by
  unfold Fusb302bRuntime.sendRequest
  cases hrdo : response.rdo with
  | none => exact h.quiet (hresponds.owes hrdo) rfl id rfl rfl rfl
  | some rdo => exact transmitOr ok h.attached fun _ => { h with request := fun _ => rfl }

theorem askSourceCapabilities (h : Deadlines runtime) (requestContract ok : Bool) :
    Deadlines (runtime.askSourceCapabilities nowMs requestContract ok).2 := by
  unfold Fusb302bRuntime.askSourceCapabilities
  split_ifs
  · exact h
  · exact transmitOr ok h.attached fun _ => { h with refresh := fun _ => rfl }

theorem withdrawQuery (h : Deadlines runtime) : Deadlines runtime.withdrawQuery :=
  { h with refresh := fun hp => (nomatch hp) }

theorem forgetOutcome (h : Deadlines runtime) : Deadlines runtime.forgetOutcome :=
  h.quiet id rfl id rfl rfl rfl

theorem endIdleTransition (h : Deadlines runtime) : Deadlines runtime.endIdleTransition :=
  h.quiet id rfl id rfl rfl rfl

theorem refreshSourceCapabilities (h : Deadlines runtime)
    (replacePending requestContract : Bool) (transfers : CommandTransfers) :
    Deadlines (runtime.refreshSourceCapabilities nowMs replacePending requestContract
      transfers).2 := by
  unfold Fusb302bRuntime.refreshSourceCapabilities
  dsimp only
  have hreplaced : Deadlines { runtime.forgetOutcome.withdrawQuery with
      lastSourceCapabilitiesRequestAtMs := none } :=
    h.forgetOutcome.withdrawQuery.quiet id rfl id rfl rfl rfl
  split_ifs
  · exact hreplaced.askSourceCapabilities _ _
  · exact hreplaced.recover _ _
  · exact h.forgetOutcome
  · exact h.forgetOutcome.askSourceCapabilities _ _

theorem replaceRequest (h : Deadlines runtime) (request : PdContractRequest) :
    Deadlines (runtime.replaceRequest request) :=
  h.quiet owes_cancelPendingRequest rfl id rfl rfl rfl

theorem requestContract (h : Deadlines runtime) (request : PdContractRequest)
    (replacePending : Bool) (transfers : CommandTransfers) :
    Deadlines (runtime.requestContract request nowMs replacePending transfers).2 := by
  unfold Fusb302bRuntime.requestContract
  dsimp only
  have hbegun := h.forgetOutcome.endIdleTransition
  have hreplaced := hbegun.replaceRequest request
  split_ifs
  · exact hreplaced.refreshSourceCapabilities _ _ _
  · exact hbegun
  · exact hreplaced.refreshSourceCapabilities _ _ _
  · exact hreplaced.recover _ _
  · exact hbegun
  · refine refreshSourceCapabilities ?_ _ _ _
    exact hbegun.quiet id rfl id rfl rfl rfl
  · exact hbegun.sendRequest (.requestContract _ request) _

theorem abortPendingOperation (h : Deadlines runtime) (transfers : CommandTransfers) :
    Deadlines (runtime.abortPendingOperation nowMs transfers) := by
  unfold Fusb302bRuntime.abortPendingOperation
  dsimp only
  have haborted : Deadlines { runtime.withdrawQuery.forgetOutcome.endIdleTransition with
      policy := runtime.policy.cancelPendingRequest } :=
    h.withdrawQuery.quiet owes_cancelPendingRequest rfl id rfl rfl rfl
  split_ifs
  · exact haborted
  · exact haborted.recover _ _

/-! ## The standby contract -/

theorem sendIdleRequest (h : Deadlines runtime) (ok : Bool) :
    Deadlines (runtime.sendIdleRequest nowMs ok).2 := by
  unfold Fusb302bRuntime.sendIdleRequest
  split
  · exact h.sendRequest (.requestAutomaticIdleFixedContract _) ok
  · split
    · exact h
    · split
      · refine sendRequest ?_ ?_ ok
        · exact h.quiet id rfl id rfl rfl rfl
        · exact .requestAutomaticIdlePpsStep runtime.policy _
      · exact h.sendRequest (.requestAutomaticIdleFixedContract _) ok

theorem startAutomaticIdle (h : Deadlines runtime) (ok : Bool) :
    Deadlines (runtime.startAutomaticIdle nowMs ok).2 := by
  unfold Fusb302bRuntime.startAutomaticIdle
  dsimp only
  split_ifs with hunderWay hnegotiates
  · exact h
  · have hcanceled : Deadlines { runtime with policy := runtime.policy.cancelPendingRequest } :=
      h.quiet owes_cancelPendingRequest rfl id rfl rfl rfl
    split
    · exact hcanceled
    · split_ifs
      · exact hcanceled.endIdleTransition
      · refine sendIdleRequest ?_ ok
        exact hcanceled.quiet id rfl id rfl rfl rfl
      · refine sendIdleRequest ?_ ok
        exact hcanceled.quiet id rfl id rfl rfl rfl
  · split
    · exact h
    · split_ifs
      · exact h.endIdleTransition
      · refine sendIdleRequest ?_ ok
        exact h.quiet id rfl id rfl rfl rfl
      · refine sendIdleRequest ?_ ok
        exact h.quiet id rfl id rfl rfl rfl

theorem requestAutomaticIdleContract (h : Deadlines runtime) (replacePending : Bool)
    (transfers : CommandTransfers) :
    Deadlines (runtime.requestAutomaticIdleContract nowMs replacePending transfers).2 := by
  unfold Fusb302bRuntime.requestAutomaticIdleContract
  dsimp only
  have hreplaced : Deadlines runtime.forgetOutcome.replaceWithIdle :=
    h.quiet owes_cancelPendingRequest rfl id rfl rfl rfl
  split_ifs
  · exact h
  · exact hreplaced.startAutomaticIdle _
  · refine refreshSourceCapabilities ?_ _ _ _
    exact hreplaced.quiet id rfl id rfl rfl rfl
  · exact h.forgetOutcome.startAutomaticIdle _

/-- A failed transfer of a step leaves the time of the PPS request that is replaced. -/
theorem sendIdleStep (h : Deadlines runtime) {response : Response}
    (hresponds : Responds runtime.policy response)
    (hpps : runtime.policy.activeContract.kind = .pps) (ok : Bool) :
    Deadlines (runtime.sendIdleStep response nowMs ok).2 := by
  have hlast : runtime.lastRequestAtMs.isSome := h.request (.inr (.inr hpps))
  unfold Fusb302bRuntime.sendIdleStep transmit
  dsimp only
  cases hrdo : response.rdo with
  | none => exact h.quiet (hresponds.owes hrdo) rfl id rfl rfl rfl
  | some rdo =>
    cases ok with
    | true => exact { h with request := fun _ => rfl }
    | false => exact { h with request := fun _ => hlast }

theorem advanceAutomaticIdleTransition (h : Deadlines runtime) (transfers : CommandTransfers) :
    Deadlines (runtime.advanceAutomaticIdleTransition nowMs transfers).2 := by
  unfold Fusb302bRuntime.advanceAutomaticIdleTransition
  split
  · exact h
  dsimp only
  split_ifs with hphase hreached hlater hkind
  · exact h
  · exact h.endIdleTransition
  · exact h
  · exact h
  · have hpps : runtime.policy.activeContract.kind = .pps := not_not.mp hkind
    split
    · exact h
    · split
      · exact h.sendIdleStep (.requestAutomaticIdleFixedContract _) hpps _
      · exact h.sendIdleStep (.requestAutomaticIdlePpsStep _ _) hpps _

/-! ## The events of a poll -/

theorem answer (ok : Bool) {sent : Fusb302bRuntime → Fusb302bRuntime}
    (hattached : runtime.polarity.isSome → runtime.attachedAtMs.isSome)
    (hsent : ∀ messageId, Deadlines (sent { runtime with nextMessageId := messageId })) :
    Deadlines (runtime.answer nowMs ok sent).1 := by
  unfold Fusb302bRuntime.answer transmit
  cases ok with
  | true => exact hsent _
  | false =>
    exact ⟨fun howes => absurd howes (not_owes_reset _), fun hp => (nomatch hp), hattached⟩

theorem handleVbusLowEvent (h : Deadlines runtime) (transition : Bool) :
    Deadlines (runtime.handleVbusLowEvent nowMs transition) := by
  have hinterlocked : Deadlines (runtime.interlockAfterVbusLow nowMs) := by
    unfold interlockAfterVbusLow
    split_ifs
    · exact h
    · exact (clearContractAuthorization runtime nowMs).quiet id rfl id rfl rfl rfl
  unfold Fusb302bRuntime.handleVbusLowEvent
  dsimp only
  split_ifs <;> exact hinterlocked.quiet id rfl id rfl rfl rfl

theorem noteQuery (h : Deadlines runtime) (txSent gcrcSent : Bool) :
    Deadlines (runtime.noteQuery txSent gcrcSent) := by
  unfold Fusb302bRuntime.noteQuery
  split_ifs
  · exact h.quiet id rfl id rfl rfl rfl
  · exact h

theorem endPartialFrame (h : Deadlines runtime) : Deadlines runtime.endPartialFrame :=
  h.quiet id rfl id rfl rfl rfl

theorem handleEmptyEvent (h : Deadlines runtime) (txSent gcrcSent ok : Bool) :
    Deadlines (runtime.handleEmptyEvent nowMs txSent gcrcSent ok).1 := by
  unfold Fusb302bRuntime.handleEmptyEvent
  dsimp only
  have hended := h.endPartialFrame
  have hnoted := hended.noteQuery txSent gcrcSent
  split_ifs
  · refine answer ok hnoted.attached fun _ => ?_
    exact hnoted.quiet id rfl id rfl rfl rfl
  · exact hnoted
  · split
    · exact hended.recover _ _
    · exact answer ok hended.attached fun _ => { hended with request := fun _ => rfl }
  · exact hended

theorem handlePartialEvent (h : Deadlines runtime) (txSent gcrcSent : Bool) :
    Deadlines (runtime.handlePartialEvent nowMs txSent gcrcSent).1 := by
  unfold Fusb302bRuntime.handlePartialEvent
  dsimp only
  have hnoted := h.clearVbusLowInterlock.noteQuery txSent gcrcSent
  split_ifs
  · refine recover ?_ _ _
    exact hnoted.quiet id rfl id rfl rfl rfl
  · exact hnoted.quiet id rfl id rfl rfl rfl

/-- Capabilities that ask for no request leave an answer owed only if one was before. -/
theorem answerCapabilities (h : Deadlines runtime) {response : Response}
    (hresponds : Responds runtime.policy response) (ok : Bool) :
    Deadlines ((runtime.storeCapabilities response.policy).answerCapabilities nowMs
      response.rdo ok).1 := by
  unfold Fusb302bRuntime.answerCapabilities
  split
  · exact answer ok h.attached fun _ => ⟨fun _ => rfl, fun hp => (nomatch hp), h.attached⟩
  · rename_i hrdo
    exact ⟨fun howes => h.request (hresponds.owes hrdo howes), fun hp => (nomatch hp), h.attached⟩

theorem handleSourceCapabilitiesMessage (h : Deadlines runtime) (messageId : Option UInt8)
    (pdos : List UInt32) (ok : Bool) :
    Deadlines (runtime.handleSourceCapabilitiesMessage nowMs messageId pdos ok).1 := by
  unfold Fusb302bRuntime.handleSourceCapabilitiesMessage
  split_ifs
  · exact h.answerCapabilities (.respondToCapabilities runtime messageId pdos) ok
  · exact h

theorem handleControlMessage (h : Deadlines runtime) (packet : PdPacket) :
    Deadlines (runtime.handleControlMessage packet nowMs) :=
  h.quiet owes_onControlMessage rfl id rfl rfl rfl

theorem handleMessageEvent (h : Deadlines runtime) (packet : PdPacket) (ok : Bool) :
    Deadlines (runtime.handleMessageEvent nowMs packet ok).1 := by
  have hended := h.endPartialFrame
  unfold Fusb302bRuntime.handleMessageEvent
  dsimp only
  split
  · exact hended.handleSourceCapabilitiesMessage _ _ ok
  · split_ifs
    · exact hended.handleControlMessage packet
    · refine hended.quiet ?_ rfl id rfl rfl rfl
      exact (owes_congr
        (sameNegotiation_onUnhandledDataMessage _ _ _)).mp

/-- A reset of the protocol owes nothing and asks for nothing. -/
theorem recoverAfterReceivedReset (runtime : Fusb302bRuntime)
    (action : Fusb302bReceivedResetAction) (flushed ok : Bool) :
    Deadlines (runtime.recoverAfterReceivedReset action nowMs flushed ok).1 := by
  have hreset : Deadlines
      { (runtime.resetProtocol nowMs).clearVbusLowInterlock with nextMessageId := 0 } :=
    ⟨fun howes => absurd howes (not_owes_reset _), fun hp => (nomatch hp), fun _ => rfl⟩
  unfold Fusb302bRuntime.recoverAfterReceivedReset
  dsimp only
  split_ifs
  · cases action with
    | waitForSourceCapabilities => exact hreset
    | acceptAndWaitForSourceCapabilities =>
      refine answer ok (fun _ => rfl) fun _ => ?_
      exact hreset.quiet id rfl id rfl rfl rfl
  · exact hreset

theorem handleProtectionEvent (h : Deadlines runtime) : Deadlines runtime.handleProtectionEvent.1 :=
  { h with request := fun howes => absurd howes (not_owes_markFault _) }

theorem handleEvent (h : Deadlines runtime) (transfers : ReceiveTransfers)
    (event : Fusb302bReceiveEvent) :
    Deadlines (runtime.handleEvent nowMs transfers event).1 := by
  cases event with
  | vbusLow transition => exact h.handleVbusLowEvent transition
  | empty txSent gcrcSent => exact h.handleEmptyEvent txSent gcrcSent _
  | partialFrame txSent gcrcSent => exact h.handlePartialEvent txSent gcrcSent
  | message packet => exact h.handleMessageEvent packet _
  | receivedReset action => exact recoverAfterReceivedReset runtime action _ _
  | retryFailed => exact h.clearVbusLowInterlock.recover _ _
  | protection => exact h.handleProtectionEvent
  | unsupportedSop => exact h.clearVbusLowInterlock.recover _ _

theorem pollReceiveEvent (h : Deadlines runtime) (transfers : ReceiveTransfers) :
    Deadlines (runtime.pollReceiveEvent nowMs transfers).1.1 := by
  unfold Fusb302bRuntime.pollReceiveEvent
  split
  · exact h.recover _ _
  · refine handleEvent ?_ transfers _
    exact h.quiet id rfl id rfl rfl rfl

theorem pollReceiveMessages (receive : ℕ → ReceiveTransfers) (limit : ℕ) (h : Deadlines runtime) :
    Deadlines (runtime.pollReceiveMessages nowMs receive limit).1 := by
  induction limit generalizing runtime with
  | zero => exact h
  | succ limit ih =>
    have hevent := @pollReceiveEvent _ nowMs h (receive (fusb302bRxBurstLimit - (limit + 1)))
    unfold Fusb302bRuntime.pollReceiveMessages
    dsimp only
    split_ifs
    · exact hevent
    · exact ih hevent

/-! ## The steps of a poll -/

theorem pollVbusRestore (h : Deadlines runtime) (transfers : PollTransfers)
    {result : Fusb302bRuntime × Bool}
    (hresult : runtime.pollVbusRestore nowMs transfers = some result) : Deadlines result.1 := by
  unfold Fusb302bRuntime.pollVbusRestore at hresult
  by_cases hawaiting : runtime.awaitingVbusRestore
  · rw [if_neg (not_not.mpr hawaiting)] at hresult
    split at hresult
    · obtain rfl := Option.some.inj hresult
      exact h.recover _ _
    · dsimp only at hresult
      split_ifs at hresult <;>
        · obtain rfl := Option.some.inj hresult
          exact h.quiet id rfl id rfl rfl rfl
  · rw [if_pos hawaiting] at hresult
    cases hresult

theorem pollAttachment (h : Deadlines runtime) (transfers : PollTransfers) :
    Deadlines ((runtime.pollAttachment nowMs transfers).elim Prod.fst id) := by
  unfold Fusb302bRuntime.pollAttachment
  split
  · exact h
  · split
    · exact h.recover _ _
    · split
      · exact h
      · split_ifs
        · exact ⟨fun howes => h.request (owes_onAttachmentDetected howes), h.refresh, fun _ => rfl⟩
        · exact h.recover _ _

/-- The request of the keepalive counts from its missing answer. -/
theorem pollPendingRequest (h : Deadlines runtime) :
    Deadlines ((runtime.pollPendingRequest nowMs).elim Prod.fst id) := by
  unfold Fusb302bRuntime.pollPendingRequest
  dsimp only
  have hkept : Deadlines { runtime with
      ppsKeepalivePendingAtMs := none, lastRequestAtMs := some nowMs } :=
    { h with request := fun _ => rfl }
  split_ifs
  · refine recover ?_ _ _
    exact hkept.quiet id rfl id rfl rfl rfl
  · refine recover ?_ _ _
    exact h.quiet id rfl id rfl rfl rfl
  · exact hkept
  · exact h

theorem pollPpsTransitionCapabilityRefresh (h : Deadlines runtime) :
    Deadlines (runtime.pollPpsTransitionCapabilityRefresh nowMs) := by
  unfold Fusb302bRuntime.pollPpsTransitionCapabilityRefresh
  split_ifs
  · exact (clearContractAuthorization runtime nowMs).quiet id rfl id rfl rfl rfl
  · exact h

theorem pollTimers (h : Deadlines runtime) : Deadlines (runtime.pollTimers nowMs).1 := by
  have hrequest := @pollPendingRequest _ nowMs h
  unfold Fusb302bRuntime.pollTimers
  cases hpending : runtime.pollPendingRequest nowMs with
  | inl result =>
    rw [hpending] at hrequest
    exact hrequest
  | inr kept =>
    rw [hpending] at hrequest
    exact pollPpsTransitionCapabilityRefresh hrequest

theorem pollAttached (h : Deadlines runtime) (transfers : PollTransfers) :
    Deadlines (runtime.pollAttached nowMs transfers).1 := by
  have hmessages := @pollReceiveMessages _ nowMs transfers.receive fusb302bRxBurstLimit h
  unfold Fusb302bRuntime.pollAttached
  dsimp only
  split_ifs
  · exact hmessages.pollTimers
  · exact hmessages

theorem poll (h : Deadlines runtime) (transfers : PollTransfers) :
    Deadlines (runtime.poll nowMs transfers).1 := by
  unfold Fusb302bRuntime.poll
  dsimp only
  have hbegun : Deadlines { runtime with
      vbusStatusObserved := false, vbusStatusRaw := 0, transportRecoveryNotBeforeMs := none } :=
    h.quiet id rfl id rfl rfl rfl
  split_ifs
  · exact hbegun
  · split
    · exact hbegun.pollVbusRestore transfers ‹_›
    · have hattachment := @pollAttachment _ nowMs hbegun transfers
      split
      · rename_i hattached
        rw [hattached] at hattachment
        exact hattachment
      · rename_i hattached
        rw [hattached] at hattachment
        exact pollAttached hattachment transfers
  · exact h.quiet id rfl id rfl rfl rfl

/-! ## Runs -/

theorem perform (h : Deadlines runtime) (operation : RuntimeOperation) :
    Deadlines (runtime.perform nowMs operation) := by
  cases operation with
  | poll transfers => exact h.poll transfers
  | requestContract request replacePending transfers =>
    exact h.requestContract request replacePending transfers
  | refreshSourceCapabilities replacePending requestContract transfers =>
    exact h.refreshSourceCapabilities replacePending requestContract transfers
  | requestAutomaticIdleContract replacePending transfers =>
    exact h.requestAutomaticIdleContract replacePending transfers
  | advanceAutomaticIdleTransition transfers => exact h.advanceAutomaticIdleTransition transfers
  | abortPendingOperation transfers => exact h.abortPendingOperation transfers
  | setStandbyMinimumMv minimumMv => exact h.quiet id rfl id rfl rfl rfl

theorem reaches {operations : List (ℕ × RuntimeOperation)} {after : Fusb302bRuntime}
    (hrun : Reaches Fusb302bRuntime.Step .new operations after) : Deadlines after :=
  hrun.invariant new fun before timed after h (hstep : after = before.perform timed.1 timed.2) =>
    hstep ▸ h.perform timed.2

end Deadlines

/-! ## Every wait ends -/

theorem exists_expired {sinceMs : Option ℕ} (h : sinceMs.isSome) (periodMs : ℕ) :
    ∃ deadlineMs, ∀ nowMs ≥ deadlineMs, expired sinceMs periodMs nowMs = true := by
  obtain ⟨startedMs, rfl⟩ := Option.isSome_iff_exists.mp h
  refine ⟨startedMs + periodMs, fun nowMs hnow => ?_⟩
  simp only [expired, Option.any_some, decide_eq_true_eq]
  omega

/-- Each wait has its timer, and the timer ends the wait or sends the message again. -/
structure Armed (runtime : Fusb302bRuntime) : Prop where
  request : runtime.policy.phase.negotiates → runtime.lastRequestAtMs.isSome
  refresh : runtime.sourceCapabilitiesRefreshPending = true →
    runtime.sourceCapabilitiesRefreshRequestedAtMs.isSome
  attached : runtime.policy.phase = .waitingForSourceCapabilities →
    runtime.polarity.isSome → runtime.attachedAtMs.isSome
  keepalive : runtime.policy.phase = .ready → runtime.policy.activeContract.kind = .pps →
    runtime.lastRequestAtMs.isSome
  requestEnds : runtime.policy.phase.negotiates → ∃ deadlineMs, ∀ nowMs ≥ deadlineMs,
    (runtime.pollTimers nowMs).1.policy.phase = .waitingForSourceCapabilities
  refreshEnds : runtime.sourceCapabilitiesRefreshPending = true →
    ∃ deadlineMs, ∀ nowMs ≥ deadlineMs,
      (runtime.pollTimers nowMs).1.sourceCapabilitiesRefreshPending = false
  queried : runtime.policy.phase = .waitingForSourceCapabilities → runtime.polarity.isSome →
    ∃ deadlineMs, ∀ nowMs ≥ deadlineMs, ∀ txSent gcrcSent ok,
      (runtime.handleEmptyEvent nowMs txSent gcrcSent ok).1.lastSourceCapabilitiesRequestAtMs =
        some nowMs
  refreshed : runtime.policy.phase = .ready → runtime.policy.activeContract.kind = .pps →
    ∃ deadlineMs, ∀ nowMs ≥ deadlineMs, ∀ txSent gcrcSent ok,
      let after := (runtime.handleEmptyEvent nowMs txSent gcrcSent ok).1
      after.lastRequestAtMs = some nowMs ∨ after.policy.activeContract.kind = .none

namespace Deadlines

variable {runtime : Fusb302bRuntime}

theorem owes_of_negotiates {policy : SinkPolicy} (h : policy.phase.negotiates) : policy.Owes := by
  obtain h | h := by simpa [SinkPhase.negotiates] using h
  · exact .inl h
  · exact .inr (.inl h)

/-- An answer that stays out until the deadline resets the protocol. -/
theorem requestEnds (h : Deadlines runtime) (hwaits : runtime.policy.phase.negotiates) :
    ∃ deadlineMs, ∀ nowMs ≥ deadlineMs,
      (runtime.pollTimers nowMs).1.policy.phase = .waitingForSourceCapabilities := by
  obtain ⟨deadlineMs, hexpired⟩ := exists_expired (h.request (owes_of_negotiates hwaits))
    fusb302bContractRequestTimeoutMs
  refine ⟨deadlineMs, fun nowMs hnow => ?_⟩
  unfold Fusb302bRuntime.pollTimers Fusb302bRuntime.pollPendingRequest
  simp only [hwaits, hexpired nowMs hnow, and_self, decide_true, not_true_eq_false, if_false]
  split_ifs <;> rfl

theorem refreshEnds (h : Deadlines runtime)
    (hpending : runtime.sourceCapabilitiesRefreshPending = true) :
    ∃ deadlineMs, ∀ nowMs ≥ deadlineMs,
      (runtime.pollTimers nowMs).1.sourceCapabilitiesRefreshPending = false := by
  obtain ⟨deadlineMs, hexpired⟩ := exists_expired (h.refresh hpending)
    fusb302bContractRequestTimeoutMs
  refine ⟨deadlineMs, fun nowMs hnow => ?_⟩
  unfold Fusb302bRuntime.pollTimers Fusb302bRuntime.pollPendingRequest
    Fusb302bRuntime.pollPpsTransitionCapabilityRefresh
  dsimp only
  split_ifs with hkeepalive hrequest hrequest
  · rfl
  · rfl
  · simp only [hpending, hexpired nowMs hnow, and_self, if_true]
    rfl
  · simp only [hpending, hexpired nowMs hnow, and_self, if_true]
    rfl

theorem queried (h : Deadlines runtime)
    (hwaits : runtime.policy.phase = .waitingForSourceCapabilities)
    (hpolarity : runtime.polarity.isSome) :
    ∃ deadlineMs, ∀ nowMs ≥ deadlineMs, ∀ txSent gcrcSent ok,
      (runtime.handleEmptyEvent nowMs txSent gcrcSent ok).1.lastSourceCapabilitiesRequestAtMs =
        some nowMs := by
  obtain ⟨attachedAtMs, hattached⟩ := Option.isSome_iff_exists.mp (h.attached hpolarity)
  refine ⟨max (attachedAtMs + sourceCapsInitialWaitMs)
    (runtime.lastSourceCapabilitiesRequestAtMs.getD 0 + sourceCapsRetryIntervalMs),
    fun nowMs hnow txSent gcrcSent ok => ?_⟩
  have hdue : (runtime.endPartialFrame.noteQuery txSent gcrcSent).sourceCapabilitiesQueryDue
      nowMs = true := by
    have hkept : (runtime.endPartialFrame.noteQuery txSent gcrcSent).attachedAtMs =
        some attachedAtMs ∧ (runtime.endPartialFrame.noteQuery txSent gcrcSent
          ).lastSourceCapabilitiesRequestAtMs = runtime.lastSourceCapabilitiesRequestAtMs := by
      unfold Fusb302bRuntime.noteQuery
      split_ifs <;> exact ⟨hattached, rfl⟩
    simp only [sourceCapabilitiesQueryDue, hkept.1, hkept.2, Option.any_some]
    unfold sourceCapabilitiesRequestDue
    cases hlast : runtime.lastSourceCapabilitiesRequestAtMs with
    | none => simp only [hlast, decide_eq_true_eq] at hnow ⊢; omega
    | some last => simp only [hlast, Option.getD_some, decide_eq_true_eq] at hnow ⊢; omega
  have hended : runtime.endPartialFrame.policy.phase = .waitingForSourceCapabilities := hwaits
  unfold Fusb302bRuntime.handleEmptyEvent
  dsimp only
  rw [if_pos hended, if_neg (not_not.mpr hdue)]
  cases ok <;> rfl

theorem refreshed (h : Deadlines runtime) (hready : runtime.policy.phase = .ready)
    (hpps : runtime.policy.activeContract.kind = .pps) :
    ∃ deadlineMs, ∀ nowMs ≥ deadlineMs, ∀ txSent gcrcSent ok,
      let after := (runtime.handleEmptyEvent nowMs txSent gcrcSent ok).1
      after.lastRequestAtMs = some nowMs ∨ after.policy.activeContract.kind = .none := by
  obtain ⟨deadlineMs, hexpired⟩ := exists_expired (h.request (.inr (.inr hpps)))
    ppsKeepaliveIntervalMs
  refine ⟨deadlineMs, fun nowMs hnow txSent gcrcSent ok => ?_⟩
  have hwaits : runtime.endPartialFrame.policy.phase ≠ .waitingForSourceCapabilities := by
    change runtime.policy.phase ≠ _
    rw [hready]
    nofun
  have hdue : runtime.endPartialFrame.ppsKeepaliveDue nowMs = true :=
    decide_eq_true ⟨hready, hpps, hexpired nowMs hnow⟩
  unfold Fusb302bRuntime.handleEmptyEvent
  dsimp only
  rw [if_neg hwaits, if_pos hdue]
  split
  · exact .inr rfl
  · cases ok with
    | true => exact .inl rfl
    | false => exact .inr rfl

theorem armed (h : Deadlines runtime) : Armed runtime where
  request hwaits := h.request (owes_of_negotiates hwaits)
  refresh := h.refresh
  attached _ := h.attached
  keepalive _ hpps := h.request (.inr (.inr hpps))
  requestEnds := h.requestEnds
  refreshEnds := h.refreshEnds
  queried := h.queried
  refreshed := h.refreshed

end Deadlines

/-- After any operations of the runtime each wait has a deadline. -/
theorem armed_of_reaches (operations : List (ℕ × RuntimeOperation)) (after : Fusb302bRuntime)
    (hrun : Reaches Fusb302bRuntime.Step .new operations after) : Armed after :=
  (Deadlines.reaches hrun).armed

/-- The request that answers the first capabilities has its deadline. -/
theorem armed_of_reaches_offer : ∃ after,
    Reaches Fusb302bRuntime.Step .new [(7, .poll (.receiving [.offer]))] after ∧
      after.policy.phase = .waitingForAccept ∧ after.lastRequestAtMs = some 7 ∧ Armed after :=
  have hrun := Reaches.of_foldl
    (fun (runtime : Fusb302bRuntime) (timed : ℕ × RuntimeOperation) =>
      runtime.perform timed.1 timed.2) .new [(7, .poll (.receiving [.offer]))]
  ⟨_, hrun, by decide +kernel, by decide +kernel, armed_of_reaches _ _ hrun⟩

end FluxPurr.Pd
