import FluxPurr.Pd.PolicyResponses
import FluxPurr.Pd.StatusObservation

/-!
# The events of a poll and the contract

What an event leaves of the contract, the interlocks and the sample of `STATUS0`
(`EventLaw`).  After a withdrawal the negotiation starts again, and the two messages that
may follow in the same poll are not enough to confirm a contract.

VBUS low is on its own: where it lasts, the contract was given up when it began.
-/

namespace FluxPurr.Pd

structure EventLaw (before : Fusb302bRuntime) (trace : List PollStep) (after : Fusb302bRuntime) :
    Prop where
  moves : Moves before.policy (∃ step ∈ trace, step.isPsRdy) after.policy
  withdrawn : (∃ step ∈ trace, step.withdraws) → after.policy.Unconfirmed 2
  low : after.vbusLowInterlocked = false
  awaiting : after.awaitingVbusRestore = before.awaitingVbusRestore
  polarity : after.polarity = before.polarity
  backoff : after.transportRecoveryNotBeforeMs.isSome →
    before.transportRecoveryNotBeforeMs.isSome ∨ after.policy.Unconfirmed 2
  sample : after.vbusStatusObserved = before.vbusStatusObserved ∧
    after.vbusStatusRaw = before.vbusStatusRaw

namespace EventLaw

variable {runtime before : Fusb302bRuntime} {nowMs : ℕ} {trace : List PollStep}

theorem unconfirmed_reset (policy : SinkPolicy) : policy.onReceivedProtocolReset.Unconfirmed 2 :=
  ⟨rfl, le_refl 2⟩

theorem not_withdraws_nil : ¬ ∃ step ∈ ([] : List PollStep), step.withdraws := by simp

theorem recover (fault : TransientTransportFault)
    (hawaiting : runtime.awaitingVbusRestore = before.awaitingVbusRestore)
    (hpolarity : runtime.polarity = before.polarity)
    (hsample : runtime.vbusStatusObserved = before.vbusStatusObserved ∧
      runtime.vbusStatusRaw = before.vbusStatusRaw) :
    EventLaw before trace (runtime.recoverTransientTransportFault fault nowMs) where
  moves := ⟨.inr (.inl rfl), fun _ => Nat.zero_le _, fun hfault => (nomatch hfault)⟩
  withdrawn _ := unconfirmed_reset _
  low := rfl
  awaiting := hawaiting
  polarity := hpolarity
  backoff _ := .inr (unconfirmed_reset _)
  sample := hsample

variable {after : Fusb302bRuntime}

theorem keeps (hmoves : Moves before.policy (∃ step ∈ trace, step.isPsRdy) after.policy)
    (htrace : ∀ step ∈ trace, step.withdraws = false) (hlow : after.vbusLowInterlocked = false)
    (hawaiting : after.awaitingVbusRestore = before.awaitingVbusRestore)
    (hpolarity : after.polarity = before.polarity)
    (hbackoff : after.transportRecoveryNotBeforeMs = before.transportRecoveryNotBeforeMs)
    (hsample : after.vbusStatusObserved = before.vbusStatusObserved ∧
      after.vbusStatusRaw = before.vbusStatusRaw) : EventLaw before trace after where
  moves := hmoves
  withdrawn := by
    rintro ⟨step, hmem, hwithdraws⟩
    rw [htrace step hmem] at hwithdraws
    cases hwithdraws
  low := hlow
  awaiting := hawaiting
  polarity := hpolarity
  backoff h := .inl (hbackoff ▸ h)
  sample := hsample

/-! ## Nothing received -/

@[simp] theorem sourceCapabilitiesQueryDue_noteQuery (txSent gcrcSent : Bool) :
    (runtime.endPartialFrame.noteQuery txSent gcrcSent).sourceCapabilitiesQueryDue nowMs =
      runtime.sourceCapabilitiesQueryDue nowMs := by
  unfold Fusb302bRuntime.noteQuery
  split_ifs <;> rfl

theorem noteQuery (txSent gcrcSent : Bool) :
    EventLaw runtime [] (runtime.endPartialFrame.noteQuery txSent gcrcSent) := by
  have hnone : ∀ step ∈ ([] : List PollStep), step.withdraws = false := fun _ h => (nomatch h)
  unfold Fusb302bRuntime.noteQuery
  split_ifs
  · exact keeps (.refl _ _) hnone rfl rfl rfl rfl ⟨rfl, rfl⟩
  · exact keeps (.refl _ _) hnone rfl rfl rfl rfl ⟨rfl, rfl⟩

theorem emptyEvent (txSent gcrcSent ok : Bool) :
    EventLaw runtime (runtime.emptyTrace nowMs ok)
      (runtime.handleEmptyEvent nowMs txSent gcrcSent ok).1 := by
  have hnone : ∀ step ∈ ([] : List PollStep), step.withdraws = false := fun _ h => (nomatch h)
  have hnoted : EventLaw runtime [] (runtime.endPartialFrame.noteQuery txSent gcrcSent) :=
    noteQuery txSent gcrcSent
  unfold Fusb302bRuntime.handleEmptyEvent Fusb302bRuntime.emptyTrace
  dsimp only
  by_cases hwaits : runtime.policy.phase = .waitingForSourceCapabilities
  · have hended : runtime.endPartialFrame.policy.phase = .waitingForSourceCapabilities := hwaits
    rw [if_pos hended, if_pos hwaits, sourceCapabilitiesQueryDue_noteQuery]
    by_cases hdue : runtime.sourceCapabilitiesQueryDue nowMs = true
    · rw [if_neg (not_not.mpr hdue)]
      cases ok with
      | true =>
        simp only [hdue, not_true_eq_false, and_false, if_false]
        obtain ⟨hmoves, -, hlow, hawaiting, hpolarity, hbackoff, hsample⟩ := hnoted
        exact ⟨hmoves, fun h => absurd h not_withdraws_nil, hlow, hawaiting, hpolarity,
          hbackoff, hsample⟩
      | false => exact recover _ hnoted.awaiting hnoted.polarity hnoted.sample
    · rw [if_pos hdue, if_neg fun h => hdue h.1]
      exact hnoted
  · have hended : runtime.endPartialFrame.policy.phase ≠ .waitingForSourceCapabilities := hwaits
    have hsame : runtime.endPartialFrame.ppsKeepaliveDue nowMs =
      runtime.ppsKeepaliveDue nowMs := rfl
    have hrdo : runtime.endPartialFrame.policy.refreshActivePps =
      runtime.policy.refreshActivePps := rfl
    rw [if_neg hended, if_neg hwaits, hsame, hrdo]
    by_cases hdue : runtime.ppsKeepaliveDue nowMs = true
    · rw [if_pos hdue]
      cases hrefresh : runtime.policy.refreshActivePps with
      | none => exact recover _ rfl rfl ⟨rfl, rfl⟩
      | some rdo =>
        cases ok with
        | true =>
          simp only [hdue, Option.isNone_some, not_true_eq_false, or_self, and_false,
            if_false, Bool.false_eq_true]
          exact keeps (.refl _ _) hnone rfl rfl rfl rfl ⟨rfl, rfl⟩
        | false => exact recover _ rfl rfl ⟨rfl, rfl⟩
    · simp only [hdue, false_and, if_false, Bool.false_eq_true]
      exact keeps (.refl _ _) hnone rfl rfl rfl rfl ⟨rfl, rfl⟩

/-! ## Frames -/

theorem partialEvent (txSent gcrcSent : Bool) (transfers : ReceiveTransfers) :
    EventLaw runtime (runtime.eventTrace nowMs transfers (.partialFrame txSent gcrcSent))
      (runtime.handlePartialEvent nowMs txSent gcrcSent).1 := by
  have hnone : ∀ step ∈ ([] : List PollStep), step.withdraws = false := fun _ h => (nomatch h)
  have hkept : ∀ txSent gcrcSent, (runtime.clearVbusLowInterlock.noteQuery txSent
      gcrcSent).partialRxStartedAtMs = runtime.partialRxStartedAtMs := by
    intro txSent gcrcSent
    unfold Fusb302bRuntime.noteQuery
    split_ifs <;> rfl
  have hnoted : ∀ txSent gcrcSent, EventLaw runtime []
      (runtime.clearVbusLowInterlock.noteQuery txSent gcrcSent) := by
    intro txSent gcrcSent
    unfold Fusb302bRuntime.noteQuery
    split_ifs
    · exact keeps (.refl _ _) hnone rfl rfl rfl rfl ⟨rfl, rfl⟩
    · exact keeps (.refl _ _) hnone rfl rfl rfl rfl ⟨rfl, rfl⟩
  obtain ⟨hmoves, -, hlow, hawaiting, hpolarity, hbackoff, hsample⟩ := hnoted txSent gcrcSent
  unfold Fusb302bRuntime.handlePartialEvent Fusb302bRuntime.eventTrace
  dsimp only
  rw [hkept]
  by_cases htimeout : fusb302bPartialRxTimeoutMs ≤
      nowMs - runtime.partialRxStartedAtMs.getD nowMs
  · rw [if_pos htimeout]
    exact recover _ hawaiting hpolarity hsample
  · have hrunning : expired (some (runtime.partialRxStartedAtMs.getD nowMs))
        fusb302bPartialRxTimeoutMs nowMs ≠ true := by
      simpa only [expired, Option.any_some, ne_eq, decide_eq_true_eq] using htimeout
    rw [if_neg htimeout, if_neg hrunning]
    exact ⟨hmoves, fun h => absurd h not_withdraws_nil, hlow, hawaiting, hpolarity, hbackoff,
      hsample⟩

theorem keepsMessage {packet : PdPacket}
    (hmoves : Moves runtime.policy (packet.payload.isEmpty ∧ packet.messageType =
      SinkPolicy.psRdy) after.policy) (hlow : after.vbusLowInterlocked = false)
    (hawaiting : after.awaitingVbusRestore = runtime.awaitingVbusRestore)
    (hpolarity : after.polarity = runtime.polarity)
    (hbackoff : after.transportRecoveryNotBeforeMs = runtime.transportRecoveryNotBeforeMs)
    (hsample : after.vbusStatusObserved = runtime.vbusStatusObserved ∧
      after.vbusStatusRaw = runtime.vbusStatusRaw) :
    EventLaw runtime [.message packet] after := by
  refine keeps ?_ ?_ hlow hawaiting hpolarity hbackoff hsample
  · obtain ⟨hactive, hstage, hfault⟩ := hmoves
    refine ⟨hactive.imp_right (Or.imp_right (And.imp_left fun hpsRdy => ?_)), hstage, hfault⟩
    exact ⟨.message packet, List.mem_singleton_self _, decide_eq_true hpsRdy⟩
  · intro step hmem
    obtain rfl := List.mem_singleton.mp hmem
    rfl

theorem answerCapabilities (packet : PdPacket) {response : Response}
    (hresponds : Responds runtime.policy response) (ok : Bool) :
    EventLaw runtime
      (if response.rdo.isSome ∧ ¬ ok then [.message packet, .failed] else [.message packet])
      ((runtime.endPartialFrame.storeCapabilities response.policy).answerCapabilities nowMs
        response.rdo ok).1 := by
  have hmoves {isPsRdy : Prop} : Moves runtime.policy isPsRdy response.policy :=
    .of_responds hresponds
  unfold Fusb302bRuntime.answerCapabilities
  cases hrdo : response.rdo with
  | none => exact keepsMessage hmoves rfl rfl rfl rfl ⟨rfl, rfl⟩
  | some rdo =>
    cases ok with
    | true =>
      simp only [Option.isSome_some, not_true_eq_false, and_false, if_false]
      exact keepsMessage hmoves rfl rfl rfl rfl ⟨rfl, rfl⟩
    | false => exact recover _ rfl rfl ⟨rfl, rfl⟩

theorem messageEvent (packet : PdPacket) (ok : Bool) :
    EventLaw runtime (runtime.messageTrace packet ok)
      (runtime.handleMessageEvent nowMs packet ok).1 := by
  unfold Fusb302bRuntime.handleMessageEvent Fusb302bRuntime.messageTrace
  dsimp only
  cases packet.sourceCapabilities with
  | some pdos =>
    unfold Fusb302bRuntime.handleSourceCapabilitiesMessage
    have hended : runtime.endPartialFrame.policy = runtime.policy := rfl
    have hresponse : runtime.endPartialFrame.respondToCapabilities packet.messageId pdos =
      runtime.respondToCapabilities packet.messageId pdos := rfl
    dsimp only
    rw [hended, hresponse]
    by_cases hfresh : runtime.policy.sourceCapabilitiesMessageIsFresh packet.messageId = true
    · rw [if_neg (not_not.mpr hfresh)]
      have hanswered := @answerCapabilities runtime nowMs packet _
        (.respondToCapabilities runtime packet.messageId pdos) ok
      simpa only [hfresh, true_and] using hanswered
    · rw [if_pos hfresh, if_neg fun h => hfresh h.1]
      exact keepsMessage (.refl _ _) rfl rfl rfl rfl ⟨rfl, rfl⟩
  | none =>
    dsimp only
    split_ifs with hempty
    · refine keepsMessage ?_ rfl rfl rfl rfl ⟨rfl, rfl⟩
      have hmoves := Moves.onControlMessage runtime.policy packet.messageType packet.messageId
      exact ⟨hmoves.active.imp_right (Or.imp_right (And.imp_left fun htype =>
        ⟨hempty, htype⟩)), hmoves.stage, hmoves.fault⟩
    · exact keepsMessage (.of_sameNegotiation
        (SinkPolicy.sameNegotiation_onUnhandledDataMessage _ _ _)) rfl rfl rfl rfl ⟨rfl, rfl⟩

/-! ## Resets -/

theorem reset (hpolicy : after.policy = runtime.policy.onReceivedProtocolReset)
    (hlow : after.vbusLowInterlocked = false)
    (hawaiting : after.awaitingVbusRestore = runtime.awaitingVbusRestore)
    (hpolarity : after.polarity = runtime.polarity)
    (hsample : after.vbusStatusObserved = runtime.vbusStatusObserved ∧
      after.vbusStatusRaw = runtime.vbusStatusRaw) : EventLaw runtime trace after where
  moves := hpolicy ▸ .reset _
  withdrawn _ := hpolicy ▸ unconfirmed_reset _
  low := hlow
  awaiting := hawaiting
  polarity := hpolarity
  backoff _ := .inr (hpolicy ▸ unconfirmed_reset _)
  sample := hsample

theorem receivedReset (action : Fusb302bReceivedResetAction) (flushed ok : Bool) :
    EventLaw runtime trace
      (runtime.recoverAfterReceivedReset action nowMs flushed ok).1 := by
  unfold Fusb302bRuntime.recoverAfterReceivedReset
  cases flushed with
  | false => exact reset rfl rfl rfl rfl ⟨rfl, rfl⟩
  | true =>
    cases action with
    | waitForSourceCapabilities => exact reset rfl rfl rfl rfl ⟨rfl, rfl⟩
    | acceptAndWaitForSourceCapabilities =>
      cases ok with
      | true => exact reset rfl rfl rfl rfl ⟨rfl, rfl⟩
      | false => exact recover _ rfl rfl ⟨rfl, rfl⟩

theorem protectionEvent : EventLaw runtime trace runtime.handleProtectionEvent.1 where
  moves := .markFault _
  withdrawn _ := ⟨rfl, le_refl 2⟩
  low := rfl
  awaiting := rfl
  polarity := rfl
  backoff h := .inl h
  sample := ⟨rfl, rfl⟩

theorem handleEvent (transfers : ReceiveTransfers) {event : Fusb302bReceiveEvent}
    (hevent : event.isVbusLow = false) :
    EventLaw runtime (runtime.eventTrace nowMs transfers event)
      (runtime.handleEvent nowMs transfers event).1 := by
  cases event with
  | vbusLow transition => cases hevent
  | empty txSent gcrcSent => exact emptyEvent txSent gcrcSent _
  | partialFrame txSent gcrcSent => exact partialEvent txSent gcrcSent transfers
  | message packet => exact messageEvent packet _
  | receivedReset action => exact receivedReset action _ _
  | retryFailed => exact recover _ rfl rfl ⟨rfl, rfl⟩
  | protection => exact protectionEvent
  | unsupportedSop => exact recover _ rfl rfl ⟨rfl, rfl⟩

end EventLaw

/-! ## VBUS low -/

structure LowLaw (before after : Fusb302bRuntime) : Prop where
  interlocked : after.vbusLowInterlocked = true
  active : after.policy.activeContract = before.policy.activeContract ∨
    after.policy.activeContract = .none
  withdrawn : before.vbusLowInterlocked = true ∨ after.policy.activeContract = .none
  fault : after.policy.phase = .fault → before.policy.phase = .fault
  polarity : after.polarity = before.polarity
  backoff : after.transportRecoveryNotBeforeMs = before.transportRecoveryNotBeforeMs
  observed : after.vbusStatusObserved = true → before.vbusStatusObserved = true

namespace LowLaw

variable {runtime : Fusb302bRuntime} {nowMs : ℕ}

theorem interlockAfterVbusLow : LowLaw runtime (runtime.interlockAfterVbusLow nowMs) := by
  unfold Fusb302bRuntime.interlockAfterVbusLow
  split_ifs with hlow
  · exact ⟨hlow, .inl rfl, .inl hlow, id, rfl, rfl, id⟩
  · exact ⟨rfl, .inr rfl, .inr rfl, fun h => (nomatch h), rfl, rfl, fun h => (nomatch h)⟩

theorem handleVbusLowEvent (transition : Bool) :
    LowLaw runtime (runtime.handleVbusLowEvent nowMs transition) := by
  obtain ⟨hinterlocked, hactive, hwithdrawn, hfault, hpolarity, hbackoff, hobserved⟩ :=
    @interlockAfterVbusLow runtime nowMs
  unfold Fusb302bRuntime.handleVbusLowEvent
  dsimp only
  split_ifs <;>
    exact ⟨hinterlocked, hactive, hwithdrawn, hfault, hpolarity, hbackoff, hobserved⟩

end LowLaw

/-! ## One event -/

/-- The sample with which an event was seen. -/
def Fusb302bRuntime.sampled (runtime : Fusb302bRuntime) (status0 : UInt8) (observed : Bool) :
    Fusb302bRuntime :=
  { runtime with vbusStatusRaw := status0, vbusStatusObserved := observed }

open Fusb302bRuntime

theorem vbusOk_of_receiveEvent {transfers : ReceiveTransfers} {retryFailRecoveryPending : Bool}
    {event : Fusb302bReceiveEvent} {status0 : UInt8}
    (h : fusb302bReceiveEvent transfers retryFailRecoveryPending = .ok (event, status0))
    (hevent : event.isVbusLow = false) : PhyStatus.vbusOk status0 = true := by
  unfold fusb302bReceiveEvent at h
  split at h
  · cases h
  · cases h
  · rename_i interrupts status _ _
    by_cases hok : PhyStatus.vbusOk status.status0 = true
    · have hstatus : status0 = status.status0 := by
        dsimp only at h
        rw [if_neg (not_not.mpr hok)] at h
        split at h
        · cases h
          rfl
        · split_ifs at h <;> first | (cases h; rfl) | skip
          split at h <;> first | (cases h; rfl) | cases h
      rw [hstatus]
      exact hok
    · dsimp only at h
      rw [if_pos hok] at h
      cases h
      cases hevent

inductive ReceiveOutcome (runtime : Fusb302bRuntime) (trace : List PollStep)
    (after : Fusb302bRuntime) (receivedMessage : Bool) : Prop
  | failed (htrace : trace = [.failed]) (hmessage : receivedMessage = false)
      (hlaw : EventLaw runtime trace after)
  | low (status0 : UInt8) (htrace : trace = [.sampled status0, .vbusLow])
      (hmessage : receivedMessage = false) (hlaw : LowLaw (runtime.sampled status0 false) after)
  | event (status0 : UInt8) (handled : List PollStep)
      (htrace : trace = .sampled status0 :: handled) (hok : PhyStatus.vbusOk status0 = true)
      (hlaw : EventLaw (runtime.sampled status0 true) handled after)

theorem pollReceiveEvent_cases (runtime : Fusb302bRuntime) (nowMs : ℕ)
    (transfers : ReceiveTransfers) :
    ReceiveOutcome runtime (runtime.receiveTrace nowMs transfers)
      (runtime.pollReceiveEvent nowMs transfers).1.1
      (runtime.pollReceiveEvent nowMs transfers).2 := by
  unfold receiveTrace pollReceiveEvent
  cases hreceive : fusb302bReceiveEvent transfers runtime.retryFailRecoveryPending with
  | error fault => exact .failed rfl rfl (.recover _ rfl rfl ⟨rfl, rfl⟩)
  | ok observation =>
    obtain ⟨event, status0⟩ := observation
    dsimp only
    cases hevent : event.isVbusLow with
    | true =>
      cases event <;> cases hevent
      exact .low status0 rfl rfl (.handleVbusLowEvent _)
    | false =>
      refine .event status0 (runtime.eventTrace nowMs transfers event) rfl
        (vbusOk_of_receiveEvent hreceive hevent) ?_
      have hlaw := @EventLaw.handleEvent (runtime.sampled status0 true) nowMs transfers _ hevent
      cases event <;> exact hlaw

/-! ## The events of one poll -/

/-- At most `limit` events, as the poll handles them. -/
inductive ReceiveRun : ℕ → Fusb302bRuntime → List PollStep → Fusb302bRuntime → Prop
  | done (runtime : Fusb302bRuntime) : ReceiveRun 0 runtime [] runtime
  | last {limit : ℕ} {runtime after : Fusb302bRuntime} {trace : List PollStep}
      {receivedMessage : Bool} (houtcome : ReceiveOutcome runtime trace after receivedMessage) :
      ReceiveRun (limit + 1) runtime trace after
  | more {limit : ℕ} {runtime between after : Fusb302bRuntime} {handled rest : List PollStep}
      (status0 : UInt8) (hok : PhyStatus.vbusOk status0 = true)
      (hlaw : EventLaw (runtime.sampled status0 true) handled between)
      (hrest : ReceiveRun limit between rest after) :
      ReceiveRun (limit + 1) runtime (.sampled status0 :: handled ++ rest) after

theorem pollReceiveMessages_run (nowMs : ℕ) (receive : ℕ → ReceiveTransfers) (limit : ℕ)
    (runtime : Fusb302bRuntime) :
    ReceiveRun limit runtime (messagesTrace nowMs receive limit runtime)
      (pollReceiveMessages nowMs receive limit runtime).1 := by
  induction limit generalizing runtime with
  | zero => exact .done runtime
  | succ limit ih =>
    have houtcome := pollReceiveEvent_cases runtime nowMs
      (receive (fusb302bRxBurstLimit - (limit + 1)))
    unfold messagesTrace pollReceiveMessages
    dsimp only
    split_ifs with hends
    · rw [List.append_nil]
      exact .last houtcome
    · obtain ⟨-, hmessage⟩ := not_or.mp hends
      rw [not_not] at hmessage
      cases houtcome with
      | failed _ hno _ => rw [hno] at hmessage; cases hmessage
      | low _ _ hno _ => rw [hno] at hmessage; cases hmessage
      | event status0 handled htrace hok hlaw =>
        rw [htrace]
        exact .more status0 hok hlaw (ih _)

end FluxPurr.Pd
