import FluxPurr.Pd.Fusb302bRuntime

/-!
# A poll of the PD runtime

A poll waits for VBUS to come back, for an attachment, or else handles up to three events of
the PHY and looks at the timers.  The registers and messages that it reads are given, with
whether each transfer succeeds (`PollTransfers`).  `receiveEvent` finds the event in the
registers; each event has a handler.

The second component of a handler's result says whether the poll may go on.
-/

namespace FluxPurr.Pd

open FluxPurr.Wire

/-! ## The registers of the PHY -/

abbrev fusb302bStatus0CrcCheck : UInt8 := 0x10
abbrev fusb302bStatus0aRetryFail : UInt8 := 0x10
abbrev fusb302bStatus0Vbusok : UInt8 := 0x80
abbrev fusb302bStatus1RxEmpty : UInt8 := 0x20
abbrev fusb302bStatus1Overtemp : UInt8 := 0x02
abbrev fusb302bStatus1VconnOcp : UInt8 := 0x01
abbrev fusb302bStatus1aRxsop : UInt8 := 0x01
abbrev fusb302bTogssMask : UInt8 := 0x38
abbrev fusb302bTogssSnkCc1 : UInt8 := 0x28
abbrev fusb302bTogssSnkCc2 : UInt8 := 0x30
abbrev fusb302bInterruptaTxSent : UInt8 := 0x04
abbrev fusb302bInterruptVbusok : UInt8 := 0x80
abbrev fusb302bInterruptaSoftReset : UInt8 := 0x02
abbrev fusb302bInterruptaHardReset : UInt8 := 0x01
abbrev fusb302bInterruptbGcrcSent : UInt8 := 0x01
abbrev fusb302bRxBurstLimit : ℕ := 3
abbrev ppsKeepaliveIntervalMs : ℕ := 5000
abbrev sourceCapsInitialWaitMs : ℕ := 400
abbrev sourceCapsRetryIntervalMs : ℕ := 5000

structure Interrupts where
  interrupt : UInt8
  interruptA : UInt8
  interruptB : UInt8

structure PhyStatus where
  status0a : UInt8
  status1a : UInt8
  status0 : UInt8
  status1 : UInt8

def PhyStatus.vbusOk (status0 : UInt8) : Bool := status0 &&& fusb302bStatus0Vbusok ≠ 0

def fusb302bSettledSinkPolarity (status1a : UInt8) : Option CcPin :=
  if status1a &&& fusb302bTogssMask = fusb302bTogssSnkCc1 then some .cc1
  else if status1a &&& fusb302bTogssMask = fusb302bTogssSnkCc2 then some .cc2
  else none

/-- A message of the source on SOP. -/
structure PdPacket where
  header : UInt16
  payload : List UInt8

namespace PdPacket

def messageType (packet : PdPacket) : UInt8 := (packet.header &&& 0x1f).toUInt8

def messageId (packet : PdPacket) : Option UInt8 := some ((packet.header >>> 9).toUInt8 &&& 0x07)

/-- The words of a complete `Source_Capabilities` message. -/
def sourceCapabilities (packet : PdPacket) : Option (List UInt32) :=
  let count := ((packet.header >>> 12).toUInt8 &&& 0x07).toNat
  if packet.messageType ≠ 1 ∨ count = 0 ∨ packet.payload.length ≠ count * 4 then none
  else some ((List.range count).map fun index => readU32 packet.payload (index * 4))

end PdPacket

namespace PdPacket

/-- The first offer of a source: 5 V with 3 A. -/
def offer : PdPacket := ⟨0x1001, [0x2c, 0x91, 0x01, 0x00]⟩

def accepted : PdPacket := ⟨0x0203, []⟩

def psReady : PdPacket := ⟨0x0406, []⟩

end PdPacket

/-- What the receive FIFO gives. -/
inductive Received where
  | none
  | packet (packet : PdPacket)
  /-- A packet that is not SOP or not well formed. -/
  | unsupported
  | failed

/-- The transfers of one event. -/
structure ReceiveTransfers where
  interrupts : Option Interrupts
  status : Option PhyStatus
  /-- A frame of a failed retry is discarded. -/
  flushed : Bool
  received : Received
  /-- The answer to the event is sent. -/
  sent : Bool

inductive Fusb302bReceivedResetAction where
  | acceptAndWaitForSourceCapabilities
  | waitForSourceCapabilities

inductive Fusb302bReceiveEvent where
  | empty (txSent gcrcSent : Bool)
  | partialFrame (txSent gcrcSent : Bool)
  | message (packet : PdPacket)
  | vbusLow (transition : Bool)
  | receivedReset (action : Fusb302bReceivedResetAction)
  | retryFailed
  | protection
  | unsupportedSop

namespace Fusb302bReceiveEvent

def isMessage : Fusb302bReceiveEvent → Bool
  | message _ => true
  | _ => false

def isVbusLow : Fusb302bReceiveEvent → Bool
  | vbusLow _ => true
  | _ => false

end Fusb302bReceiveEvent

inductive Fusb302bReceiveFault where
  | interruptRead
  | statusRead
  | receiveFifoFlush
  | packetReceive

def fusb302bReceivedResetAction (interruptA : UInt8) : Option Fusb302bReceivedResetAction :=
  if interruptA &&& fusb302bInterruptaHardReset ≠ 0 then some .waitForSourceCapabilities
  else if interruptA &&& fusb302bInterruptaSoftReset ≠ 0 then
    some .acceptAndWaitForSourceCapabilities
  else none

/-- The event and the `STATUS0` it was seen with. -/
def fusb302bReceiveEvent (transfers : ReceiveTransfers) (retryFailRecoveryPending : Bool) :
    Except Fusb302bReceiveFault (Fusb302bReceiveEvent × UInt8) :=
  match transfers.interrupts, transfers.status with
  | none, _ => .error .interruptRead
  | _, none => .error .statusRead
  | some interrupts, some status =>
      let txSent : Bool := interrupts.interruptA &&& fusb302bInterruptaTxSent ≠ 0
      let gcrcSent : Bool := interrupts.interruptB &&& fusb302bInterruptbGcrcSent ≠ 0
      let rxEmpty : Bool := status.status1 &&& fusb302bStatus1RxEmpty ≠ 0
      if ¬ PhyStatus.vbusOk status.status0 then
        .ok (.vbusLow (interrupts.interrupt &&& fusb302bInterruptVbusok ≠ 0), status.status0)
      else
        match fusb302bReceivedResetAction interrupts.interruptA with
        | some action => .ok (.receivedReset action, status.status0)
        | none =>
            if ¬ retryFailRecoveryPending ∧
                status.status0a &&& fusb302bStatus0aRetryFail ≠ 0 then
              .ok (.retryFailed, status.status0)
            else if status.status1 &&&
                (fusb302bStatus1Overtemp ||| fusb302bStatus1VconnOcp) ≠ 0 then
              .ok (.protection, status.status0)
            else if retryFailRecoveryPending ∧ ¬ rxEmpty then
              if transfers.flushed then .ok (.empty txSent gcrcSent, status.status0)
              else .error .receiveFifoFlush
            else if rxEmpty then .ok (.empty txSent gcrcSent, status.status0)
            else if status.status0 &&& fusb302bStatus0CrcCheck = 0 ∨
                status.status1a &&& fusb302bStatus1aRxsop = 0 then
              .ok (.partialFrame txSent gcrcSent, status.status0)
            else
              match transfers.received with
              | .none => .ok (.empty txSent gcrcSent, status.status0)
              | .packet packet => .ok (.message packet, status.status0)
              | .unsupported => .ok (.unsupportedSop, status.status0)
              | .failed => .error .packetReceive

/-- Everything that one poll may read. -/
structure PollTransfers where
  /-- `STATUS0` while VBUS is awaited. -/
  restoreStatus : Option UInt8
  /-- The protocol engine is reset once VBUS is back. -/
  resynchronized : Bool
  /-- `STATUS1A` while an attachment is awaited. -/
  attachStatus : Option UInt8
  configured : Bool
  receive : ℕ → ReceiveTransfers

namespace PollTransfers

/-- A source on CC1 that sends these messages while VBUS is present. -/
def receiving (packets : List PdPacket) : PollTransfers where
  restoreStatus := none
  resynchronized := false
  attachStatus := some fusb302bTogssSnkCc1
  configured := true
  receive index :=
    { interrupts := some ⟨0, 0, 0⟩
      status := some ⟨0, fusb302bStatus1aRxsop,
        fusb302bStatus0Vbusok ||| fusb302bStatus0CrcCheck,
        if index < packets.length then 0 else fusb302bStatus1RxEmpty⟩
      flushed := true
      received := packets[index]?.elim .none .packet
      sent := true }

/-- VBUS is gone. -/
def vbusLost : PollTransfers :=
  { receiving [] with
    receive _ :=
      { (receiving []).receive 0 with status := some ⟨0, 0, 0, fusb302bStatus1RxEmpty⟩ } }

end PollTransfers

/-- A period that has run since an instant, if there is one. -/
def expired (sinceMs : Option ℕ) (periodMs nowMs : ℕ) : Bool :=
  sinceMs.any fun sinceMs => periodMs ≤ nowMs - sinceMs

def sourceCapabilitiesRequestDue (attachedAtMs : ℕ) (lastRequestAtMs : Option ℕ) (nowMs : ℕ) :
    Bool :=
  match lastRequestAtMs with
  | some lastRequestAtMs => sourceCapsRetryIntervalMs ≤ nowMs - lastRequestAtMs
  | none => sourceCapsInitialWaitMs ≤ nowMs - attachedAtMs

namespace Fusb302bRuntime

variable (runtime : Fusb302bRuntime)

/-- A step that ends in a recovery lets the poll go on. -/
def recover (fault : TransientTransportFault) (nowMs : ℕ) : Fusb302bRuntime × Bool :=
  (runtime.recoverTransientTransportFault fault nowMs, true)

variable (nowMs : ℕ)

/-- The message is sent and `sent` follows, or the transport recovers. -/
def answer (ok : Bool) (sent : Fusb302bRuntime → Fusb302bRuntime) : Fusb302bRuntime × Bool :=
  match runtime.transmit ok with
  | none => runtime.recover .transmitIoError nowMs
  | some runtime => (sent runtime, true)

/-! ## The events -/

/-- VBUS low ends the contract at once, and the session where the low lasts. -/
def handleVbusLowEvent (transition : Bool) : Fusb302bRuntime :=
  let runtime := runtime.interlockAfterVbusLow nowMs
  let runtime := if transition ∧ runtime.vbusLowCandidateSinceMs.isNone then
    { runtime with vbusLowCandidateSinceMs := some nowMs } else runtime
  if expired runtime.vbusLowCandidateSinceMs fusb302bVbusLowConfirmMs nowMs then
    { runtime with vbusRestoreCandidateSinceMs := none, awaitingVbusRestore := true }
  else runtime

def sourceCapabilitiesQueryDue : Bool :=
  runtime.attachedAtMs.any fun attachedAtMs =>
    sourceCapabilitiesRequestDue attachedAtMs runtime.lastSourceCapabilitiesRequestAtMs nowMs

def ppsKeepaliveDue : Bool :=
  runtime.policy.phase = .ready ∧ runtime.policy.activeContract.kind = .pps ∧
    expired runtime.lastRequestAtMs ppsKeepaliveIntervalMs nowMs

/-- What the PHY reports of the last query. -/
def noteQuery (txSent gcrcSent : Bool) : Fusb302bRuntime :=
  if runtime.policy.phase = .waitingForSourceCapabilities then
    { runtime with
      sourceCapabilitiesTxConfirmed := runtime.sourceCapabilitiesTxConfirmed || txSent
      sourceCapabilitiesGcrcSeen := runtime.sourceCapabilitiesGcrcSeen || gcrcSent }
  else runtime

/-- No frame is under way. -/
def endPartialFrame : Fusb302bRuntime :=
  { runtime.clearVbusLowInterlock with partialRxStartedAtMs := none }

/-- Nothing was received: the capabilities are asked for again, or the contract is kept
alive. -/
def handleEmptyEvent (txSent gcrcSent ok : Bool) : Fusb302bRuntime × Bool :=
  let runtime := runtime.endPartialFrame
  if runtime.policy.phase = .waitingForSourceCapabilities then
    let runtime := runtime.noteQuery txSent gcrcSent
    if ¬ runtime.sourceCapabilitiesQueryDue nowMs then (runtime, true)
    else
      runtime.answer nowMs ok fun runtime => { runtime with
        retryFailRecoveryPending := false
        sourceCapabilitiesTxConfirmed := false
        sourceCapabilitiesGcrcSeen := false
        lastSourceCapabilitiesRequestAtMs := some nowMs
        sourceCapabilitiesQuerySent := true }
  else if runtime.ppsKeepaliveDue nowMs then
    match runtime.policy.refreshActivePps with
    | none => runtime.recover .configurationIoError nowMs
    | some _ =>
        runtime.answer nowMs ok fun runtime => { runtime with
          lastRequestAtMs := some nowMs
          ppsKeepalivePendingAtMs := some nowMs }
  else (runtime, true)

def handlePartialEvent (txSent gcrcSent : Bool) : Fusb302bRuntime × Bool :=
  let runtime := runtime.clearVbusLowInterlock.noteQuery txSent gcrcSent
  let startedAtMs := runtime.partialRxStartedAtMs.getD nowMs
  let runtime := { runtime with partialRxStartedAtMs := some startedAtMs }
  if fusb302bPartialRxTimeoutMs ≤ nowMs - startedAtMs then
    runtime.recover .partialReceiveTimeout nowMs
  else (runtime, true)

/-- The capabilities that were asked for have come. -/
def storeCapabilities (policy : SinkPolicy) : Fusb302bRuntime :=
  { runtime with
    policy := policy
    sourceCapabilitiesRefreshPending := false
    sourceCapabilitiesRefreshForContract := false
    sourceCapabilitiesRefreshRequestedAtMs := none
    sourceCapabilitiesTxConfirmed := false
    sourceCapabilitiesGcrcSeen := false
    retryFailRecoveryPending := false }

/-- The request that answers the capabilities, if there is one. -/
def answerCapabilities (rdo : Option Rdo) (ok : Bool) : Fusb302bRuntime × Bool :=
  match rdo with
  | some _ =>
      runtime.answer nowMs ok fun runtime => { runtime with
        lastRequestAtMs := some nowMs
        idleTransitionLastStepAtMs :=
          if runtime.idleTransitionTargetMv.isSome ∧
              runtime.policy.pendingContract.kind = .pps then some nowMs
          else runtime.idleTransitionLastStepAtMs
        lastSourceCapabilitiesRequestAtMs := none }
  | none => ({ runtime with lastSourceCapabilitiesRequestAtMs := some nowMs }, true)

/-- A ready contract is kept where the capabilities were not asked for by a request. -/
def respondToCapabilities (messageId : Option UInt8) (pdos : List UInt32) : Response :=
  if runtime.policy.phase = .ready ∧ ¬ runtime.sourceCapabilitiesRefreshForContract then
    runtime.policy.refreshSourceCapabilitiesWithMessageId pdos messageId
  else runtime.policy.onSourceCapabilitiesWithMessageId pdos messageId

def handleSourceCapabilitiesMessage
    (messageId : Option UInt8) (pdos : List UInt32) (ok : Bool) : Fusb302bRuntime × Bool :=
  if ¬ runtime.policy.sourceCapabilitiesMessageIsFresh messageId then (runtime, true)
  else
    let response := runtime.respondToCapabilities messageId pdos
    (runtime.storeCapabilities response.policy).answerCapabilities nowMs response.rdo ok

/-- The message is an answer to a keepalive. -/
def ppsKeepaliveResponseIsValid (packet : PdPacket) : Bool :=
  runtime.ppsKeepalivePendingAtMs.isSome ∧ runtime.policy.phase = .ready ∧
    runtime.policy.sourceCapabilitiesMessageIsFresh packet.messageId ∧
    (packet.messageType = SinkPolicy.accept ∨ packet.messageType = SinkPolicy.reject ∨
      packet.messageType = SinkPolicy.psRdy ∨ packet.messageType = SinkPolicy.wait)

/-- The message declines the request that is pending. -/
def responseRejectsPendingRequest (packet : PdPacket) : Bool :=
  runtime.policy.sourceCapabilitiesMessageIsFresh packet.messageId ∧
    runtime.policy.phase.negotiates ∧
    (packet.messageType = SinkPolicy.reject ∨ packet.messageType = SinkPolicy.wait)

def handleControlMessage (packet : PdPacket) (nowMs : ℕ) : Fusb302bRuntime :=
  let policy :=
    runtime.policy.onControlMessageWithMessageId packet.messageType packet.messageId
  let confirms : Bool := runtime.policy.phase = .waitingForPsRdy ∧ policy.phase = .ready
  { runtime with
    policy := policy
    requestRejected := runtime.requestRejected || runtime.responseRejectsPendingRequest packet
    sourceCapabilitiesQuerySent := runtime.sourceCapabilitiesQuerySent &&
      ¬ (runtime.policy.phase ≠ .waitingForSourceCapabilities ∧
        policy.phase = .waitingForSourceCapabilities)
    ppsKeepalivePendingAtMs :=
      if runtime.ppsKeepaliveResponseIsValid packet then none
      else runtime.ppsKeepalivePendingAtMs
    lastSourceCapabilitiesRequestAtMs :=
      if confirms then some nowMs else runtime.lastSourceCapabilitiesRequestAtMs
    requestTimedOut := runtime.requestTimedOut && ¬ confirms }

def handleMessageEvent (packet : PdPacket) (ok : Bool) : Fusb302bRuntime × Bool :=
  let runtime := runtime.endPartialFrame
  match packet.sourceCapabilities with
  | some pdos => runtime.handleSourceCapabilitiesMessage nowMs packet.messageId pdos ok
  | none =>
      if packet.payload.isEmpty then (runtime.handleControlMessage packet nowMs, true)
      else
        ({ runtime with
            policy := runtime.policy.onUnhandledDataMessageWithMessageId packet.messageId
              runtime.sourceCapabilitiesQuerySent },
          true)

/-- A reset by the source keeps the CC session. -/
def recoverAfterReceivedReset
    (action : Fusb302bReceivedResetAction) (nowMs : ℕ) (flushed ok : Bool) :
    Fusb302bRuntime × Bool :=
  let runtime := { (runtime.resetProtocol nowMs).clearVbusLowInterlock with nextMessageId := 0 }
  if ¬ flushed then (runtime, true)
  else
    match action with
    | .waitForSourceCapabilities => (runtime, true)
    | .acceptAndWaitForSourceCapabilities => runtime.answer nowMs ok id

/-- A protection event ends the service. -/
def handleProtectionEvent : Fusb302bRuntime × Bool :=
  ({ runtime.clearVbusLowInterlock with policy := runtime.policy.markFault }, false)

def handleEvent (transfers : ReceiveTransfers) :
    Fusb302bReceiveEvent → Fusb302bRuntime × Bool
  | .vbusLow transition => (runtime.handleVbusLowEvent nowMs transition, true)
  | .empty txSent gcrcSent => runtime.handleEmptyEvent nowMs txSent gcrcSent transfers.sent
  | .partialFrame txSent gcrcSent => runtime.handlePartialEvent nowMs txSent gcrcSent
  | .message packet => runtime.handleMessageEvent nowMs packet transfers.sent
  | .receivedReset action =>
      runtime.recoverAfterReceivedReset action nowMs transfers.flushed transfers.sent
  | .retryFailed => runtime.clearVbusLowInterlock.recover .retryFailed nowMs
  | .protection => runtime.handleProtectionEvent
  | .unsupportedSop => runtime.clearVbusLowInterlock.recover .receiveIoError nowMs

/-- The state after an event, whether the poll may go on and whether the event was a
message. -/
def pollReceiveEvent (transfers : ReceiveTransfers) : (Fusb302bRuntime × Bool) × Bool :=
  match fusb302bReceiveEvent transfers runtime.retryFailRecoveryPending with
  | .error _ => (runtime.recover .receiveIoError nowMs, false)
  | .ok (event, status0) =>
      let runtime := { runtime with
        vbusStatusRaw := status0
        vbusStatusObserved := ¬ event.isVbusLow }
      (runtime.handleEvent nowMs transfers event, event.isMessage)

/-- At most `limit` events, as long as they are messages. -/
def pollReceiveMessages (nowMs : ℕ) (receive : ℕ → ReceiveTransfers) :
    ℕ → Fusb302bRuntime → Fusb302bRuntime × Bool
  | 0, runtime => (runtime, true)
  | limit + 1, runtime =>
      let ((after, result), receivedMessage) :=
        runtime.pollReceiveEvent nowMs (receive (fusb302bRxBurstLimit - (limit + 1)))
      if ¬ result ∨ ¬ receivedMessage then (after, result)
      else pollReceiveMessages nowMs receive limit after

/-! ## The steps of a poll -/

/-- VBUS is awaited, and the protocol engine is reset once it is back. -/
def pollVbusRestore (transfers : PollTransfers) : Option (Fusb302bRuntime × Bool) :=
  if ¬ runtime.awaitingVbusRestore then none
  else
    match transfers.restoreStatus with
    | none => some (runtime.recover .receiveIoError nowMs)
    | some status0 =>
        let runtime := { runtime with vbusStatusRaw := status0 }
        if ¬ PhyStatus.vbusOk status0 then
          some ({ runtime with vbusRestoreCandidateSinceMs := none }, true)
        else
          let restoreStarted := runtime.vbusRestoreCandidateSinceMs.getD nowMs
          let runtime := { runtime with vbusRestoreCandidateSinceMs := some restoreStarted }
          if ¬ expired (some restoreStarted) fusb302bVbusRestoreConfirmMs nowMs then
            some (runtime, true)
          else if ¬ transfers.resynchronized then some (runtime, true)
          else
            some ({ runtime with
              nextMessageId := 0
              awaitingVbusRestore := false
              vbusRestoreCandidateSinceMs := none
              vbusLowCandidateSinceMs := none
              vbusLowInterlocked := false }, true)

/-- The end of the poll, or the runtime with which it goes on. -/
def pollAttachment (transfers : PollTransfers) : (Fusb302bRuntime × Bool) ⊕ Fusb302bRuntime :=
  if runtime.polarity.isSome then .inr runtime
  else
    match transfers.attachStatus with
    | none => .inl (runtime.recover .receiveIoError nowMs)
    | some status1a =>
        match fusb302bSettledSinkPolarity status1a with
        | none => .inl (runtime, true)
        | some polarity =>
            if ¬ transfers.configured then .inl (runtime.recover .configurationIoError nowMs)
            else
              .inr { runtime with
                polarity := some polarity
                policy := runtime.policy.onAttachmentDetected
                attachedAtMs := some nowMs
                partialRxStartedAtMs := none }

/-- An answer that stays out fails the request, but not the keepalive. -/
def pollPendingRequest : (Fusb302bRuntime × Bool) ⊕ Fusb302bRuntime :=
  let pending : Bool := runtime.policy.phase.negotiates ∧
    expired runtime.lastRequestAtMs fusb302bContractRequestTimeoutMs nowMs
  let runtime := if expired runtime.ppsKeepalivePendingAtMs
      fusb302bPpsKeepaliveResponseTimeoutMs nowMs then
    { runtime with ppsKeepalivePendingAtMs := none, lastRequestAtMs := some nowMs } else runtime
  if ¬ pending then .inr runtime
  else .inl (recover { runtime with requestTimedOut := true } .pendingRequestTimeout nowMs)

def pollPpsTransitionCapabilityRefresh : Fusb302bRuntime :=
  if runtime.sourceCapabilitiesRefreshPending ∧
      expired runtime.sourceCapabilitiesRefreshRequestedAtMs fusb302bContractRequestTimeoutMs
        nowMs then
    { runtime.clearContractAuthorization nowMs with requestTimedOut := true }
  else runtime

def pollTransportRetryDue : Bool :=
  runtime.transportRecoveryNotBeforeMs.all fun notBeforeMs => notBeforeMs ≤ nowMs

/-- The timers that are looked at after the events. -/
def pollTimers : Fusb302bRuntime × Bool :=
  match runtime.pollPendingRequest nowMs with
  | .inl result => result
  | .inr runtime => (runtime.pollPpsTransitionCapabilityRefresh nowMs, true)

/-- The events and then the timers. -/
def pollAttached (transfers : PollTransfers) : Fusb302bRuntime × Bool :=
  let (runtime, result) :=
    pollReceiveMessages nowMs transfers.receive fusb302bRxBurstLimit runtime
  if ¬ result then (runtime, false) else runtime.pollTimers nowMs

def poll (transfers : PollTransfers) : Fusb302bRuntime × Bool :=
  let runtime := { runtime with vbusStatusObserved := false, vbusStatusRaw := 0 }
  if ¬ runtime.pollTransportRetryDue nowMs then (runtime, false)
  else
    let runtime := { runtime with transportRecoveryNotBeforeMs := none }
    if runtime.policy.phase = .fault then (runtime, false)
    else
      match runtime.pollVbusRestore nowMs transfers with
      | some result => result
      | none =>
          match runtime.pollAttachment nowMs transfers with
          | .inl result => result
          | .inr runtime => runtime.pollAttached nowMs transfers

end Fusb302bRuntime

/-- Everything the PD service does to its runtime. -/
inductive RuntimeOperation where
  | poll (transfers : PollTransfers)
  | requestContract (request : PdContractRequest) (replacePending : Bool)
      (transfers : CommandTransfers)
  | refreshSourceCapabilities (replacePending requestContract : Bool)
      (transfers : CommandTransfers)
  | requestAutomaticIdleContract (replacePending : Bool) (transfers : CommandTransfers)
  | advanceAutomaticIdleTransition (transfers : CommandTransfers)
  | abortPendingOperation (transfers : CommandTransfers)
  | setStandbyMinimumMv (minimumMv : ℕ)

namespace Fusb302bRuntime

def perform (runtime : Fusb302bRuntime) (nowMs : ℕ) : RuntimeOperation → Fusb302bRuntime
  | .poll transfers => (runtime.poll nowMs transfers).1
  | .requestContract request replacePending transfers =>
      (runtime.requestContract request nowMs replacePending transfers).2
  | .refreshSourceCapabilities replacePending requestContract transfers =>
      (runtime.refreshSourceCapabilities nowMs replacePending requestContract transfers).2
  | .requestAutomaticIdleContract replacePending transfers =>
      (runtime.requestAutomaticIdleContract nowMs replacePending transfers).2
  | .advanceAutomaticIdleTransition transfers =>
      (runtime.advanceAutomaticIdleTransition nowMs transfers).2
  | .abortPendingOperation transfers => runtime.abortPendingOperation nowMs transfers
  | .setStandbyMinimumMv minimumMv =>
      { runtime with policy := runtime.policy.setStandbyMinimumMv minimumMv }

/-- One operation at some time. -/
def Step (before : Fusb302bRuntime) (timed : ℕ × RuntimeOperation) (after : Fusb302bRuntime) :
    Prop :=
  after = before.perform timed.1 timed.2

end Fusb302bRuntime

end FluxPurr.Pd
