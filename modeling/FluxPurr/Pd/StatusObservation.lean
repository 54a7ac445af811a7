import FluxPurr.Pd.Fusb302bPoll

/-!
# What a poll reports

After each poll the service publishes what it has seen of the contract, if anything
(`pdStatusObservation`).  `pollTrace` lists what a poll handles, in order: the samples of
`STATUS0`, the messages, and everything that withdraws the contract.
-/

namespace FluxPurr.Pd

/-! ## The observation -/

structure Status where
  bcActive : Bool
  qc2Active : Bool
  qc3Active : Bool
  pdActive : Bool
  eprActive : Bool
  eprExist : Bool
  avsExist : Bool

structure PdStatusObservation where
  statusRaw : UInt8
  status : Status
  currentRaw : UInt8
  currentMa : ℕ
  contractVoltageMv : Option ℕ
  contract : Contract

def fusb302bStatusProjection (status0 : UInt8) : Status where
  bcActive := false
  qc2Active := false
  qc3Active := false
  pdActive := PhyStatus.vbusOk status0
  eprActive := false
  eprExist := false
  avsExist := false

def fusb302bStatusConfirmsActiveContract (phase : SinkPhase) (contract : Contract)
    (status0 : UInt8) : Bool :=
  (phase = .ready ∨ phase.negotiates) ∧ contract ≠ .none ∧ PhyStatus.vbusOk status0

/-- Only a contract that was confirmed before and that the capabilities still cover. -/
def fusb302bContractObservation (phase : SinkPhase) (contract : Contract) (statusRaw : UInt8)
    (source : SourceCapabilities) : Option PdStatusObservation :=
  if ¬ fusb302bStatusConfirmsActiveContract phase contract statusRaw ∨
      ¬ source.supportsContract contract then none
  else
    some {
      statusRaw := statusRaw
      status := fusb302bStatusProjection statusRaw
      currentRaw := 0
      currentMa := contract.currentMa
      contractVoltageMv := some contract.voltageMv
      contract := contract }

namespace Fusb302bRuntime

def pdStatusObservation (runtime : Fusb302bRuntime) : Option PdStatusObservation :=
  if ¬ runtime.serviceAvailable ∨ runtime.requestTimedOut ∨ ¬ runtime.vbusStatusObserved then
    none
  else
    runtime.policy.receivedCapabilities.bind fun source =>
      fusb302bContractObservation runtime.policy.phase runtime.policy.activeContract
        runtime.vbusStatusRaw source

end Fusb302bRuntime

/-! ## What a poll handles -/

inductive PollStep where
  /-- `STATUS0` was read. -/
  | sampled (status0 : UInt8)
  | message (packet : PdPacket)
  | vbusLow
  | receivedReset
  | retryFailed
  | protection
  /-- A request, a query or a frame took too long. -/
  | timedOut
  /-- A transfer failed, or a frame cannot be used. -/
  | failed

namespace PollStep

/-- The contract ends. -/
def withdraws : PollStep → Bool
  | sampled _ => false
  | message _ => false
  | _ => true

/-- VBUS is present. -/
def showsVbus : PollStep → Bool
  | sampled status0 => PhyStatus.vbusOk status0
  | _ => false

def isPsRdy : PollStep → Bool
  | message packet => packet.payload.isEmpty ∧ packet.messageType = SinkPolicy.psRdy
  | _ => false

end PollStep

/-- A command with a transfer that fails, whether or not the command comes to it. -/
def CommandTransfers.trace (transfers : CommandTransfers) : List PollStep :=
  if transfers.flushed ∧ transfers.refreshFlushed ∧ transfers.sent then [] else [.failed]

namespace Fusb302bRuntime

variable (runtime : Fusb302bRuntime) (nowMs : ℕ)

/-- The transfer that an empty poll asks for fails. -/
def emptyTrace (sent : Bool) : List PollStep :=
  if runtime.policy.phase = .waitingForSourceCapabilities then
    if runtime.sourceCapabilitiesQueryDue nowMs ∧ ¬ sent then [.failed] else []
  else if runtime.ppsKeepaliveDue nowMs ∧ (runtime.policy.refreshActivePps.isNone ∨ ¬ sent) then
    [.failed]
  else []

/-- The request that answers new capabilities fails. -/
def messageTrace (packet : PdPacket) (sent : Bool) : List PollStep :=
  match packet.sourceCapabilities with
  | none => [.message packet]
  | some pdos =>
      if runtime.policy.sourceCapabilitiesMessageIsFresh packet.messageId ∧
          (runtime.respondToCapabilities packet.messageId pdos).rdo.isSome ∧ ¬ sent then
        [.message packet, .failed]
      else [.message packet]

def eventTrace (transfers : ReceiveTransfers) :
    Fusb302bReceiveEvent → List PollStep
  | .vbusLow _ => [.vbusLow]
  | .empty _ _ => runtime.emptyTrace nowMs transfers.sent
  | .partialFrame _ _ =>
      if expired (some (runtime.partialRxStartedAtMs.getD nowMs)) fusb302bPartialRxTimeoutMs
          nowMs then [.timedOut]
      else []
  | .message packet => runtime.messageTrace packet transfers.sent
  | .receivedReset .waitForSourceCapabilities =>
      if transfers.flushed then [.receivedReset] else [.receivedReset, .failed]
  | .receivedReset .acceptAndWaitForSourceCapabilities =>
      if transfers.flushed ∧ transfers.sent then [.receivedReset] else [.receivedReset, .failed]
  | .retryFailed => [.retryFailed]
  | .protection => [.protection]
  | .unsupportedSop => [.failed]

def receiveTrace (transfers : ReceiveTransfers) : List PollStep :=
  match fusb302bReceiveEvent transfers runtime.retryFailRecoveryPending with
  | .error _ => [.failed]
  | .ok (event, status0) => .sampled status0 :: runtime.eventTrace nowMs transfers event

def messagesTrace (nowMs : ℕ) (receive : ℕ → ReceiveTransfers) :
    ℕ → Fusb302bRuntime → List PollStep
  | 0, _ => []
  | limit + 1, runtime =>
      let transfers := receive (fusb302bRxBurstLimit - (limit + 1))
      let ((after, result), receivedMessage) := runtime.pollReceiveEvent nowMs transfers
      runtime.receiveTrace nowMs transfers ++
        if ¬ result ∨ ¬ receivedMessage then [] else messagesTrace nowMs receive limit after

def restoreTrace (transfers : PollTransfers) : List PollStep :=
  match transfers.restoreStatus with
  | none => [.failed]
  | some status0 =>
      let confirmed := expired (some (runtime.vbusRestoreCandidateSinceMs.getD nowMs))
        fusb302bVbusRestoreConfirmMs nowMs
      if PhyStatus.vbusOk status0 ∧ confirmed ∧ ¬ transfers.resynchronized then
        [.sampled status0, .failed]
      else [.sampled status0]

def attachmentTrace (transfers : PollTransfers) : List PollStep :=
  if runtime.polarity.isSome then []
  else
    match transfers.attachStatus with
    | none => [.failed]
    | some status1a =>
        if (fusb302bSettledSinkPolarity status1a).isSome ∧ ¬ transfers.configured then [.failed]
        else []

def timersTrace : List PollStep :=
  if runtime.policy.phase.negotiates ∧
      expired runtime.lastRequestAtMs fusb302bContractRequestTimeoutMs nowMs then [.timedOut]
  else if runtime.sourceCapabilitiesRefreshPending ∧
      expired runtime.sourceCapabilitiesRefreshRequestedAtMs fusb302bContractRequestTimeoutMs
        nowMs then [.timedOut]
  else []

def attachedTrace (transfers : PollTransfers) : List PollStep :=
  let (after, result) := pollReceiveMessages nowMs transfers.receive fusb302bRxBurstLimit runtime
  messagesTrace nowMs transfers.receive fusb302bRxBurstLimit runtime ++
    if ¬ result then [] else after.timersTrace nowMs

def pollTrace (transfers : PollTransfers) : List PollStep :=
  let runtime := { runtime with vbusStatusObserved := false, vbusStatusRaw := 0 }
  if ¬ runtime.pollTransportRetryDue nowMs then []
  else
    let runtime := { runtime with transportRecoveryNotBeforeMs := none }
    if runtime.policy.phase = .fault then []
    else
      match runtime.pollVbusRestore nowMs transfers with
      | some _ => runtime.restoreTrace nowMs transfers
      | none =>
          runtime.attachmentTrace transfers ++
            match runtime.pollAttachment nowMs transfers with
            | .inl _ => []
            | .inr runtime => runtime.attachedTrace nowMs transfers

/-- What an operation handles.  Only a poll receives anything, but a transfer of any
operation may fail. -/
def operationTrace : RuntimeOperation → List PollStep
  | .poll transfers => runtime.pollTrace nowMs transfers
  | .requestContract _ _ transfers => transfers.trace
  | .refreshSourceCapabilities _ _ transfers => transfers.trace
  | .requestAutomaticIdleContract _ transfers => transfers.trace
  | .advanceAutomaticIdleTransition transfers => transfers.trace
  | .abortPendingOperation transfers => transfers.trace
  | .setStandbyMinimumMv _ => []

/-- What the operations of a turn handle. -/
def performTrace (runtime : Fusb302bRuntime) : List (ℕ × RuntimeOperation) → List PollStep
  | [] => []
  | timed :: rest =>
      runtime.operationTrace timed.1 timed.2 ++ (runtime.perform timed.1 timed.2).performTrace rest

/-- One operation in which no `PS_RDY` is handled. -/
def UnconfirmedStep (before : Fusb302bRuntime) (timed : ℕ × RuntimeOperation)
    (after : Fusb302bRuntime) : Prop :=
  Step before timed after ∧ ∀ step ∈ before.operationTrace timed.1 timed.2, ¬ step.isPsRdy

end Fusb302bRuntime

end FluxPurr.Pd
