import FluxPurr.Pd.ActiveContract
import FluxPurr.Usb.ResponseWriter

/-!
# The PD runtime

The runtime drives a sink policy over the I2C bus of the PHY.  It keeps the timers of the
negotiation and what it last saw of VBUS.  Here are the operations that the firmware asks
for; `Fusb302bPoll` is the periodic one.

Every operation is given whether its transfers on the bus succeed.  What is on the wire and
the diagnostic registers do not change what the runtime does, and are left out.
-/

namespace FluxPurr.Pd

open FluxPurr.Usb (saturatingAddU64)

inductive CcPin where
  | cc1
  | cc2
deriving DecidableEq, Repr

inductive TransientTransportFault where
  | retryFailed
  | pendingRequestTimeout
  | partialReceiveTimeout
  | receiveIoError
  | transmitIoError
  | configurationIoError
deriving DecidableEq, Repr

inductive PdContractRequestState where
  | confirmed
  | pending
  | failed
deriving DecidableEq, Repr

abbrev fusb302bTransportRecoveryBackoffMs : ℕ := 50
abbrev fusb302bContractRequestTimeoutMs : ℕ := 5000
abbrev fusb302bPpsKeepaliveResponseTimeoutMs : ℕ := 1500
abbrev fusb302bPartialRxTimeoutMs : ℕ := 250
abbrev fusb302bVbusLowConfirmMs : ℕ := 50
abbrev fusb302bVbusRestoreConfirmMs : ℕ := 50
abbrev fusb302bInitialPpsRequestMv : ℕ := 12000
abbrev ppsToFixedIntervalMs : ℕ := 500

structure Fusb302bRuntime where
  policy : SinkPolicy
  polarity : Option CcPin
  nextMessageId : UInt8
  attachedAtMs : Option ℕ
  lastSourceCapabilitiesRequestAtMs : Option ℕ
  sourceCapabilitiesQuerySent : Bool
  sourceCapabilitiesRefreshPending : Bool
  sourceCapabilitiesRefreshForContract : Bool
  sourceCapabilitiesRefreshRequestedAtMs : Option ℕ
  lastRequestAtMs : Option ℕ
  ppsKeepalivePendingAtMs : Option ℕ
  sourceCapabilitiesTxConfirmed : Bool
  sourceCapabilitiesGcrcSeen : Bool
  partialRxStartedAtMs : Option ℕ
  retryFailRecoveryPending : Bool
  vbusLowCandidateSinceMs : Option ℕ
  vbusLowInterlocked : Bool
  vbusRestoreCandidateSinceMs : Option ℕ
  awaitingVbusRestore : Bool
  requestRejected : Bool
  requestTimedOut : Bool
  idleTransitionTargetMv : Option ℕ
  idleTransitionLastStepAtMs : Option ℕ
  transportRecoveryNotBeforeMs : Option ℕ
  vbusStatusObserved : Bool
  vbusStatusRaw : UInt8
deriving DecidableEq, Repr

/-- Whether the transfers of an operation succeed. -/
structure CommandTransfers where
  /-- The receive FIFO is flushed before a pending request is replaced. -/
  flushed : Bool
  /-- The receive FIFO is flushed before the capabilities are asked for. -/
  refreshFlushed : Bool
  /-- The message is sent. -/
  sent : Bool

/-- Both phases in which the source owes an answer. -/
def SinkPhase.negotiates (phase : SinkPhase) : Bool :=
  phase = .waitingForAccept ∨ phase = .waitingForPsRdy

namespace Fusb302bRuntime

def new : Fusb302bRuntime where
  policy := .newStandby fusb302bInitialPpsRequestMv maxHeaterContractMa
  polarity := none
  nextMessageId := 0
  attachedAtMs := none
  lastSourceCapabilitiesRequestAtMs := none
  sourceCapabilitiesQuerySent := false
  sourceCapabilitiesRefreshPending := false
  sourceCapabilitiesRefreshForContract := false
  sourceCapabilitiesRefreshRequestedAtMs := none
  lastRequestAtMs := none
  ppsKeepalivePendingAtMs := none
  sourceCapabilitiesTxConfirmed := false
  sourceCapabilitiesGcrcSeen := false
  partialRxStartedAtMs := none
  retryFailRecoveryPending := false
  vbusLowCandidateSinceMs := none
  vbusLowInterlocked := false
  vbusRestoreCandidateSinceMs := none
  awaitingVbusRestore := false
  requestRejected := false
  requestTimedOut := false
  idleTransitionTargetMv := none
  idleTransitionLastStepAtMs := none
  transportRecoveryNotBeforeMs := none
  vbusStatusObserved := false
  vbusStatusRaw := 0

variable (runtime : Fusb302bRuntime)

def serviceAvailable : Bool := runtime.policy.phase ≠ .fault

def clearVbusLowInterlock : Fusb302bRuntime :=
  { runtime with vbusLowCandidateSinceMs := none, vbusLowInterlocked := false }

/-- The query for the capabilities is forgotten, with what was received of the answer. -/
def withdrawQuery : Fusb302bRuntime :=
  { runtime with
    sourceCapabilitiesQuerySent := false
    sourceCapabilitiesRefreshPending := false
    sourceCapabilitiesRefreshForContract := false
    sourceCapabilitiesRefreshRequestedAtMs := none
    sourceCapabilitiesTxConfirmed := false
    sourceCapabilitiesGcrcSeen := false
    partialRxStartedAtMs := none }

/-- The outcome of the last request is forgotten. -/
def forgetOutcome : Fusb302bRuntime :=
  { runtime with
    ppsKeepalivePendingAtMs := none
    requestRejected := false
    requestTimedOut := false }

/-- The ramp towards the standby contract ends. -/
def endIdleTransition : Fusb302bRuntime :=
  { runtime with idleTransitionTargetMv := none, idleTransitionLastStepAtMs := none }

variable (nowMs : ℕ)

/-- The protocol starts again from the capabilities of the source. -/
def resetProtocol : Fusb302bRuntime :=
  { runtime.withdrawQuery.endIdleTransition with
    policy := runtime.policy.onReceivedProtocolReset
    attachedAtMs := some nowMs
    lastSourceCapabilitiesRequestAtMs := none
    lastRequestAtMs := none
    ppsKeepalivePendingAtMs := none
    retryFailRecoveryPending := false }

def clearContractAuthorization : Fusb302bRuntime :=
  { runtime.resetProtocol nowMs with vbusStatusObserved := false, vbusStatusRaw := 0 }

/-- The contract is given up once, and the CC session is kept. -/
def interlockAfterVbusLow : Fusb302bRuntime :=
  if runtime.vbusLowInterlocked then runtime
  else
    { runtime.clearContractAuthorization nowMs with
      vbusLowCandidateSinceMs := none
      vbusLowInterlocked := true }

/-- A local fault resets the protocol and asks for the capabilities again after a while.
Whether the FIFOs can be flushed changes only the diagnostics. -/
def recoverTransientTransportFault (fault : TransientTransportFault)
    (nowMs : ℕ) : Fusb302bRuntime :=
  { runtime.withdrawQuery.clearVbusLowInterlock with
    transportRecoveryNotBeforeMs := some (saturatingAddU64 nowMs fusb302bTransportRecoveryBackoffMs)
    policy := runtime.policy.interlockAfterTransientTransportFault
    lastRequestAtMs := none
    ppsKeepalivePendingAtMs := none
    lastSourceCapabilitiesRequestAtMs := some nowMs
    retryFailRecoveryPending := fault = .retryFailed }

/-- The next identifier, if the message was sent. -/
def transmit (sent : Bool) : Option Fusb302bRuntime :=
  if sent then some { runtime with nextMessageId := (runtime.nextMessageId + 1) &&& 0x07 }
  else none

/-- The message is sent and `sent` follows, or the transport recovers. -/
def transmitOr (ok : Bool) (sent : Fusb302bRuntime → PdContractRequestState × Fusb302bRuntime) :
    PdContractRequestState × Fusb302bRuntime :=
  match runtime.transmit ok with
  | none => (.failed, runtime.recoverTransientTransportFault .transmitIoError nowMs)
  | some runtime => sent runtime

/-- The RDO of a request is sent. -/
def sendRequest (response : Response) (nowMs : ℕ) (ok : Bool) :
    PdContractRequestState × Fusb302bRuntime :=
  match response.rdo with
  | none => (.failed, { runtime with policy := response.policy })
  | some _ =>
      transmitOr { runtime with policy := response.policy } nowMs ok fun runtime =>
        (.pending, { runtime with lastRequestAtMs := some nowMs })

/-! ## Requests -/

/-- `Get_Source_Cap` is sent. -/
def askSourceCapabilities (requestContract ok : Bool) : PdContractRequestState × Fusb302bRuntime :=
  if runtime.policy.phase = .fault then (.failed, runtime)
  else
    runtime.transmitOr nowMs ok fun runtime =>
      (.pending, { runtime with
        sourceCapabilitiesRefreshPending := true
        sourceCapabilitiesRefreshForContract := requestContract
        sourceCapabilitiesRefreshRequestedAtMs := some nowMs
        lastSourceCapabilitiesRequestAtMs := some nowMs
        sourceCapabilitiesQuerySent := true })

def refreshSourceCapabilities
    (replacePending requestContract : Bool) (transfers : CommandTransfers) :
    PdContractRequestState × Fusb302bRuntime :=
  let runtime := runtime.forgetOutcome
  if replacePending then
    let runtime := { runtime.withdrawQuery with lastSourceCapabilitiesRequestAtMs := none }
    if transfers.refreshFlushed then
      runtime.askSourceCapabilities nowMs requestContract transfers.sent
    else (.failed, runtime.recoverTransientTransportFault .receiveIoError nowMs)
  else if runtime.sourceCapabilitiesRefreshPending then (.pending, runtime)
  else runtime.askSourceCapabilities nowMs requestContract transfers.sent

/-- A pending request is given up, and the capabilities are to be answered with this one. -/
def replaceRequest (request : PdContractRequest) : Fusb302bRuntime :=
  { runtime with policy := runtime.policy.cancelPendingRequest.prepareContractRefresh request }

def requestContract (runtime : Fusb302bRuntime) (request : PdContractRequest) (nowMs : ℕ)
    (replacePending : Bool) (transfers : CommandTransfers) :
    PdContractRequestState × Fusb302bRuntime :=
  let runtime := runtime.forgetOutcome.endIdleTransition
  if replacePending then
    (runtime.replaceRequest request).refreshSourceCapabilities nowMs true true transfers
  else if runtime.policy.phase.negotiates then
    if runtime.policy.pendingContractMatches request then (.pending, runtime)
    else if transfers.flushed then
      (runtime.replaceRequest request).refreshSourceCapabilities nowMs true true transfers
    else
      (.failed,
        (runtime.replaceRequest request).recoverTransientTransportFault .receiveIoError nowMs)
  else if requestMatchesActive request runtime.policy.confirmedActiveContract then
    (.confirmed, runtime)
  else if runtime.policy.activeContract.kind = .fixed ∧ request.mode = .pps then
    refreshSourceCapabilities
      { runtime with policy := runtime.policy.prepareContractRefresh request }
      nowMs false true transfers
  else runtime.sendRequest (runtime.policy.requestContract request) nowMs transfers.sent

def abortPendingOperation (transfers : CommandTransfers) : Fusb302bRuntime :=
  let runtime := { runtime.withdrawQuery.forgetOutcome.endIdleTransition with
    policy := runtime.policy.cancelPendingRequest }
  if transfers.flushed then runtime
  else runtime.recoverTransientTransportFault .receiveIoError nowMs

/-! ## The standby contract -/

/-- The next step of the ramp from the active PPS contract, or the standby contract. -/
def sendIdleRequest (ok : Bool) : PdContractRequestState × Fusb302bRuntime :=
  match runtime.idleTransitionTargetMv with
  | none => runtime.sendRequest runtime.policy.requestAutomaticIdleFixedContract nowMs ok
  | some targetMv =>
      match runtime.policy.standbyPpsFloorMv with
      | none => (.failed, runtime)
      | some floorMv =>
          match nextPpsToFixedVoltage runtime.policy.activeContract.voltageMv
              (max floorMv targetMv) with
          | some stepMv =>
              sendRequest { runtime with idleTransitionLastStepAtMs := some nowMs }
                (runtime.policy.requestAutomaticIdlePpsStep stepMv) nowMs ok
          | none => runtime.sendRequest runtime.policy.requestAutomaticIdleFixedContract nowMs ok

/-- The part of `request_automatic_idle_contract` after a pending request was replaced. -/
def startAutomaticIdle (ok : Bool) : PdContractRequestState × Fusb302bRuntime :=
  if runtime.policy.phase.negotiates ∧ runtime.policy.pendingAutomaticIdleContractMatches then
    (.pending, runtime)
  else
    let runtime := if runtime.policy.phase.negotiates then
      { runtime with policy := runtime.policy.cancelPendingRequest } else runtime
    let active := runtime.policy.activeContract
    match runtime.policy.standbyContract with
    | none => (.failed, runtime)
    | some standby =>
        if active.kind = .fixed ∧ active.voltageMv = standby.voltageMv ∧
            standby.currentMa ≤ active.currentMa then
          (.confirmed, runtime.endIdleTransition)
        else
          sendIdleRequest
            { runtime with
              idleTransitionTargetMv :=
                if active.kind = .pps ∧ standby.voltageMv < active.voltageMv then
                  some standby.voltageMv else none
              idleTransitionLastStepAtMs := none }
            nowMs ok

/-- A pending request is given up.  The ramp begins where the active contract is above the
standby voltage. -/
def replaceWithIdle : Fusb302bRuntime :=
  let policy := runtime.policy.cancelPendingRequest
  let active := policy.activeContract
  let standbyTargetMv := policy.standbyContract.elim fusb302bPdAbsoluteMinMv Contract.voltageMv
  { runtime with
    policy := policy
    idleTransitionTargetMv :=
      if active.kind = ContractKind.pps ∧ standbyTargetMv < active.voltageMv then
        some standbyTargetMv else none
    idleTransitionLastStepAtMs := none }

def requestAutomaticIdleContract (replacePending : Bool)
    (transfers : CommandTransfers) : PdContractRequestState × Fusb302bRuntime :=
  if runtime.policy.pendingAutomaticIdleContractMatches ∧
      (runtime.idleTransitionTargetMv.all fun targetMv =>
        runtime.policy.standbyContract.any fun contract => contract.voltageMv = targetMv) then
    -- the exchange and the ramp that are under way go on
    (.pending, runtime)
  else
    let runtime := runtime.forgetOutcome
    if replacePending then
      let reuseConfirmedPps := runtime.policy.phase = .ready ∧
        runtime.policy.confirmedActiveContract.any fun active =>
          active.mode = .pps ∧ active.ppsRange.isSome
      let replaced := runtime.replaceWithIdle
      if reuseConfirmedPps then replaced.startAutomaticIdle nowMs transfers.sent
      else
        refreshSourceCapabilities
          { replaced with policy := replaced.policy.prepareAutomaticIdleRefresh }
          nowMs true true transfers
    else runtime.startAutomaticIdle nowMs transfers.sent

/-- The RDO of a step of the ramp is sent.  Unlike elsewhere a failed transfer is not
recovered from. -/
def sendIdleStep (response : Response) (nowMs : ℕ) (ok : Bool) :
    PdContractRequestState × Fusb302bRuntime :=
  let runtime := { runtime with policy := response.policy }
  match response.rdo with
  | none => (.failed, runtime)
  | some _ =>
      match runtime.transmit ok with
      | none => (.failed, runtime)
      | some runtime =>
          (.pending, { runtime with
            lastRequestAtMs := some nowMs
            idleTransitionLastStepAtMs := some nowMs })

def advanceAutomaticIdleTransition
    (transfers : CommandTransfers) : PdContractRequestState × Fusb302bRuntime :=
  match runtime.idleTransitionTargetMv with
  | none => (.confirmed, runtime)
  | some targetMv =>
      let active := runtime.policy.activeContract
      if runtime.policy.phase ≠ .ready then (.pending, runtime)
      else if active.kind = .fixed ∧ active.voltageMv = targetMv ∧
          runtime.policy.standbyContract.elim 0 Contract.currentMa ≤ active.currentMa then
        (.confirmed, runtime.endIdleTransition)
      else if runtime.idleTransitionLastStepAtMs.any (nowMs - · < ppsToFixedIntervalMs) then
        (.pending, runtime)
      else if active.kind ≠ .pps then (.failed, runtime)
      else
        match runtime.policy.standbyPpsFloorMv with
        | none => (.failed, runtime)
        | some nextFloor =>
            match nextPpsToFixedVoltage active.voltageMv (max nextFloor targetMv) with
            | none =>
                runtime.sendIdleStep runtime.policy.requestAutomaticIdleFixedContract nowMs
                  transfers.sent
            | some stepMv =>
                runtime.sendIdleStep (runtime.policy.requestAutomaticIdlePpsStep stepMv) nowMs
                  transfers.sent

end Fusb302bRuntime

end FluxPurr.Pd
