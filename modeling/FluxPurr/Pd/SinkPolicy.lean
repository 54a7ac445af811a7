import FluxPurr.Pd.Contract
import FluxPurr.Wire.Bytes

/-!
# The sink policy

The protocol state of the sink, kept apart from the transport: a message of the
source or a wish of the firmware changes the state, and some operations return the
request data object (RDO) that is to be sent.  A contract authorizes heating once
the source has answered an RDO by `Accept` and `PS_RDY`.

Operations that return an RDO are functions to `Response`; the others return the
policy they leave behind.
-/

namespace FluxPurr.Pd

open FluxPurr.Wire

abbrev ppsRdoVoltageStepMv : ℕ := 20
abbrev ppsRdoCurrentStepMa : ℕ := 50
abbrev ppsToFixedStepMv : ℕ := 500

/-- The four bytes of a request data object. -/
abbrev Rdo := List UInt8

def requestDataObject (contract : Contract) : Option Rdo :=
  if contract.objectPosition = 0 then none
  else
    match contract.kind with
    | .pps =>
        if contract.voltageMv % ppsRdoVoltageStepMv ≠ 0 ∨
            contract.currentMa % ppsRdoCurrentStepMa ≠ 0 then
          none
        else
          let voltageUnits := UInt32.ofNat (contract.voltageMv / ppsRdoVoltageStepMv)
          let currentUnits := UInt32.ofNat (contract.currentMa / ppsRdoCurrentStepMa)
          some (u32Le ((UInt32.ofNat contract.objectPosition <<< 28) ||| ((1 : UInt32) <<< 24) |||
            ((voltageUnits &&& 0x0fff) <<< 9) ||| (currentUnits &&& 0x7f)))
    | .fixed =>
        if contract.currentMa % 10 ≠ 0 then none
        else
          let currentUnits := UInt32.ofNat (contract.currentMa / 10)
          some (u32Le ((UInt32.ofNat contract.objectPosition <<< 28) ||| ((1 : UInt32) <<< 24) |||
            (currentUnits <<< 10) ||| currentUnits))
    | .none => none

def nextPpsToFixedVoltage (currentMv targetMv : ℕ) : Option ℕ :=
  if currentMv ≤ targetMv then none
  else
    let stepMv := currentMv - ppsToFixedStepMv
    some (if stepMv < targetMv then targetMv else stepMv)

/-- One to three steps ahead of the last identifier, modulo eight. -/
def sourceMessageIdIsNewer (last current : UInt8) : Bool :=
  let distance := (current - last) &&& 0x07
  1 ≤ distance ∧ distance ≤ 3

inductive SinkPhase where
  | detached
  | waitingForSourceCapabilities
  | waitingForAccept
  | waitingForPsRdy
  | ready
  | fault
deriving DecidableEq, Repr

structure SinkPolicy where
  phase : SinkPhase
  defaultRequestedMv : ℕ
  requestedMv : ℕ
  preferredMa : ℕ
  requestedMode : Option PdContractRequestMode
  explicitRequest : Option PdContractRequest
  idleStandby : Bool
  standbyMinimumMv : ℕ
  pendingContract : Contract
  activeContract : Contract
  sourceCapabilities : SourceCapabilities
  sourceCapabilitiesReceived : Bool
  sourceMessageId : Option UInt8
deriving DecidableEq, Repr

/-- The policy after an operation and the RDO the operation returns. -/
structure Response where
  policy : SinkPolicy
  rdo : Option Rdo

namespace SinkPolicy

def new (requestedMv preferredMa : ℕ) : SinkPolicy :=
  { phase := .waitingForSourceCapabilities
    defaultRequestedMv := requestedMv
    requestedMv := requestedMv
    preferredMa := preferredMa
    requestedMode := none
    explicitRequest := none
    idleStandby := false
    standbyMinimumMv := fusb302bPdAbsoluteMinMv
    pendingContract := .none
    activeContract := .none
    sourceCapabilities := {}
    sourceCapabilitiesReceived := false
    sourceMessageId := none }

def newStandby (requestedMv preferredMa : ℕ) : SinkPolicy :=
  { new requestedMv preferredMa with idleStandby := true }

/-! ## Requests -/

/-- The end of a request: with an RDO the contract becomes the pending one of the
prepared policy, and without one the request has failed. -/
def sendRequest (failed prepared : SinkPolicy) (contract : Contract) : Response :=
  match requestDataObject contract with
  | none => ⟨failed, none⟩
  | some rdo =>
      ⟨{ prepared with pendingContract := contract, phase := .waitingForAccept }, some rdo⟩

variable (policy : SinkPolicy)

/-- An exact request is also what the next capabilities are answered with. -/
def prepareContractRefresh (request : PdContractRequest) : SinkPolicy :=
  { policy with
    requestedMv := request.voltageMv
    preferredMa := request.operatingCurrentMa
    requestedMode := some request.mode
    explicitRequest := some request
    idleStandby := false }

def requestContract (request : PdContractRequest) : Response :=
  if ¬ policy.sourceCapabilitiesReceived then ⟨policy, none⟩
  else
    match policy.sourceCapabilities.selectExactContract request with
    | none => ⟨policy, none⟩
    | some contract => sendRequest policy (policy.prepareContractRefresh request) contract

variable (capabilities : SourceCapabilities) (requestedMv : ℕ)

/-- The contract of `begin_request` in standby: the next step down towards the standby
contract on the active APDO, or the standby contract itself. -/
def standbyTarget : Option Contract :=
  (capabilities.selectFusb302bStandbyContract policy.standbyMinimumMv).map fun standby =>
    if policy.activeContract.kind = .pps ∧ standby.voltageMv < policy.activeContract.voltageMv then
      ((nextPpsToFixedVoltage policy.activeContract.voltageMv
          (max standby.voltageMv fusb302bPpsMinMv)).bind fun stepMv =>
        capabilities.selectFusb302bStandbyPpsStep policy.activeContract stepMv).getD standby
    else standby

/-- A request that is built again from the wanted mode. -/
def requestOfMode : PdContractRequestMode → Option PdContractRequest
  | .pps => (PdContractRequest.pps policy.requestedMv policy.preferredMa).toOption
  | .fixed => (PdContractRequest.fixed policy.requestedMv policy.preferredMa).toOption

/-- The contract of `begin_request`. -/
def beginTarget : Option Contract :=
  if policy.idleStandby then policy.standbyTarget capabilities
  else
    match policy.explicitRequest with
    | some request => capabilities.selectExactContract request
    | none =>
        match policy.requestedMode with
        | some mode => (policy.requestOfMode mode).bind capabilities.selectExactContract
        | none => capabilities.selectFusb302bContract policy.requestedMv policy.preferredMa

def beginRequest : Response :=
  match policy.beginTarget capabilities with
  | none => ⟨policy, none⟩
  | some contract => sendRequest policy policy contract

def selectPpsContract : Option Contract :=
  if ¬ policy.sourceCapabilitiesReceived then none
  else
    (policy.sourceCapabilities.selectFusb302bContract requestedMv policy.preferredMa).filter
      fun contract => contract.kind = .pps

/-- What a PPS request wants, also for the next capabilities. -/
def wantPps : SinkPolicy :=
  { policy with
    requestedMv := requestedMv
    explicitRequest := none
    requestedMode := some .pps
    idleStandby := false }

def preparePpsRequest : SinkPolicy :=
  if (policy.selectPpsContract requestedMv).isNone then policy else policy.wantPps requestedMv

def requestPpsVoltage : Response :=
  match policy.selectPpsContract requestedMv with
  | none => ⟨policy, none⟩
  | some contract =>
      -- the wish is stored before it is known whether there is an RDO
      sendRequest (policy.wantPps requestedMv) (policy.wantPps requestedMv) contract

def prepareAutomaticIdleRefresh : SinkPolicy :=
  { policy with
    requestedMv := fusb302bPdAbsoluteMinMv
    explicitRequest := none
    requestedMode := some .fixed
    idleStandby := true }

def requestAutomaticIdleFixedContract : Response :=
  if ¬ policy.sourceCapabilitiesReceived then ⟨policy, none⟩
  else policy.prepareAutomaticIdleRefresh.beginRequest policy.sourceCapabilities

/-- Unlike the other requests this one waits for `Accept` before it is known whether
there is an RDO. -/
def requestAutomaticIdlePpsStep : Response :=
  if ¬ policy.sourceCapabilitiesReceived then ⟨policy, none⟩
  else
    match policy.sourceCapabilities.selectFusb302bStandbyPpsStep policy.activeContract
        requestedMv with
    | none => ⟨policy, none⟩
    | some contract =>
        ⟨{ policy with
            requestedMv := requestedMv
            explicitRequest := none
            requestedMode := some .pps
            idleStandby := true
            pendingContract := contract
            phase := .waitingForAccept }, requestDataObject contract⟩

def requestFixedVoltage : Response :=
  if ¬ policy.sourceCapabilitiesReceived then ⟨policy, none⟩
  else
    match policy.sourceCapabilities.selectFusb302bFixedContract requestedMv policy.preferredMa with
    | none => ⟨policy, none⟩
    | some contract =>
        sendRequest policy
          { policy with
            explicitRequest := none
            requestedMode := some .fixed
            idleStandby := false }
          contract

/-- A keepalive repeats the confirmed RDO and changes nothing. -/
def refreshActivePps : Option Rdo :=
  if policy.activeContract.kind ≠ .pps then none else requestDataObject policy.activeContract

def setStandbyMinimumMv (minimumMv : ℕ) : SinkPolicy :=
  { policy with standbyMinimumMv := minimumMv }

/-! ## Messages of the source -/

def sourceCapabilitiesMessageIsFresh (sourceMessageId : Option UInt8) : Bool :=
  sourceMessageId.all fun current =>
    policy.sourceMessageId.all fun last => sourceMessageIdIsNewer last current

/-- The identifier is taken over when it is fresh; `none` says that it is not. -/
def observeSourceMessageId (sourceMessageId : Option UInt8) : Option SinkPolicy :=
  match sourceMessageId.map (· &&& 0x07) with
  | none => some policy
  | some current =>
      if policy.sourceCapabilitiesMessageIsFresh (some current) then
        some { policy with sourceMessageId := some current }
      else none

/-- `self.source_capabilities = SourceCapabilities::from_pdos(pdos)`. -/
def storeCapabilities (pdos : List UInt32) : SinkPolicy :=
  { policy with
    sourceCapabilities := .fromPdos pdos
    sourceCapabilitiesReceived := true }

def onSourceCapabilitiesWithMessageId (pdos : List UInt32)
    (sourceMessageId : Option UInt8) : Response :=
  match policy.observeSourceMessageId (sourceMessageId.map (· &&& 0x07)) with
  | none => ⟨policy, none⟩
  | some policy =>
      let policy := policy.storeCapabilities pdos
      policy.beginRequest policy.sourceCapabilities

/-- A confirmed contract that is still offered is kept; one that is not is replaced. -/
def keepOrRequest : Response :=
  if policy.phase = .ready ∧ policy.activeContract ≠ .none then
    if policy.sourceCapabilities.supportsContract policy.activeContract then
      ⟨{ policy with pendingContract := .none }, none⟩
    else
      beginRequest
        { policy with
          activeContract := .none
          pendingContract := .none
          phase := .waitingForSourceCapabilities }
        policy.sourceCapabilities
  else policy.beginRequest policy.sourceCapabilities

def refreshSourceCapabilitiesWithMessageId (pdos : List UInt32)
    (sourceMessageId : Option UInt8) : Response :=
  match policy.observeSourceMessageId (sourceMessageId.map (· &&& 0x07)) with
  | none => ⟨policy, none⟩
  | some policy => (policy.storeCapabilities pdos).keepOrRequest

def onUnhandledDataMessageWithMessageId (messageId : Option UInt8)
    (discoveryQueryActive : Bool) : SinkPolicy :=
  if policy.phase = .waitingForAccept ∨ policy.phase = .waitingForPsRdy ∨
      policy.phase = .ready ∨
      policy.phase = .waitingForSourceCapabilities ∧ discoveryQueryActive then
    (policy.observeSourceMessageId messageId).getD policy
  else policy

/-- A pending request is given up, a confirmed contract is not. -/
def cancelPendingRequest : SinkPolicy :=
  { policy with
    pendingContract := .none
    phase := if policy.activeContract = .none then .waitingForSourceCapabilities else .ready }

abbrev goodCrc : UInt8 := 1
abbrev accept : UInt8 := 3
abbrev reject : UInt8 := 4
abbrev psRdy : UInt8 := 6
abbrev wait : UInt8 := 12

/-- The phases in which an answer of the source is looked at. -/
def listens : Bool :=
  policy.phase = .waitingForAccept ∨ policy.phase = .waitingForPsRdy ∨ policy.phase = .ready

/-- What an answer of the source changes. -/
def onAnswer (messageType : UInt8) : SinkPolicy :=
  if policy.phase = .waitingForAccept ∧ messageType = accept then
    { policy with phase := .waitingForPsRdy }
  else if policy.phase = .waitingForPsRdy ∧ messageType = psRdy then
    { policy with
      activeContract := policy.pendingContract
      pendingContract := .none
      phase := .ready }
  else if messageType = reject ∨ messageType = wait then policy.cancelPendingRequest
  else policy

def onControlMessageWithMessageId (messageType : UInt8) (messageId : Option UInt8) : SinkPolicy :=
  if ¬ policy.listens then policy
  else if messageType = goodCrc then policy
  else
    match policy.observeSourceMessageId messageId with
    | none => policy
    | some policy => policy.onAnswer messageType

/-! ## Losing the source -/

/-- The common part of a detach and of a received reset. -/
def forgetSource (phase : SinkPhase) : SinkPolicy :=
  { policy with
    pendingContract := .none
    activeContract := .none
    sourceMessageId := none
    requestedMv := policy.defaultRequestedMv
    explicitRequest := none
    requestedMode := none
    sourceCapabilities := {}
    sourceCapabilitiesReceived := false
    phase := phase }

def onReceivedProtocolReset : SinkPolicy := policy.forgetSource .waitingForSourceCapabilities

def interlockAfterTransientTransportFault : SinkPolicy := policy.onReceivedProtocolReset

def onDetachOrReset : SinkPolicy := policy.forgetSource .detached

def onAttachmentDetected : SinkPolicy :=
  if policy.phase = .detached then { policy with phase := .waitingForSourceCapabilities }
  else policy

/-- Unlike a detach or a reset, a fault keeps the capabilities. -/
def markFault : SinkPolicy :=
  { policy with
    pendingContract := .none
    activeContract := .none
    sourceMessageId := none
    phase := .fault }

end SinkPolicy

end FluxPurr.Pd
