import FluxPurr.Pd.SinkPolicy

/-!
# The confirmed contract

A confirmed contract is the active contract of the policy as the rest of the firmware sees
it, and it exists only as long as the source offers that contract (`isSome_iff`).  The
queries of the policy that build on it decide whether a request is still the same one.
-/

namespace FluxPurr.Pd

structure ConfirmedActiveContract where
  mode : PdContractRequestMode
  voltageMv : ℕ
  operatingCurrentMa : ℕ
  ppsRange : Option PpsAdjustmentRange
  ppsCapabilityIndex : Option ℕ
deriving DecidableEq, Repr

def PpsApdo.range (apdo : PpsApdo) : PpsAdjustmentRange := ⟨apdo.minMv, apdo.maxMv, apdo.maxMa⟩

namespace ConfirmedActiveContract

def fromPrivateContract (contract : Contract) (capabilities : SourceCapabilities) :
    Option ConfirmedActiveContract :=
  if ¬ capabilities.supportsContract contract then none
  else
    match contract.kind with
    | .fixed => some ⟨.fixed, contract.voltageMv, contract.currentMa, none, none⟩
    | .pps =>
        let index := capabilities.pps.findIdx? fun apdo =>
          apdo.objectPosition = contract.objectPosition
        some
          { mode := .pps
            voltageMv := contract.voltageMv
            operatingCurrentMa := contract.currentMa
            ppsRange := index.bind fun index => capabilities.pps[index]?.map PpsApdo.range
            ppsCapabilityIndex := index }
    | .none => none

theorem isSome_iff (contract : Contract) (capabilities : SourceCapabilities) :
    (fromPrivateContract contract capabilities).isSome = true ↔
      capabilities.supportsContract contract = true := by
  unfold fromPrivateContract
  cases hsupports : capabilities.supportsContract contract with
  | false => simp
  | true =>
    cases hkind : contract.kind with
    | fixed => simp
    | pps => simp
    | none => simp [SourceCapabilities.supportsContract, hkind] at hsupports

variable (active : ConfirmedActiveContract) (capabilities : SourceCapabilities)

/-- The first APDO that serves the request is the one of the contract. -/
def servedByApdo (request : PdContractRequest) : Bool :=
  (capabilities.pps.findIdx? fun apdo =>
    (request.ppsRange.all fun pinned => pinned = apdo.range) ∧
      apdo.minMv ≤ request.voltageMv ∧ request.voltageMv ≤ apdo.maxMv ∧
      request.operatingCurrentMa ≤ apdo.maxMa).any
    fun index => active.ppsCapabilityIndex = some index

def requestKeepsSamePpsApdo (request : PdContractRequest) : Bool :=
  request.isWellFormed ∧ active.mode = .pps ∧ request.mode = .pps ∧
    active.operatingCurrentMa = request.operatingCurrentMa ∧
    active.servedByApdo capabilities request

/-- A calibration may lower the current as well. -/
def requestKeepsSamePpsApdoOrReducesCurrent (request : PdContractRequest) : Bool :=
  request.calibration ∧ request.isWellFormed ∧ active.mode = .pps ∧ request.mode = .pps ∧
    request.operatingCurrentMa ≤ active.operatingCurrentMa ∧
    active.servedByApdo capabilities request

end ConfirmedActiveContract

def requestMatchesActive (request : PdContractRequest) (active : Option ConfirmedActiveContract) :
    Bool :=
  active.any fun active =>
    active.mode = request.mode ∧ active.voltageMv = request.voltageMv ∧
      active.operatingCurrentMa = request.operatingCurrentMa ∧
      request.ppsRange.all fun range => active.ppsRange = some range

namespace SinkPolicy

variable (policy : SinkPolicy)

/-- The capabilities once they have been received. -/
def receivedCapabilities : Option SourceCapabilities :=
  if policy.sourceCapabilitiesReceived then some policy.sourceCapabilities else none

def confirmedActiveContract : Option ConfirmedActiveContract :=
  ConfirmedActiveContract.fromPrivateContract policy.activeContract policy.sourceCapabilities

def pendingContractMatches (request : PdContractRequest) : Bool :=
  policy.sourceCapabilities.selectExactContract request = some policy.pendingContract

def standbyContract : Option Contract :=
  policy.receivedCapabilities.bind fun capabilities =>
    capabilities.selectFusb302bStandbyContract policy.standbyMinimumMv

def standbyPpsFloorMv : Option ℕ :=
  policy.standbyContract.bind fun standby =>
    (policy.confirmedActiveContract.bind ConfirmedActiveContract.ppsRange).map fun range =>
      max (max standby.voltageMv fusb302bPpsMinMv) range.minMv

/-- The request that is under way is one of the ramp towards the standby contract. -/
def pendingAutomaticIdleContractMatches : Bool :=
  if ¬ policy.sourceCapabilitiesReceived ∨ ¬ policy.idleStandby then false
  else if policy.phase = .ready ∧ policy.activeContract.kind = .pps ∧
      policy.standbyPpsFloorMv.any (· < policy.activeContract.voltageMv) then
    -- a confirmed intermediate step
    policy.sourceCapabilities.supportsContract policy.activeContract
  else
    match policy.pendingContract.kind with
    | .fixed =>
        policy.sourceCapabilities.selectFusb302bStandbyContract policy.standbyMinimumMv =
          some policy.pendingContract
    | .pps =>
        policy.sourceCapabilities.supportsContract policy.pendingContract ∧
          policy.activeContract.kind = .pps ∧
          policy.pendingContract.objectPosition = policy.activeContract.objectPosition ∧
          policy.pendingContract.voltageMv < policy.activeContract.voltageMv ∧
          policy.pendingContract.currentMa ≤ policy.activeContract.currentMa
    | .none => false

end SinkPolicy

end FluxPurr.Pd
