import FluxPurr.Calibration.ManualPps
import FluxPurr.Pd.HeaterPermit

/-!
# Candidates for automatic heating

A candidate is a range of PPS requests that the heater may draw from an APDO of the source.
What one APDO offers at the present temperature is computed in floating point and given here
(`AutomaticHeaterModel.ppsForApdo`).  The heater asks for the best candidate
(`automaticHeaterPpsCandidate`) and conducts on one that covers the confirmed contract
(`automaticHeaterConfirmedPpsCandidate`).
-/

namespace FluxPurr.Heater

open FluxPurr.Power (PowerTicket TicketOutcome)
open FluxPurr.Pd (PdContractRequest PdServiceSnapshot PpsAdjustmentRange PdStatusObservation)
open FluxPurr.Calibration (ManualPpsState PpsApdo maxPpsApdos)

abbrev maxAutomaticHeaterContractMa : ℕ := 3000
abbrev automaticTerminalVoltageMv : ℕ := 21000
abbrev automaticTerminalCurrentMa : ℕ := 2850

/-! ## What the port shows -/

/-- `ch224q::VoltageRequest` -/
inductive VoltageRequest where
  | v5
  | v9
  | v12
  | v15
  | v20
  | v28
  | pps
  | avs
deriving DecidableEq, Repr

def VoltageRequest.millivolts : VoltageRequest → ℕ
  | v5 => 5000
  | v9 => 9000
  | v12 => 12000
  | v15 => 15000
  | v20 => 20000
  | v28 => 28000
  | pps | avs => 0

/-- `ch224q::AdjustablePowerCapabilities` -/
structure AdjustablePowerCapabilities where
  ppsMinMv : Option UInt16
  ppsMaxMv : Option UInt16
  ppsMaxMa : Option UInt16
  ppsApdos : Vector (Option PpsApdo) maxPpsApdos
  sourcePowerLimitMw : Option UInt32
  sourcePowerLimitMa : Option UInt16

structure SourceCapabilitiesView where
  fixed : List (ℕ × ℕ)
  pps : List PpsAdjustmentRange

end FluxPurr.Heater

namespace FluxPurr.Calibration.ManualPpsState

open FluxPurr.Heater
open FluxPurr.Power (PowerTicket TicketOutcome)

variable (state : ManualPpsState)

/-- An empty list of APDOs is replaced by the range as a whole. -/
def apdosOrRange (apdos : Vector (Option PpsApdo) maxPpsApdos) (whole : PpsApdo) :
    Vector (Option PpsApdo) maxPpsApdos :=
  if apdos.all Option.isNone then apdos.set 0 (some whole) else apdos

def fromFusb302bCapabilities (capabilities : Option AdjustablePowerCapabilities) : ManualPpsState :=
  let state : ManualPpsState :=
    { requestMinMv := 5500, requestMaxMv := 28000, allowPendingRefresh := true }
  match capabilities with
  | none => state
  | some capabilities =>
      match capabilities.ppsMinMv, capabilities.ppsMaxMv, capabilities.ppsMaxMa with
      | some minMv, some maxMv, some maxMa =>
          let boundedMinMv := max minMv state.requestMinMv
          let boundedMaxMv := min maxMv state.requestMaxMv
          if boundedMaxMv < boundedMinMv ∨ maxMa = 0 then state
          else
            { state with
              capabilityMinMv := some boundedMinMv
              capabilityMaxMv := some boundedMaxMv
              capabilityMaxMa := some maxMa
              capabilityApdos := apdosOrRange capabilities.ppsApdos ⟨boundedMinMv, maxMv, maxMa⟩
              sourcePowerLimitMw := capabilities.sourcePowerLimitMw
              sourcePowerLimitMa := capabilities.sourcePowerLimitMa }
      | _, _, _ => state

def consumeAutomaticRestorePending : ManualPpsState :=
  { state with automaticRestorePending := false, automaticRestoreConfirmed := false }

end FluxPurr.Calibration.ManualPpsState

namespace FluxPurr.Heater

open FluxPurr.Power (PowerTicket TicketOutcome)
open FluxPurr.Pd (PdContractRequest PdServiceSnapshot PpsAdjustmentRange PdStatusObservation)
open FluxPurr.Calibration (ManualPpsState PpsApdo maxPpsApdos)

/-! ## Candidates -/

structure AutomaticHeaterPpsCandidate where
  minMv : ℕ
  maxMv : ℕ
  currentMa : ℕ
  allowedMv : ℕ
  powerMw : ℕ
  advertisementIndex : ℕ
  boundaryApplied : Bool
deriving DecidableEq, Repr

namespace AutomaticHeaterPpsCandidate

def allows (candidate : AutomaticHeaterPpsCandidate) (voltageMv : ℕ) : Bool :=
  candidate.minMv ≤ voltageMv ∧ voltageMv ≤ candidate.allowedMv

/-- The present request is in the range of the APDO. -/
def keeps (candidate : AutomaticHeaterPpsCandidate) (currentRequestMv : Option ℕ) : Bool :=
  currentRequestMv.any fun mv => candidate.minMv ≤ mv ∧ mv ≤ candidate.maxMv

/-- The key is the power, then whether the present request is kept, then the lower voltage
and the earlier APDO. -/
def isBetter (currentRequestMv : Option ℕ) (candidate best : AutomaticHeaterPpsCandidate) : Bool :=
  if candidate.powerMw ≠ best.powerMw then best.powerMw < candidate.powerMw
  else if candidate.keeps currentRequestMv ≠ best.keeps currentRequestMv then
    candidate.keeps currentRequestMv
  else if candidate.allowedMv ≠ best.allowedMv then candidate.allowedMv < best.allowedMv
  else candidate.advertisementIndex ≤ best.advertisementIndex

end AutomaticHeaterPpsCandidate

/-- What is computed in floating point from the temperature, the sensor readings and the
stored configuration of one call. -/
structure AutomaticHeaterModel where
  ppsForApdo : ManualPpsState → PpsApdo → ℕ → (budgetMa : ℕ) → (currentRequestMv : Option ℕ) →
    Option AutomaticHeaterPpsCandidate
  voltageResponseMatches : ManualPpsState → (contractMv contractMa : ℕ) →
    Option PpsAdjustmentRange → Bool
  fixedRequestWithBoundary : SourceCapabilitiesView → Option (VoltageRequest × ℕ)
  pwmPercentForPower : (requestedPowerMw confirmedMv warmupSoftStartPercent : ℕ) → ℕ
  requestMvFromPower : (requestedPowerMw floorMv ceilingMv : ℕ) → ℕ
  phasePpsRequestMv : (currentRequestMv controlFloorMv safeMaxMv : ℕ) → Option ℕ

namespace AutomaticHeaterModel

variable (model : AutomaticHeaterModel) (manualPps : ManualPpsState)

/-- The APDOs at their places. -/
def indexedApdos : List (PpsApdo × ℕ) :=
  manualPps.capabilityApdos.toList.zipIdx.filterMap fun entry =>
    entry.1.map fun apdo => (apdo, entry.2)

def automaticHeaterPpsCandidate (currentRequestMv : Option ℕ) :
    Option AutomaticHeaterPpsCandidate :=
  Pd.selectBest (AutomaticHeaterPpsCandidate.isBetter currentRequestMv)
    ((indexedApdos manualPps).filterMap fun entry =>
      model.ppsForApdo manualPps entry.1 entry.2 entry.1.maxMa.toNat currentRequestMv)

def isRangeOf (range : PpsAdjustmentRange) (apdo : PpsApdo) : Bool :=
  range.minMv = apdo.minMv.toNat ∧ range.maxMv = apdo.maxMv.toNat ∧
    range.maxCurrentMa = apdo.maxMa.toNat

def automaticHeaterPpsForContract (voltageMv currentMa : ℕ)
    (confirmedRange : Option PpsAdjustmentRange) : Option AutomaticHeaterPpsCandidate :=
  (indexedApdos manualPps).findSome? fun entry =>
    if confirmedRange.any (fun range => ¬ isRangeOf range entry.1) ∨
        ¬ (entry.1.minMv.toNat ≤ voltageMv ∧ voltageMv ≤ entry.1.maxMv.toNat) ∨
        entry.1.maxMa.toNat < currentMa then none
    else model.ppsForApdo manualPps entry.1 entry.2 currentMa (some voltageMv)

/-- The request for a voltage that the best candidate allows, on the APDO of that candidate. -/
def automaticHeaterRequestContract (voltageMv currentMa : ℕ) (previousMv : Option ℕ) :
    Option PdContractRequest :=
  (model.automaticHeaterPpsCandidate manualPps previousMv).bind fun candidate =>
    if candidate.currentMa ≠ currentMa ∨ ¬ candidate.allows voltageMv then none
    else
      (manualPps.capabilityApdos[candidate.advertisementIndex]?.bind id).bind fun apdo =>
        match PdContractRequest.automaticPps voltageMv currentMa with
        | .error _ => none
        | .ok request =>
            let pinned :=
              { request with
                ppsRange := some ⟨apdo.minMv.toNat, apdo.maxMv.toNat, apdo.maxMa.toNat⟩ }
            if pinned.isWellFormed then some pinned else none

/-- The contract at the end of the envelope of a 60 W source, without the boundary. -/
def terminalCandidate (range : PpsAdjustmentRange) (voltageMv currentMa : ℕ) :
    Option AutomaticHeaterPpsCandidate :=
  let terminalPowerMw := voltageMv * currentMa / 1000
  if voltageMv ≠ automaticTerminalVoltageMv ∨ currentMa ≠ automaticTerminalCurrentMa ∨
      manualPps.sourcePowerLimitMw.all (fun limit => limit.toNat < terminalPowerMw) ∨
      manualPps.sourcePowerLimitMa.all (fun limit =>
        limit.toNat < maxAutomaticHeaterContractMa) then none
  else
    (indexedApdos manualPps).findSome? fun entry =>
      let minMv := max entry.1.minMv.toNat manualPps.requestMinMv.toNat
      let maxMv := min entry.1.maxMv.toNat manualPps.requestMaxMv.toNat
      if isRangeOf range entry.1 ∧ minMv ≤ voltageMv ∧ voltageMv ≤ maxMv ∧
          currentMa ≤ entry.1.maxMa.toNat then
        some ⟨minMv, maxMv, currentMa, voltageMv, terminalPowerMw, entry.2, true⟩
      else none

/-- The candidate for the contract that the snapshot shows, if it is a confirmed PPS contract
that the heater may draw from. -/
def automaticHeaterConfirmedPpsCandidate (snapshot : PdServiceSnapshot) :
    Option AutomaticHeaterPpsCandidate :=
  match snapshot.conductingObservation, snapshot.active with
  | some observed, some active =>
      if ¬ observed.status.pdActive ∨ observed.contract.kind ≠ .pps ∨ active.mode ≠ .pps ∨
          active.voltageMv ≠ observed.contract.voltageMv ∨
          active.operatingCurrentMa ≠ observed.contract.currentMa then none
      else
        active.ppsRange.bind fun range =>
          ((model.automaticHeaterPpsForContract manualPps active.voltageMv
              active.operatingCurrentMa (some range)).or
            (terminalCandidate manualPps range active.voltageMv
              active.operatingCurrentMa)).bind fun candidate =>
            if candidate.allows active.voltageMv then some candidate else none
  | _, _ => none

end AutomaticHeaterModel

/-! ## The voltage of a request -/

abbrev ch224qAdjustableRequestMinMv : ℕ := 5000
abbrev heaterAdjustableMaxMv : ℕ := 28000

inductive HeaterControlPhase where
  | warmup
  | approach
  | hold
deriving DecidableEq, Repr

def floorMvTo100mv (millivolts : ℕ) : ℕ := millivolts / 100 * 100

theorem floorMvTo100mv_mono {lower upper : ℕ} (h : lower ≤ upper) :
    floorMvTo100mv lower ≤ floorMvTo100mv upper := by
  unfold floorMvTo100mv
  omega

theorem floorMvTo100mv_le (millivolts : ℕ) : floorMvTo100mv millivolts ≤ millivolts := by
  unfold floorMvTo100mv
  omega

end FluxPurr.Heater
