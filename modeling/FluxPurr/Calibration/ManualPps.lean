import FluxPurr.Power.Commands
import FluxPurr.Supply.Scan

/-!
# Requests for a programmable supply

The operator and the calibration share one PPS request, `ManualPpsState`, and either of them
owns it.  A request is checked against what the source offers before anything is written
(`enable`, `stagePendingRequest`), so a refused request changes nothing.
-/

namespace FluxPurr.Calibration

open FluxPurr.Pd FluxPurr.Power FluxPurr.Supply
open PdContractRequest

abbrev maxPpsApdos : ℕ := 7

/-! ## Errors -/

inductive ManualPpsError where
  | noPpsCapability
  | invalidVoltage
  | invalidCurrent
  | calibrationInProgress
  | terminalDisarmPending
  | thermalPlantManagedByJob
  | heaterCurveCoverageInsufficient
  | thermalPlantSourceUnsupported
  | thermalPlantProjectionInvalid
  | thermalPlantTimeout
  | supplyScan (reason : ScanFailure)
  | pdNotReady
  | writeFailed
deriving DecidableEq, Repr

namespace ManualPpsError

def code : ManualPpsError → String
  | noPpsCapability => "manual_pps_no_capability"
  | invalidVoltage => "manual_pps_invalid_voltage"
  | invalidCurrent => "manual_pps_invalid_current"
  | calibrationInProgress => "manual_pps_calibration_busy"
  | terminalDisarmPending => "heater_disarm_pending"
  | thermalPlantManagedByJob => "thermal_plant_managed_by_job"
  | heaterCurveCoverageInsufficient => "heater_curve_coverage_insufficient"
  | thermalPlantSourceUnsupported => "thermal_plant_source_unsupported"
  | thermalPlantProjectionInvalid => "thermal_plant_projection_invalid"
  | thermalPlantTimeout => "thermal_plant_timeout"
  | supplyScan .wifiChanged => "supply_scan_wifi_changed"
  | supplyScan .supplyUnstable => "supply_scan_supply_unstable"
  | supplyScan .ambiguousResponse => "supply_scan_ambiguous_response"
  | supplyScan .stageTimeout => "supply_scan_stage_timeout"
  | supplyScan .invalidSample => "supply_scan_invalid_sample"
  | pdNotReady => "manual_pps_pd_not_ready"
  | writeFailed => "manual_pps_write_failed"

def message : ManualPpsError → String
  | noPpsCapability => "PPS capability is unavailable."
  | invalidVoltage | invalidCurrent =>
      "manualPpsMv/manualPpsMa must match PPS capability and APDO steps."
  | calibrationInProgress => "Manual PPS cannot override a running thermal-model calibration."
  | terminalDisarmPending => "The previous heater session is still being physically disarmed."
  | thermalPlantManagedByJob =>
      "Automatic thermal-model calibration is managed by thermal_plant_auto."
  | heaterCurveCoverageInsufficient =>
      "The calibration did not collect a usable whole-device supply boundary."
  | thermalPlantSourceUnsupported =>
      "Thermal plant calibration requires a PPS APDO covering 20V at 3A or more."
  | thermalPlantProjectionInvalid =>
      "Thermal plant observations did not produce a physical model."
  | thermalPlantTimeout => "Thermal plant calibration exceeded its five-minute time budget."
  | supplyScan _ => "Whole-device supply scanning stopped; inspect the scan error code."
  | pdNotReady => "PD contract is not ready for manual PPS."
  | writeFailed => "Manual PPS write failed."

end ManualPpsError

/-! ## The request -/

inductive ManualPpsOwner where
  | debug
  | calibration
deriving DecidableEq, Repr

/-- `ch224q::PpsApdo` -/
structure PpsApdo where
  minMv : UInt16
  maxMv : UInt16
  maxMa : UInt16
deriving DecidableEq, Repr

@[ext] structure ManualPpsState where
  enabled : Bool := false
  owner : ManualPpsOwner := .debug
  requestMinMv : UInt16 := 5000
  requestMaxMv : UInt16 := 21000
  targetMv : Option UInt16 := none
  targetMa : Option UInt16 := none
  appliedMv : Option UInt16 := none
  capabilityMinMv : Option UInt16 := none
  capabilityMaxMv : Option UInt16 := none
  capabilityMaxMa : Option UInt16 := none
  capabilityApdos : Vector (Option PpsApdo) maxPpsApdos := Vector.replicate maxPpsApdos none
  sourcePowerLimitMw : Option UInt32 := none
  sourcePowerLimitMa : Option UInt16 := none
  error : Option ManualPpsError := none
  automaticRestorePending : Bool := false
  automaticRestoreTicket : Option PowerTicket := none
  automaticRestoreConfirmed : Bool := false
  allowPendingRefresh : Bool := false
  pendingPowerTicket : Option PowerTicket := none
  pendingPowerRequestMv : Option UInt16 := none
  supplyScanRange : Option PpsAdjustmentRange := none
deriving DecidableEq

namespace ManualPpsState

variable (state : ManualPpsState)

/-- `capability_apdos.iter().flatten()` -/
def apdos : List PpsApdo := state.capabilityApdos.toList.reduceOption

def lowest (apdo : PpsApdo) : UInt16 := max apdo.minMv state.requestMinMv

def highest (apdo : PpsApdo) : UInt16 := min apdo.maxMv state.requestMaxMv

/-- The target lies in what the APDO offers of the range that may be requested. -/
def covers (apdo : PpsApdo) (targetMv : UInt16) : Bool :=
  state.lowest apdo ≤ targetMv ∧ targetMv ≤ state.highest apdo

def hasMatchingPpsApdo (targetMv targetMa : UInt16) : Bool :=
  state.apdos.any fun apdo =>
    state.covers apdo targetMv &&
      decide (targetMa ≤ min apdo.maxMa maxHeaterContractMa.toUInt16)

def maximumPpsCurrentForTarget (targetMv : UInt16) : Option UInt16 :=
  ((state.apdos.filter fun apdo => state.covers apdo targetMv).map fun apdo =>
    min apdo.maxMa maxHeaterContractMa.toUInt16).max?

def validateTarget (targetMv targetMa : UInt16) : Except ManualPpsError Unit :=
  match state.capabilityMinMv, state.capabilityMaxMv, state.capabilityMaxMa with
  | some minMv, some maxMv, some _ =>
      if targetMv < minMv ∨ maxMv < targetMv ∨ targetMv % 100 ≠ 0 ∨ targetMa = 0 ∨
          targetMa % 50 ≠ 0 ∨ state.hasMatchingPpsApdo targetMv targetMa = false then
        .error .invalidVoltage
      else .ok ()
  | _, _, _ => .error .noPpsCapability

variable (owner : ManualPpsOwner)

def withTarget (targetMv targetMa : UInt16) : ManualPpsState :=
  { state with
    enabled := true
    owner
    targetMv := some targetMv
    targetMa := some targetMa
    error := none
    automaticRestorePending := false
    automaticRestoreConfirmed := false }

/-- Without a current the largest one that is offered is requested. -/
def enable (targetMv : UInt16) (targetMa : Option UInt16) : Except ManualPpsError ManualPpsState :=
  match targetMa.or (state.maximumPpsCurrentForTarget targetMv) with
  | none => .error .noPpsCapability
  | some targetMa =>
      match state.validateTarget targetMv targetMa with
      | .error error => .error error
      | .ok () => .ok (state.withTarget owner targetMv targetMa)

/-- The request waits for capabilities that are not known yet. -/
def stagePendingRequest (targetMv targetMa : UInt16) : Except ManualPpsError ManualPpsState :=
  match pps targetMv.toNat targetMa.toNat with
  | .error .zeroCurrent | .error .ppsCurrentNotAligned => .error .invalidCurrent
  | .error _ => .error .invalidVoltage
  | .ok _ => .ok { state.withTarget owner targetMv targetMa with appliedMv := none }

def hadOverride : Bool :=
  state.enabled || state.targetMv.isSome || state.targetMa.isSome || state.appliedMv.isSome

def clear : ManualPpsState :=
  { state with
    enabled := false
    owner := .debug
    supplyScanRange := none
    targetMv := none
    targetMa := none
    appliedMv := none
    error := none
    automaticRestorePending := state.automaticRestorePending || state.hadOverride
    automaticRestoreConfirmed :=
      if state.hadOverride then false else state.automaticRestoreConfirmed }

/-- A request of the calibration is given up. -/
def release : ManualPpsState := if state.owner = .calibration then state.clear else state

/-! ## What a request does -/

/-- The source offers the target, with the current or the largest one there is. -/
def Offers (targetMv : UInt16) (targetMa : Option UInt16) : Prop :=
  ∃ currentMa, targetMa.or (state.maximumPpsCurrentForTarget targetMv) = some currentMa ∧
    state.validateTarget targetMv currentMa = .ok ()

/-- The operator's request is taken, now or when the capabilities are known. -/
def Admits (targetMv : UInt16) (targetMa : Option UInt16) : Prop :=
  if state.allowPendingRefresh = true ∧ state.capabilityMinMv = none then
    ∃ currentMa, targetMa = some currentMa ∧ (pps targetMv.toNat currentMa.toNat).isOk = true
  else state.Offers targetMv targetMa

theorem enable_eq_ok {targetMv currentMa : UInt16} {targetMa : Option UInt16}
    (hcurrent : targetMa.or (state.maximumPpsCurrentForTarget targetMv) = some currentMa)
    (hvalid : state.validateTarget targetMv currentMa = .ok ()) :
    state.enable owner targetMv targetMa = .ok (state.withTarget owner targetMv currentMa) := by
  unfold enable
  rw [hcurrent]
  simp only [hvalid]

theorem enable_refused {targetMv : UInt16} {targetMa : Option UInt16}
    (h : ¬state.Offers targetMv targetMa) :
    ∃ error, state.enable owner targetMv targetMa = .error error := by
  unfold enable
  split
  case h_1 => exact ⟨_, rfl⟩
  case h_2 currentMa hcurrent =>
    split
    case h_1 error _ => exact ⟨error, rfl⟩
    case h_2 hvalid => exact absurd ⟨currentMa, hcurrent, hvalid⟩ h

theorem stagePendingRequest_refused {targetMv targetMa : UInt16}
    (h : ¬(pps targetMv.toNat targetMa.toNat).isOk = true) :
    ∃ error, state.stagePendingRequest owner targetMv targetMa = .error error := by
  unfold stagePendingRequest
  cases hrequest : pps targetMv.toNat targetMa.toNat with
  | ok request => simp [hrequest, Except.isOk, Except.toBool] at h
  | error error => cases error <;> exact ⟨_, rfl⟩

theorem stagePendingRequest_admitted {targetMv targetMa : UInt16}
    (h : (pps targetMv.toNat targetMa.toNat).isOk = true) :
    ∃ staged, state.stagePendingRequest owner targetMv targetMa = .ok staged := by
  unfold stagePendingRequest
  cases hrequest : pps targetMv.toNat targetMa.toNat with
  | ok request => exact ⟨_, rfl⟩
  | error error => simp [hrequest, Except.isOk, Except.toBool] at h

@[simp] theorem owner_clear : state.clear.owner = .debug := rfl

theorem owner_release : state.release.owner = .debug := by
  unfold release
  split
  case isTrue => rfl
  case isFalse h =>
    cases howner : state.owner with
    | debug => rfl
    | calibration => exact absurd howner h

theorem release_of_debug (h : state.owner ≠ .calibration) : state.release = state := if_neg h

theorem release_eq_iff : state.release = state ↔ state.owner ≠ .calibration := by
  refine ⟨fun heq howner => ?_, state.release_of_debug⟩
  have hreleased := state.owner_release
  rw [heq, howner] at hreleased
  cases hreleased

end ManualPpsState

end FluxPurr.Calibration
