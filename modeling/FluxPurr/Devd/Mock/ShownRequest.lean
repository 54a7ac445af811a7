import FluxPurr.Devd.Mock.RuntimeRequest

/-!
# What the status shows of a request

`Shown` says what `runtimeConfigMatchesStatus` computes: the status has every value that the
request names.
-/

namespace FluxPurr.Devd.Mock

/-! ## What the matcher compares -/

section

variable {α : Type} [DecidableEq α]

theorem all_eq_iff (requested : Option α) (actual : α) :
    requested.all (fun value => decide (actual = value)) = true ↔
      requested.getD actual = actual := by
  cases requested with
  | none => simp
  | some value => simp [eq_comm]

theorem all_eq_some_iff (requested actual : Option α) :
    requested.all (fun value => decide (actual = some value)) = true ↔
      requested.or actual = actual := by
  cases requested with
  | none => simp
  | some value => simp [eq_comm]

end

structure CalibrationShown (calibration : CalibrationControlRequest)
    (status : ControlPlaneStatus) : Prop where
  mode : calibration.mode.getD status.calibration.mode = status.calibration.mode
  ppsEnabled :
    calibration.ppsEnabled.getD status.calibration.ppsEnabled = status.calibration.ppsEnabled
  ppsMv : calibration.ppsMv.or status.calibration.ppsMv = status.calibration.ppsMv
  heaterEnabled :
    calibration.heaterEnabled.getD status.calibration.heaterEnabled =
        status.calibration.heaterEnabled ∧
      calibration.heaterEnabled.getD status.heaterEnabled = status.heaterEnabled
  targetAdcMv :
    calibration.targetAdcMv.or status.calibration.targetAdcMv = status.calibration.targetAdcMv

def ProfileShown (profile : ThermalControlProfileRequest) (status : ControlPlaneStatus) : Prop :=
  match profile.op with
  | .preview =>
      status.thermalControlProfilePreview = true ∧
        status.thermalControl = mockThermalRuntime status.targetTempC profile.profile true
  | .clearPreview =>
      status.thermalControlProfilePreview = false ∧ status.thermalControl.profileSource ≠ "preview"
  | .save =>
      status.thermalControlProfilePreview = false ∧
        status.thermalControl.profileSource = "saved" ∧
        status.thermalControl = mockThermalRuntime status.targetTempC profile.profile false
  | .clearSaved => status.thermalControl.profileSource ≠ "saved"

/-- The status has what the request sets.  Of a profile it has the values at the current target
only. -/
structure Shown (request : RuntimeConfigRequest) (status : ControlPlaneStatus) : Prop where
  targetTempC : request.targetTempC.getD status.targetTempC = status.targetTempC
  thermalProfileMode :
    request.thermalProfileMode.getD status.thermalProfileMode = status.thermalProfileMode
  selectedPresetSlot :
    request.selectedPresetSlot.or status.selectedPresetSlot = status.selectedPresetSlot
  presetsC : request.presetsC.or status.presetsC = status.presetsC
  activeCoolingEnabled :
    request.activeCoolingEnabled.getD status.activeCoolingEnabled = status.activeCoolingEnabled
  postHeatCoolingMode :
    request.postHeatCoolingMode.getD status.postHeatCoolingMode = status.postHeatCoolingMode
  heatingFanGuardMode :
    request.heatingFanGuardMode.getD status.heatingFanGuardMode = status.heatingFanGuardMode
  heaterEnabled : request.heaterEnabled.getD status.heaterEnabled = status.heaterEnabled
  manualPpsEnabled : request.manualPpsEnabled.getD status.manualPpsEnabled = status.manualPpsEnabled
  manualPpsMv : request.manualPpsMv.or status.manualPpsMv = status.manualPpsMv
  manualPpsMa : request.manualPpsMa.or status.manualPpsMa = status.manualPpsMa
  faultAttention :
    request.faultAttentionAcknowledged = some true → status.faultAttentionPending = false
  calibration (calibration : CalibrationControlRequest) :
    request.calibration = some calibration → CalibrationShown calibration status
  profile (profile : ThermalControlProfileRequest) :
    request.thermalControlProfile = some profile → ProfileShown profile status

theorem faultAttention_iff (acknowledged : Option Bool) (pending : Bool) :
    (!(decide (acknowledged = some true) && pending)) = true ↔
      (acknowledged = some true → pending = false) := by
  by_cases h : acknowledged = some true
  · rw [decide_eq_true h, Bool.true_and, Bool.not_eq_true']
    exact ⟨fun hpending _ => hpending, fun hpending => hpending h⟩
  · rw [decide_eq_false h, Bool.false_and]
    exact iff_of_true rfl fun hacknowledged => absurd hacknowledged h

theorem heater_iff (requested : Option Bool) (calibration heater : Bool) :
    requested.all (fun enabled => decide (calibration = enabled) && decide (heater = enabled)) =
        true ↔
      requested.getD calibration = calibration ∧ requested.getD heater = heater := by
  cases requested with
  | none => simp
  | some enabled =>
    rw [Option.all_some, Bool.and_eq_true, decide_eq_true_iff, decide_eq_true_iff]
    exact and_congr eq_comm eq_comm

variable (request : RuntimeConfigRequest) (status : ControlPlaneStatus)

theorem calibration_iff : runtimeRequestMatchesCalibration request status = true ↔
      ∀ calibration, request.calibration = some calibration →
        CalibrationShown calibration status := by
  cases hcalibration : request.calibration with
  | none => simp [runtimeRequestMatchesCalibration, hcalibration]
  | some calibration =>
    simp only [runtimeRequestMatchesCalibration, hcalibration, Option.all_some,
      Bool.and_eq_true, all_eq_iff, all_eq_some_iff, heater_iff, Option.some.injEq,
      forall_eq']
    constructor
    · rintro ⟨⟨⟨⟨hmode, henabled⟩, hmv⟩, hheater⟩, htarget⟩
      exact ⟨hmode, henabled, hmv, hheater, htarget⟩
    · rintro ⟨hmode, henabled, hmv, hheater, htarget⟩
      exact ⟨⟨⟨⟨hmode, henabled⟩, hmv⟩, hheater⟩, htarget⟩

theorem profile_iff : runtimeRequestMatchesThermalProfile request status = true ↔
      ∀ profile, request.thermalControlProfile = some profile → ProfileShown profile status := by
  cases hprofile : request.thermalControlProfile with
  | none => simp [runtimeRequestMatchesThermalProfile, hprofile]
  | some profile =>
    cases hop : profile.op <;>
      simp [runtimeRequestMatchesThermalProfile, hprofile, ProfileShown, hop, and_assoc]

theorem runtimeConfigMatchesStatus_iff :
    runtimeConfigMatchesStatus request status = true ↔ Shown request status := by
  simp only [runtimeConfigMatchesStatus, runtimeRequestMatchesBasicFields, Bool.and_eq_true,
    all_eq_iff, all_eq_some_iff, faultAttention_iff, calibration_iff, profile_iff]
  constructor
  · rintro ⟨⟨⟨⟨⟨⟨⟨⟨⟨⟨⟨⟨⟨htarget, hbank⟩, hslot⟩, hpresets⟩, hactive⟩, hcooling⟩, hguard⟩, hheater⟩,
      henabled⟩, hmv⟩, hma⟩, hattention⟩, hcalibration⟩, hprofile⟩
    exact ⟨htarget, hbank, hslot, hpresets, hactive, hcooling, hguard, hheater, henabled, hmv, hma,
      hattention, hcalibration, hprofile⟩
  · rintro ⟨htarget, hbank, hslot, hpresets, hactive, hcooling, hguard, hheater, henabled, hmv, hma,
      hattention, hcalibration, hprofile⟩
    exact ⟨⟨⟨⟨⟨⟨⟨⟨⟨⟨⟨⟨⟨htarget, hbank⟩, hslot⟩, hpresets⟩, hactive⟩, hcooling⟩, hguard⟩, hheater⟩,
      henabled⟩, hmv⟩, hma⟩, hattention⟩, hcalibration⟩, hprofile⟩

end FluxPurr.Devd.Mock
