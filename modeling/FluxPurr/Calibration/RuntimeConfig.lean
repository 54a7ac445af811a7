import FluxPurr.Calibration.RuntimeState

/-!
# Runtime configuration

`usbRuntimeConfigResponse` answers a `RuntimeConfigCommand`.  The command is checked, then its
parts are applied one after the other: the calibration control, the PPS request of the
operator, and what is left.  The first two may still refuse it.
-/

namespace FluxPurr.Calibration

open FluxPurr.Memory

/-! ## The command -/

structure CalibrationControlCommand where
  mode : Option CalibrationMode := none
  ppsEnabled : Option Bool := none
  ppsMv : Option UInt16 := none
  heaterEnabled : Option Bool := none
  targetAdcMv : Option UInt16 := none
deriving DecidableEq

structure RuntimeConfigCommand extends Memory.RuntimeConfigCommand where
  heaterEnabled : Option Bool := none
  manualPpsEnabled : Option Bool := none
  manualPpsMv : Option UInt16 := none
  manualPpsMa : Option UInt16 := none
  calibration : Option CalibrationControlCommand := none

def RuntimeConfigCommand.manualPpsRequested (config : RuntimeConfigCommand) : Bool :=
  config.manualPpsEnabled.isSome || config.manualPpsMv.isSome || config.manualPpsMa.isSome

structure ApiError where
  code : String
  message : String
  retryable : Bool
deriving DecidableEq

def ManualPpsError.toApiError (error : ManualPpsError) : ApiError :=
  ⟨error.code, error.message, false⟩

/-! ## The state -/

/-- What of the front panel's state a configuration sets. -/
structure FrontPanelUiState extends FrontPanelSettings where
  heaterEnabled : Bool
  manualPpsEnabled : Bool
  fanSettingsDraftPostHeat : PostHeatCoolingMode
  fanSettingsDraftGuard : HeatingFanGuardMode
  fanSettingsApplyRequested : Bool

structure RuntimeConfigState (Preview : Type) where
  uiState : FrontPanelUiState
  memoryConfig : MemoryConfig
  requests : CalibrationRequests
  thermalControlProfilePreview : Option Preview

/-- What the firmware computes in floating point. -/
structure ThermalModel (Preview : Type) where
  previewOf : ThermalControlProfileConfig → Preview
  /-- The saved transient has a projection, and its trace reaches the targets. -/
  plantIsAvailable : MemoryConfig → Bool
  /-- The temperature at an ADC reading, rounded to whole degrees. -/
  holdTargetC : UInt16 → Int16

/-! ## Checks -/

def thermalControlProfilePersistedMaxPoints : ℕ := profileMaxPoints

def populatedPoints (profile : ThermalControlProfileConfig) : ℕ :=
  profile.points.toList.reduceOption.length

def profileValidation (command : ThermalControlProfileCommand) : Option ApiError :=
  match command.op, command.profile with
  | .preview, none | .save, none =>
      some
        ⟨"thermal_profile_required",
          "thermalControlProfile.profile is required for preview/save.", false⟩
  | .save, some profile =>
      if thermalControlProfilePersistedMaxPoints < populatedPoints profile then
        some
          ⟨"thermal_profile_too_many_saved_points",
            "saved thermal profiles support at most 10 populated points.", false⟩
      else none
  | .clearPreview, some _ | .clearSaved, some _ =>
      some
        ⟨"thermal_profile_clear_payload",
          "thermalControlProfile.profile must be omitted for clear operations.", false⟩
  | _, _ => none

def runtimeConfigValidation (config : RuntimeConfigCommand)
    (calibration : CalibrationRuntimeState) : Option ApiError :=
  if config.fanPolicyConflicts = true then
    some
      ⟨"fan_policy_conflict", "activeCoolingEnabled conflicts with postHeatCoolingMode.", false⟩
  else if thermalPlantCalibrationJobRunning calibration = true ∧
      (config.manualPpsRequested = true ∨ config.calibration.isSome = true ∨
        config.heaterEnabled = some true) then
    some
      ⟨ManualPpsError.calibrationInProgress.code,
        "Manual PPS and heater controls cannot override a running thermal-model calibration.",
        false⟩
  else config.thermalControlProfile.bind profileValidation

/-! ## The calibration control -/

namespace CalibrationControlCommand

variable (config : CalibrationControlCommand) (state : CalibrationRequests)

def requestsMutation : Bool :=
  config.mode.isSome || config.ppsEnabled.isSome || config.ppsMv.isSome ||
    config.heaterEnabled.isSome || config.targetAdcMv.isSome

/-- The refusals before anything is written. -/
def refusal (calibration : CalibrationRuntimeState) : Option ManualPpsError :=
  if thermalPlantCalibrationJobRunning calibration = true ∧ config.requestsMutation = true then
    some .calibrationInProgress
  else if calibration.immediateHeaterDisarmPending = true ∧ config.requestsMutation = true then
    some .terminalDisarmPending
  else if config.mode = some .thermalPlant then some .thermalPlantManagedByJob
  else none

/-- Turned off, a calibration forgets its job and gives up its request. -/
def setMode : CalibrationRequests :=
  match config.mode with
  | none => state
  | some .off =>
      { calibration :=
          { state.calibration with
            mode := .off
            ppsEnabled := false
            heaterEnabled := false
            targetAdcMv := none
            stable := false
            stabilityErrorMv := none
            job := {}
            jobData := none
            scanPhase := none
            scanFailure := none
            scanContractConfirmed := false
            immediateHeaterDisarmPending :=
              state.manualPps.owner = .calibration ||
                state.calibration.immediateHeaterDisarmPending }
        manualPps := state.manualPps.release }
  | some mode => { state with calibration := { state.calibration with mode } }

def setHold : CalibrationRequests :=
  { state with
    calibration :=
      { state.calibration with
        targetAdcMv := config.targetAdcMv.or state.calibration.targetAdcMv
        heaterEnabled := config.heaterEnabled.getD state.calibration.heaterEnabled } }

/-- A request is refused before it is written. -/
def setPps : Except ManualPpsError CalibrationRequests :=
  if config.ppsEnabled = some false then
    .ok { calibration := state.calibration.withoutPps, manualPps := state.manualPps.release }
  else if config.ppsEnabled = some true ∨ config.ppsMv.isSome = true then
    match config.ppsMv.or state.calibration.ppsMv with
    | none => .error .invalidVoltage
    | some targetMv =>
        let targetMa := state.calibration.ppsMa.or state.manualPps.targetMa
        match state.manualPps.enable .calibration targetMv targetMa with
        | .error error => .error error
        | .ok manualPps =>
            .ok
              { calibration :=
                  { state.calibration with
                    ppsEnabled := true
                    ppsMv := manualPps.targetMv
                    ppsMa := manualPps.targetMa
                    error := none }
                manualPps }
  else .ok state

/-- `apply_calibration_control_config`: what it has written stays when it refuses the PPS
request. -/
def applyCalibrationControlConfig : Option ManualPpsError × CalibrationRequests :=
  match config.refusal state.calibration with
  | some error => (some error, state)
  | none =>
      let held := config.setHold (config.setMode state)
      match config.setPps held with
      | .error error => (some error, held)
      | .ok state => (none, state)

end CalibrationControlCommand

/-! ## The request of the operator -/

/-- Without known capabilities the request waits for them. -/
def ManualPpsState.debugRequest (manualPps : ManualPpsState) (targetMv : UInt16)
    (targetMa : Option UInt16) : Except ManualPpsError ManualPpsState :=
  if manualPps.allowPendingRefresh = true ∧ manualPps.capabilityMinMv = none then
    match targetMa with
    | none => .error .invalidCurrent
    | some targetMa => manualPps.stagePendingRequest .debug targetMv targetMa
  else manualPps.enable .debug targetMv targetMa

def applyManualPpsConfig (config : RuntimeConfigCommand) (calibration : CalibrationRuntimeState)
    (manualPps : ManualPpsState) : Except ManualPpsError ManualPpsState :=
  if calibration.immediateHeaterDisarmPending = true ∧ config.manualPpsRequested = true ∧
      config.manualPpsEnabled ≠ some false then
    .error .terminalDisarmPending
  else if thermalPlantCalibrationJobRunning calibration = true ∧
      config.manualPpsRequested = true then
    .error .calibrationInProgress
  else if config.manualPpsEnabled = some false then .ok manualPps.clear
  else if config.manualPpsEnabled = some true ∨ config.manualPpsMv.isSome = true ∨
      config.manualPpsMa.isSome = true then
    match config.manualPpsMv.or manualPps.targetMv with
    | none => .error .invalidVoltage
    | some targetMv =>
        manualPps.debugRequest targetMv (config.manualPpsMa.or manualPps.targetMa)
  else .ok manualPps

/-! ## What is left -/

section

variable {Preview : Type} (model : ThermalModel Preview)

def thermalModelHeaterAllowed (memoryConfig : MemoryConfig)
    (calibration : CalibrationRuntimeState) (manualPps : ManualPpsState) : Bool :=
  if calibration.mode = .thermalPlant then calibration.job.status = .running
  else if calibration.mode ≠ .off then true
  else if memoryConfig.commissioningRequired = true then false
  else model.plantIsAvailable memoryConfig && manualPps.hasMatchingPpsApdo 20000 3000

/-- The slot that shows the target: the selected one first, else the first that has it. -/
def FrontPanelUiState.setTargetTempC (uiState : FrontPanelUiState) (targetTempC : Int16) :
    FrontPanelUiState :=
  let targetTempC := clampTempC targetTempC
  { uiState with
    targetTempC
    selectedPresetSlot :=
      if uiState.presetsC[uiState.selectedPresetSlot]? = some (some targetTempC) then
        uiState.selectedPresetSlot
      else
        (uiState.presetsC.toList.findIdx? fun preset => preset = some targetTempC).getD
          uiState.selectedPresetSlot }

def applyMemoryConfigToUi (uiState : FrontPanelUiState) (config : MemoryConfig) :
    FrontPanelUiState :=
  { uiState.setTargetTempC config.targetTempC with
    selectedPresetSlot :=
      if frontpanelPresetCount ≤ config.selectedPresetSlot then 0 else config.selectedPresetSlot
    presetsC := config.presetsC
    postHeatCoolingMode := config.postHeatCoolingMode
    heatingFanGuardMode := config.heatingFanGuardMode
    activeCoolingEnabled := config.postHeatCoolingMode.isEnabled
    fanSettingsDraftPostHeat := config.postHeatCoolingMode
    fanSettingsDraftGuard := config.heatingFanGuardMode
    fanSettingsApplyRequested := false }

def applyRtdCalibrationHoldTarget (calibration : CalibrationRuntimeState)
    (uiState : FrontPanelUiState) : FrontPanelUiState :=
  if calibration.mode ≠ .rtdAdc ∨ calibration.heaterEnabled = false then uiState
  else
    match calibration.targetAdcMv with
    | none => uiState
    | some targetAdcMv =>
        { uiState with targetTempC := clampTempC (model.holdTargetC targetAdcMv) }

def previewAfter (command : ThermalControlProfileCommand) (preview : Option Preview) :
    Option Preview :=
  match command.op with
  | .preview => (command.profile.map model.previewOf).or preview
  | .clearPreview | .save => none
  | .clearSaved => preview

variable (config : RuntimeConfigCommand)

def applyRuntimeConfigState (state : RuntimeConfigState Preview) : RuntimeConfigState Preview :=
  let calibration := state.requests.calibration
  let heaterEnabled :=
    if config.heaterEnabled = some true ∧
        thermalModelHeaterAllowed model state.memoryConfig calibration state.requests.manualPps =
          false then
      some false
    else config.heaterEnabled
  let memoryConfig := config.applyTo state.memoryConfig
  let uiState := applyMemoryConfigToUi state.uiState memoryConfig
  let uiState := { uiState with heaterEnabled := heaterEnabled.getD uiState.heaterEnabled }
  let uiState :=
    if calibration.mode = .off then uiState
    else
      applyRtdCalibrationHoldTarget model calibration
        { uiState with
          heaterEnabled :=
            (config.calibration.bind CalibrationControlCommand.heaterEnabled).getD
              uiState.heaterEnabled }
  { state with
    uiState
    memoryConfig
    thermalControlProfilePreview :=
      match config.thermalControlProfile with
      | none => state.thermalControlProfilePreview
      | some command => previewAfter model command state.thermalControlProfilePreview }

def RuntimeConfigCommand.applyControl
    (requests : CalibrationRequests) : Option ManualPpsError × CalibrationRequests :=
  match config.calibration with
  | none => (none, requests)
  | some command => command.applyCalibrationControlConfig requests

/-- `usb_runtime_config_response_with_calibration`: the error of a response that is not ok,
and the state after it. -/
def usbRuntimeConfigResponse
    (state : RuntimeConfigState Preview) : Option ApiError × RuntimeConfigState Preview :=
  match runtimeConfigValidation config state.requests.calibration with
  | some error => (some error, state)
  | none =>
      match config.applyControl state.requests with
      | (some error, requests) => (some error.toApiError, { state with requests })
      | (none, requests) =>
          match applyManualPpsConfig config requests.calibration requests.manualPps with
          | .error error => (some error.toApiError, { state with requests })
          | .ok manualPps =>
              let applied := applyRuntimeConfigState model config
                { state with requests := { requests with manualPps } }
              (none,
                { applied with
                  uiState := { applied.uiState with manualPpsEnabled := manualPps.enabled } })

end

end FluxPurr.Calibration
