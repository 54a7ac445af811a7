import FluxPurr.Devd.Mock.ThermalRuntime
import FluxPurr.Devd.SerialPort

/-!
# Runtime requests

A runtime request sets some of about twenty fields of a device.  `applyMockRuntimeFields` is what
it does to a mock device, and `runtimeConfigMatchesStatus` is how the daemon decides after a
timeout, from the status alone, that a device has taken the request.

Of the status only the fields are kept that one of the two reads or writes.
-/

namespace FluxPurr.Devd.Mock

open FluxPurr.Devd

/-! ## The device -/

inductive CalibrationMode where
  | off
  | rtdAdc
  | vinAdc
  | heaterCurve
  | thermalPlant
deriving DecidableEq

inductive CalibrationJobKind where
  | vinAdcAuto
  | thermalPlantAuto
deriving DecidableEq

inductive CalibrationJobStatus where
  | idle
  | running
  | completed
  | failed
  | canceled
deriving DecidableEq

structure CalibrationJobState where
  kind : Option CalibrationJobKind := none
  status : CalibrationJobStatus := .idle
  progressPercent : UInt8 := 0
  samplesCollected : UInt8 := 0
  nextRequestMv : Option UInt16 := none
  message : Option String := none
deriving DecidableEq

@[ext] structure CalibrationRuntimeState where
  mode : CalibrationMode := .off
  ppsEnabled : Bool := false
  ppsMv : Option UInt16 := none
  ppsMa : Option UInt16 := none
  heaterEnabled : Bool := false
  targetAdcMv : Option UInt16 := none
  stable : Bool := false
  stabilityErrorMv : Option Int16 := none
  error : Option String := none
  job : CalibrationJobState := {}
deriving DecidableEq

@[ext] structure ControlPlaneStatus where
  targetTempC : Int16
  selectedPresetSlot : Option ℕ
  presetsC : Option (List (Option Int16))
  heaterEnabled : Bool
  heaterOutputPercent : UInt8
  activeCoolingEnabled : Bool
  postHeatCoolingMode : String
  heatingFanGuardMode : String
  voltageMv : UInt32
  currentMa : UInt32
  rtdRawAdcMv : Option UInt16
  vinRawAdcMv : Option UInt16
  pdRequestMv : UInt16
  pdContractMv : UInt16
  manualPpsEnabled : Bool
  manualPpsMv : Option UInt16
  manualPpsMa : Option UInt16
  ppsCapabilityMinMv : Option UInt16
  ppsCapabilityMaxMv : Option UInt16
  ppsCapabilityMaxMa : Option UInt16
  manualPpsError : Option String
  faultAttentionPending : Bool
  calibration : CalibrationRuntimeState
  thermalControlProfilePreview : Bool
  thermalProfileMode : String
  thermalProfileResolvedBank : String
  thermalControl : ThermalControlRuntime
deriving DecidableEq

@[ext] structure DeviceRecord where
  status : ControlPlaneStatus
  previewThermalControlProfile : Option ThermalControlProfilePackage
  savedThermalControlProfile : Option ThermalControlProfilePackage
  savedThermalControlProfilePps5a : Option ThermalControlProfilePackage
deriving DecidableEq

/-! ## The request -/

structure CalibrationControlRequest where
  mode : Option CalibrationMode := none
  ppsEnabled : Option Bool := none
  ppsMv : Option UInt16 := none
  heaterEnabled : Option Bool := none
  targetAdcMv : Option UInt16 := none

inductive ThermalControlProfileOp where
  | preview
  | clearPreview
  | save
  | clearSaved

structure ThermalControlProfileRequest where
  op : ThermalControlProfileOp
  bank : Option String := none
  profile : Option ThermalControlProfilePackage := none

structure RuntimeConfigRequest where
  targetTempC : Option Int16 := none
  selectedPresetSlot : Option ℕ := none
  presetsC : Option (List (Option Int16)) := none
  activeCoolingEnabled : Option Bool := none
  postHeatCoolingMode : Option String := none
  heatingFanGuardMode : Option String := none
  heaterEnabled : Option Bool := none
  manualPpsEnabled : Option Bool := none
  manualPpsMv : Option UInt16 := none
  manualPpsMa : Option UInt16 := none
  faultAttentionAcknowledged : Option Bool := none
  calibration : Option CalibrationControlRequest := none
  thermalProfileMode : Option String := none
  thermalControlProfile : Option ThermalControlProfileRequest := none

/-! ## What is accepted -/

def badRequest (code message : String) : HttpError where
  code := code
  message := message
  retryable := false

def require (accepted : Prop) [Decidable accepted] (error : HttpError) : Except HttpError Unit :=
  if accepted then .ok () else .error error

def isPpsVoltage (millivolts : UInt16) : Bool :=
  millivolts % 100 = 0 && 5000 ≤ millivolts && millivolts ≤ 28000

def ThermalControlProfileSettings.isValid (settings : ThermalControlProfileSettings) : Bool :=
  settings.tempFilterAlphaPermille ≠ 0 && settings.tempFilterAlphaPermille ≤ 1000 &&
    5000 ≤ settings.autoAdjustableWorkingFloorMv &&
    settings.autoAdjustableWorkingFloorMv ≤ 28000 && settings.heaterCurrentReserveMa ≤ 1000 &&
    settings.approachMinPowerRatioPermille ≤ 1000 && 1 ≤ settings.approachMaxTicks &&
    settings.approachMaxTicks ≤ 255

def ThermalControlProfilePoint.isValid (point : ThermalControlProfilePoint) : Bool :=
  point.brakeDistanceCentiC ≠ 0 && point.warmupPowerPermille ≤ 1000 &&
    point.approachPowerPermille ≤ 1000 && point.approachFloorPowerPermille ≤ 1000 &&
    100 ≤ point.approachDampingExponentPermille &&
    point.approachDampingExponentPermille ≤ 4000 && point.holdPowerPermille ≤ 1000 &&
    point.holdReheatPowerPermille ≤ 1000 && point.warmupReenterCentiC ≤ 5000 &&
    point.holdEntryCentiC ≤ 5000 && point.holdExitCentiC ≤ 5000 && point.holdOnCentiC ≤ 5000 &&
    point.holdOffCentiC ≤ 5000 && point.overshootCutoffCentiC ≤ 5000 &&
    point.holdKpPermillePerC ≤ 10000 && point.holdKiPermillePerCTick ≤ 10000 &&
    point.holdBlendTicks ≤ 255 && point.approachLeadTicks ≤ 255 && point.holdLeadTicks ≤ 255

def validateThermalControlProfileRequest (request : ThermalControlProfileRequest) :
    Except HttpError Unit := do
  require (request.bank.all fun bank => bank = "pps3a" || bank = "pps5a")
    (badRequest "invalid_thermal_profile_bank" "thermalControlProfile.bank must be pps3a or pps5a.")
  match request.op with
  | .preview | .save =>
      match request.profile with
      | none =>
          throw (badRequest "thermal_profile_required"
            "thermalControlProfile.profile is required for preview/save.")
      | some profile => do
          require (profile.points.length = 10)
            (badRequest "invalid_thermal_profile"
              "thermalControlProfile.profile.points must contain exactly 10 values.")
          require (profile.settings.all (·.isValid))
            (badRequest "invalid_thermal_profile"
              ("thermal profile settings must use 1..1000 alpha, 5000..28000 auto adjustable " ++
                "floor, 0..1000mA heater current reserve, 0..1000 approach-min ratio, and 1..255 " ++
                "approach max ticks."))
          require (profile.points.all (·.all (·.isValid)))
            (badRequest "invalid_thermal_profile"
              ("thermal profile points must use positive brake distance, 0..1000 permille power, " ++
                "100..4000 approach damping, <=5000 centi-C warmup/damping thresholds, <=10000 " ++
                "PI gains, and <=255 blend/lead ticks."))
  | .clearPreview | .clearSaved =>
      require (request.profile = none)
        (badRequest "invalid_thermal_profile"
          "thermalControlProfile.profile must be omitted for clear operations.")

variable (calibration : CalibrationControlRequest)

def validateCalibrationControlRequest : Except HttpError Unit :=
  require (calibration.ppsMv.all isPpsVoltage)
    (badRequest "invalid_calibration_pps"
      "calibration.ppsMv must use 100mV steps and stay within 5000..28000.")

variable (request : RuntimeConfigRequest)

/-- `activeCoolingEnabled` says what the mode says, where both are given. -/
def fanPolicyAgrees : Bool :=
  request.activeCoolingEnabled.all fun enabled =>
    request.postHeatCoolingMode.all fun mode => enabled = decide (mode ≠ "off")

def validateRuntimeConfig : Except HttpError Unit := do
  require (request.postHeatCoolingMode.all fun mode =>
      mode = "off" || mode = "normal" || mode = "fast")
    (badRequest "invalid_post_heat_cooling_mode"
      "postHeatCoolingMode must be off, normal, or fast.")
  require (request.heatingFanGuardMode.all fun mode =>
      mode = "off" || mode = "low" || mode = "medium" || mode = "high")
    (badRequest "invalid_heating_fan_guard_mode"
      "heatingFanGuardMode must be off, low, medium, or high.")
  require (fanPolicyAgrees request)
    (badRequest "fan_policy_conflict"
      "activeCoolingEnabled conflicts with postHeatCoolingMode.")
  require (request.thermalProfileMode.all fun mode =>
      mode = "auto" || mode = "65w" || mode = "100w")
    (badRequest "invalid_thermal_profile_mode" "thermalProfileMode must be auto, 65w, or 100w.")
  require (request.selectedPresetSlot.all fun slot => slot < 10)
    (badRequest "invalid_preset_slot" "selectedPresetSlot must be between 0 and 9.")
  require (request.presetsC.all fun presets => presets.length = 10)
    (badRequest "invalid_presets" "presetsC must contain exactly 10 values.")
  require (request.manualPpsMv.all isPpsVoltage)
    (badRequest "invalid_manual_pps"
      "manualPpsMv must use 100mV steps and stay within 5000..28000.")
  require (request.manualPpsMa.all fun milliamps => milliamps % 50 = 0 && milliamps ≠ 0)
    (badRequest "invalid_manual_pps" "manualPpsMa must use 50mA steps and be greater than 0.")
  request.calibration.forM validateCalibrationControlRequest
  request.thermalControlProfile.forM validateThermalControlProfileRequest

/-! ## What it does -/

def defaultPdRequestMv : UInt16 := 20000

variable (status : ControlPlaneStatus)

def effectivePpsCurrentCapabilityMa : Option UInt16 :=
  if status.currentMa ≠ 0 ∧ status.currentMa < 65536 then some status.currentMa.toUInt16
  else status.ppsCapabilityMaxMa

/-- The target of the selected preset, if the request brings presets and no target. -/
def requestedPreset (status : ControlPlaneStatus) : Option Int16 :=
  request.presetsC.bind fun presets =>
    (request.selectedPresetSlot.or status.selectedPresetSlot).bind fun slot => presets[slot]?.join

def applyTargetFields (status : ControlPlaneStatus) : ControlPlaneStatus :=
  { status with
    targetTempC := (request.targetTempC.or (requestedPreset request status)).getD status.targetTempC
    selectedPresetSlot := request.selectedPresetSlot.or status.selectedPresetSlot
    presetsC := request.presetsC.or status.presetsC }

def requestedCooling (status : ControlPlaneStatus) : Bool :=
  match request.postHeatCoolingMode with
  | some mode => mode ≠ "off"
  | none => request.activeCoolingEnabled.getD status.activeCoolingEnabled

def applyCoolingAndHeaterFields (status : ControlPlaneStatus) : ControlPlaneStatus :=
  { status with
    activeCoolingEnabled := requestedCooling request status
    postHeatCoolingMode := request.postHeatCoolingMode.getD status.postHeatCoolingMode
    heatingFanGuardMode := request.heatingFanGuardMode.getD status.heatingFanGuardMode
    heaterEnabled := request.heaterEnabled.getD status.heaterEnabled
    heaterOutputPercent :=
      if request.heaterEnabled = some false then 0 else status.heaterOutputPercent }

def requestsManualPps : Bool :=
  request.manualPpsEnabled ≠ some false &&
    (request.manualPpsEnabled = some true || request.manualPpsMv.isSome ||
      request.manualPpsMa.isSome)

/-- The supply is requested at the voltage. -/
def ControlPlaneStatus.requestPps (millivolts : UInt16)
    (milliamps : Option UInt16) : ControlPlaneStatus :=
  { status with
    manualPpsEnabled := true
    manualPpsMv := some millivolts
    manualPpsMa := milliamps
    pdRequestMv := millivolts
    pdContractMv := millivolts
    voltageMv := millivolts.toUInt32
    manualPpsError := none }

/-- It panics (`none`) without a voltage or a current. -/
def applyManualPpsFields (status : ControlPlaneStatus) : Option ControlPlaneStatus :=
  if request.manualPpsEnabled = some false then
    some
      { status with
        manualPpsEnabled := false
        manualPpsMv := none
        manualPpsMa := none
        pdRequestMv := defaultPdRequestMv
        pdContractMv := defaultPdRequestMv
        voltageMv := defaultPdRequestMv.toUInt32
        manualPpsError := none }
  else if requestsManualPps request = true then do
    let manualPpsMv ← request.manualPpsMv.or status.manualPpsMv
    let manualPpsMa ← (request.manualPpsMa.or status.manualPpsMa).or
      (effectivePpsCurrentCapabilityMa status)
    some (status.requestPps manualPpsMv (some manualPpsMa))
  else some status

def CalibrationControlRequest.setsPps : Bool :=
  calibration.ppsEnabled ≠ some false &&
    (calibration.ppsEnabled = some true || calibration.ppsMv.isSome)

/-- The calibration once the mode, the target and the heater are set. -/
def applyCalibrationMode (state : CalibrationRuntimeState) : CalibrationRuntimeState :=
  let state : CalibrationRuntimeState :=
    match calibration.mode with
    | some .off => {}
    | some mode => { state with mode := mode }
    | none => state
  { state with
    targetAdcMv := calibration.targetAdcMv.or state.targetAdcMv
    heaterEnabled := calibration.heaterEnabled.getD state.heaterEnabled }

def calibrationPpsMv (status : ControlPlaneStatus) : UInt16 :=
  ((calibration.ppsMv.or status.calibration.ppsMv).or status.manualPpsMv).getD status.pdContractMv

/-- The voltage of the calibration is the voltage of the manual PPS request as well. -/
def applyCalibrationPps (status : ControlPlaneStatus) : ControlPlaneStatus :=
  let ppsMv := calibrationPpsMv calibration status
  let ppsMa := (effectivePpsCurrentCapabilityMa status).or status.manualPpsMa
  let state :=
    { status.calibration with
      ppsEnabled := true
      ppsMv := some ppsMv
      ppsMa := ppsMa
      error := none }
  { status with calibration := state }.requestPps ppsMv ppsMa

def observedMv : CalibrationMode → Option UInt16
  | .rtdAdc => status.rtdRawAdcMv
  | .vinAdc => status.vinRawAdcMv
  | .off | .heaterCurve | .thermalPlant => none

/-- How far the observation is from the target, as `i16`. -/
def stabilityError : Option Int16 :=
  status.calibration.targetAdcMv.bind fun target =>
    (observedMv status status.calibration.mode).map fun observed =>
      Int16.ofInt (observed.toNat - target.toNat)

def refreshStability : ControlPlaneStatus :=
  { status with
    calibration :=
      { status.calibration with
        stabilityErrorMv := stabilityError status
        stable := (stabilityError status).any fun error => error.abs ≤ 8 } }

def applyMockCalibrationRuntimeConfig
    (calibration : CalibrationControlRequest) : ControlPlaneStatus :=
  let status :=
    { status with
      calibration := applyCalibrationMode calibration status.calibration
      heaterEnabled := calibration.heaterEnabled.getD status.heaterEnabled
      heaterOutputPercent :=
        if calibration.heaterEnabled = some false then 0 else status.heaterOutputPercent }
  if calibration.ppsEnabled = some false then
    { status with
      calibration := { status.calibration with ppsEnabled := false, ppsMv := none, ppsMa := none } }
  else if calibration.setsPps = true then refreshStability (applyCalibrationPps calibration status)
  else refreshStability status

def applyCalibrationFields (status : ControlPlaneStatus) : ControlPlaneStatus :=
  match request.calibration with
  | some calibration => applyMockCalibrationRuntimeConfig status calibration
  | none => status

def resolvedBank (mode : String) : String :=
  if mode = "100w" ∨
      (mode = "auto" ∧ status.ppsCapabilityMinMv.getD 65535 ≤ 20000 ∧
        20000 ≤ status.ppsCapabilityMaxMv.getD 0 ∧ 5000 ≤ status.ppsCapabilityMaxMa.getD 0) then
    "pps5a"
  else "pps3a"

def applyAttentionAndMode (status : ControlPlaneStatus) : ControlPlaneStatus :=
  { status with
    faultAttentionPending :=
      if request.faultAttentionAcknowledged = some true then false
      else status.faultAttentionPending
    thermalProfileMode := request.thermalProfileMode.getD status.thermalProfileMode
    thermalProfileResolvedBank :=
      (request.thermalProfileMode.map (resolvedBank status)).getD
        status.thermalProfileResolvedBank }

variable (device : DeviceRecord)

def DeviceRecord.savedProfile (bank : String) : Option ThermalControlProfilePackage :=
  if bank = "pps5a" then device.savedThermalControlProfilePps5a
  else device.savedThermalControlProfile

def DeviceRecord.setSavedProfile (bank : String)
    (profile : Option ThermalControlProfilePackage) : DeviceRecord :=
  if bank = "pps5a" then { device with savedThermalControlProfilePps5a := profile }
  else { device with savedThermalControlProfile := profile }

def applyMockThermalProfile
    (thermalControlProfile : Option ThermalControlProfileRequest) : DeviceRecord :=
  match thermalControlProfile with
  | none => device
  | some profile =>
      let bank := profile.bank.getD device.status.thermalProfileResolvedBank
      match profile.op with
      | .preview => { device with previewThermalControlProfile := profile.profile }
      | .clearPreview => { device with previewThermalControlProfile := none }
      | .save =>
          { device.setSavedProfile bank profile.profile with previewThermalControlProfile := none }
      | .clearSaved => device.setSavedProfile bank none

def refreshThermalControl : DeviceRecord :=
  let activeProfile := device.previewThermalControlProfile.or
    (device.savedProfile device.status.thermalProfileResolvedBank)
  let previewActive := device.previewThermalControlProfile.isSome
  { device with
    status :=
      { device.status with
        thermalControlProfilePreview := previewActive
        thermalControl :=
          mockThermalRuntime device.status.targetTempC activeProfile previewActive } }

def applyMockRuntimeFields (request : RuntimeConfigRequest) : Option DeviceRecord := do
  let status ← applyManualPpsFields request
    (applyCoolingAndHeaterFields request (applyTargetFields request device.status))
  let status := applyAttentionAndMode request (applyCalibrationFields request status)
  pure (refreshThermalControl
    (applyMockThermalProfile { device with status := status } request.thermalControlProfile))

/-! ## What the status shows of it -/

def runtimeRequestMatchesBasicFields (status : ControlPlaneStatus) : Bool :=
  request.targetTempC.all (status.targetTempC = ·) &&
    request.thermalProfileMode.all (status.thermalProfileMode = ·) &&
    request.selectedPresetSlot.all (status.selectedPresetSlot = some ·) &&
    request.presetsC.all (status.presetsC = some ·) &&
    request.activeCoolingEnabled.all (status.activeCoolingEnabled = ·) &&
    request.postHeatCoolingMode.all (status.postHeatCoolingMode = ·) &&
    request.heatingFanGuardMode.all (status.heatingFanGuardMode = ·) &&
    request.heaterEnabled.all (status.heaterEnabled = ·) &&
    request.manualPpsEnabled.all (status.manualPpsEnabled = ·) &&
    request.manualPpsMv.all (status.manualPpsMv = some ·) &&
    request.manualPpsMa.all (status.manualPpsMa = some ·) &&
    !(request.faultAttentionAcknowledged = some true && status.faultAttentionPending)

def runtimeRequestMatchesCalibration (status : ControlPlaneStatus) : Bool :=
  request.calibration.all fun calibration =>
    calibration.mode.all (status.calibration.mode = ·) &&
      calibration.ppsEnabled.all (status.calibration.ppsEnabled = ·) &&
      calibration.ppsMv.all (status.calibration.ppsMv = some ·) &&
      calibration.heaterEnabled.all (fun enabled =>
        status.calibration.heaterEnabled = enabled && status.heaterEnabled = enabled) &&
      calibration.targetAdcMv.all (status.calibration.targetAdcMv = some ·)

def runtimeRequestMatchesThermalProfile (status : ControlPlaneStatus) : Bool :=
  request.thermalControlProfile.all fun profile =>
    match profile.op with
    | .preview =>
        status.thermalControlProfilePreview &&
          status.thermalControl = mockThermalRuntime status.targetTempC profile.profile true
    | .clearPreview =>
        !status.thermalControlProfilePreview && status.thermalControl.profileSource ≠ "preview"
    | .save =>
        !status.thermalControlProfilePreview && status.thermalControl.profileSource = "saved" &&
          status.thermalControl = mockThermalRuntime status.targetTempC profile.profile false
    | .clearSaved => status.thermalControl.profileSource ≠ "saved"

def runtimeConfigMatchesStatus (status : ControlPlaneStatus) : Bool :=
  runtimeRequestMatchesBasicFields request status &&
    runtimeRequestMatchesCalibration request status &&
    runtimeRequestMatchesThermalProfile request status

end FluxPurr.Devd.Mock
