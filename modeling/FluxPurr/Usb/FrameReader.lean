import FluxPurr.Usb.FieldForms
import Mathlib.Data.List.DropRight

/-!
# Reading a USB frame

The type of a frame is read first, and then the fields of this type through a structure of
its own.  Fields that the structure does not have are skipped.
-/

namespace FluxPurr.Usb

open FluxPurr.Wire FluxPurr.Memory

variable {T : WireTypes}

/-! ## The fields of each frame type -/

structure UsbHelloInboundWire (T : WireTypes) where
  protocolVersion : Option (BoundedString 24)
  framing : Option (BoundedString 8)
  identity : Option T.Identity
  capabilities : Option (BoundedVec (BoundedString capabilityMaxLen) capabilityCountMax)

variable (fields : List (String × Json)) (line : List Char)

def UsbHelloInboundWire.read : Option (UsbHelloInboundWire T) := do
  let protocolVersion ← readField ["protocolVersion"] fields
  let framing ← readField ["framing"] fields
  let identity ← readField ["identity"] fields
  let capabilities ← readField ["capabilities"] fields
  some { protocolVersion, framing, identity, capabilities }

structure UsbRequestInboundWire where
  requestId : Option (BoundedString requestIdMaxLen)
  op : Option (BoundedString 24)

def UsbRequestInboundWire.read : Option UsbRequestInboundWire := do
  let requestId ← readField ["requestId"] fields
  let op ← readField ["op"] fields
  some { requestId, op }

structure UsbWifiConfigHeaderWire where
  requestId : Option String
  op : Option String

def UsbWifiConfigHeaderWire.read : Option UsbWifiConfigHeaderWire := do
  let requestId ← readField ["requestId"] fields
  let op ← readField ["op"] fields
  some { requestId, op }

structure UsbWifiConfigSetInboundWire where
  requestId : Option String
  ssid : Option String
  password : Option String
  staticIpv4 : Option (Option WifiStaticIpv4Config)
  telemetryIntervalMs : Option UInt32

def UsbWifiConfigSetInboundWire.read : Option UsbWifiConfigSetInboundWire := do
  let requestId ← readField ["requestId"] fields
  let ssid ← readField ["ssid"] fields
  let password ← readField ["password"] fields
  let staticIpv4 ← readPatch ["staticIpv4"] fields
  let telemetryIntervalMs ← readField ["telemetryIntervalMs"] fields
  some { requestId, ssid, password, staticIpv4, telemetryIntervalMs }

structure UsbRuntimeConfigInboundWire (T : WireTypes) where
  requestId : Option (BoundedString requestIdMaxLen)
  targetTempC : Option Int16
  selectedPresetSlot : Option UInt32
  presetsC : Option (Vector (Option Int16) frontpanelPresetCount)
  activeCoolingEnabled : Option Bool
  postHeatCoolingMode : Option PostHeatCoolingMode
  heatingFanGuardMode : Option HeatingFanGuardMode
  heaterEnabled : Option Bool
  manualPpsEnabled : Option Bool
  manualPpsMv : Option UInt16
  manualPpsMa : Option UInt16
  faultAttentionAcknowledged : Option Bool
  calibration : Option T.CalibrationControlCommand
  thermalProfileMode : Option ThermalProfileMode
  thermalControlProfile : Option T.ThermalControlProfileCommand

def UsbRuntimeConfigInboundWire.read : Option (UsbRuntimeConfigInboundWire T) := do
  let requestId ← readField ["requestId"] fields
  let targetTempC ← readField ["targetTempC"] fields
  let selectedPresetSlot ← readField ["selectedPresetSlot"] fields
  let presetsC ← readField ["presetsC"] fields
  let activeCoolingEnabled ← readField ["activeCoolingEnabled"] fields
  let postHeatCoolingMode ← readField ["postHeatCoolingMode"] fields
  let heatingFanGuardMode ← readField ["heatingFanGuardMode"] fields
  let heaterEnabled ← readField ["heaterEnabled"] fields
  let manualPpsEnabled ← readField ["manualPpsEnabled"] fields
  let manualPpsMv ← readField ["manualPpsMv"] fields
  let manualPpsMa ← readField ["manualPpsMa"] fields
  let faultAttentionAcknowledged ← readField ["faultAttentionAcknowledged"] fields
  let calibration ← readField ["calibration"] fields
  let thermalProfileMode ← readField ["thermalProfileMode"] fields
  let thermalControlProfile ← readField ["thermalControlProfile"] fields
  some { requestId, targetTempC, selectedPresetSlot, presetsC, activeCoolingEnabled,
         postHeatCoolingMode, heatingFanGuardMode, heaterEnabled, manualPpsEnabled, manualPpsMv,
         manualPpsMa, faultAttentionAcknowledged, calibration, thermalProfileMode,
         thermalControlProfile }

structure UsbThermalTuningInboundWire (T : WireTypes) where
  requestId : Option (BoundedString requestIdMaxLen)
  op : Option ThermalTuningCommandOp
  runId : Option (BoundedString requestIdMaxLen)
  candidateId : Option (BoundedString requestIdMaxLen)
  candidateHash : Option (BoundedString thermalTuningHashMaxLen)
  powerClass : Option ThermalTuningPowerClass
  targetsC : Option (BoundedVec Int16 thermalTuningTargetCapacity)
  afterSequence : Option UInt32
  candidateProfile : Option T.ThermalControlProfileCommand

def UsbThermalTuningInboundWire.read : Option (UsbThermalTuningInboundWire T) := do
  let requestId ← readField ["requestId"] fields
  let op ← readField ["op"] fields
  let runId ← readField ["runId"] fields
  let candidateId ← readField ["candidateId"] fields
  let candidateHash ← readField ["candidateHash"] fields
  let powerClass ← readField ["powerClass"] fields
  let targetsC ← readField ["targetsC"] fields
  let afterSequence ← readField ["afterSequence"] fields
  let candidateProfile ← readField ["candidateProfile"] fields
  some { requestId, op, runId, candidateId, candidateHash, powerClass, targetsC, afterSequence,
         candidateProfile }

structure UsbCalibrationConfigInboundWire (T : WireTypes) where
  requestId : Option (BoundedString requestIdMaxLen)
  op : Option (BoundedString 24)
  channel : Option CalibrationChannelWire
  referenceTempC : Option T.F32
  referenceVinMv : Option UInt32
  targetAdcMv : Option UInt16
  observedMv : Option UInt16
  expectedMv : Option UInt16
  sampleIndex : Option UInt32
  state : Option T.CalibrationStateWire
  slot : Option CalibrationSlotIdWire
  fit : Option T.CalibrationSlotFitWire

def UsbCalibrationConfigInboundWire.read : Option (UsbCalibrationConfigInboundWire T) := do
  let requestId ← readField ["requestId"] fields
  let op ← readField ["op"] fields
  let channel ← readField ["channel"] fields
  let referenceTempC ← readField ["referenceTempC"] fields
  let referenceVinMv ← readField ["referenceVinMv"] fields
  let targetAdcMv ← readField ["targetAdcMv"] fields
  let observedMv ← readField ["observedMv"] fields
  let expectedMv ← readField ["expectedMv"] fields
  let sampleIndex ← readField ["sampleIndex"] fields
  let state ← readField ["state"] fields
  let slot ← readField ["slot"] fields
  let fit ← readField ["fit"] fields
  some { requestId, op, channel, referenceTempC, referenceVinMv, targetAdcMv, observedMv,
         expectedMv, sampleIndex, state, slot, fit }

structure UsbCalibrationJobInboundWire where
  requestId : Option (BoundedString requestIdMaxLen)
  op : Option (BoundedString 24)
  kind : Option CalibrationJobKindWire

def UsbCalibrationJobInboundWire.read : Option UsbCalibrationJobInboundWire := do
  let requestId ← readField ["requestId"] fields
  let op ← readField ["op"] fields
  let kind ← readField ["kind", "jobKind"] fields
  some { requestId, op, kind }

structure UsbThermalPlantRunInboundWire where
  requestId : Option (BoundedString requestIdMaxLen)
  afterSample : Option UInt8

def UsbThermalPlantRunInboundWire.read : Option UsbThermalPlantRunInboundWire := do
  let requestId ← readField ["requestId"] fields
  let afterSample ← readField ["afterSample"] fields
  some { requestId, afterSample }

structure UsbHeaterCurveConfigInboundWire (T : WireTypes) where
  requestId : Option (BoundedString requestIdMaxLen)
  op : Option (BoundedString 24)
  heaterCurve : Option T.HeaterCurvePackageWire

def UsbHeaterCurveConfigInboundWire.read : Option (UsbHeaterCurveConfigInboundWire T) := do
  let requestId ← readField ["requestId"] fields
  let op ← readField ["op"] fields
  let heaterCurve ← readField ["heaterCurve"] fields
  some { requestId, op, heaterCurve }

structure UsbRequestIdInboundWire where
  requestId : Option (BoundedString requestIdMaxLen)

def UsbRequestIdInboundWire.read : Option UsbRequestIdInboundWire := do
  let requestId ← readField ["requestId"] fields
  some { requestId }

structure UsbEepromMaintenanceInboundWire where
  requestId : Option (BoundedString requestIdMaxLen)
  op : Option EepromMaintenanceOp
  offset : Option UInt16
  length : Option UInt8
  bytes : Option (BoundedVec UInt8 eepromMaintenanceChunkMax)

def UsbEepromMaintenanceInboundWire.read : Option UsbEepromMaintenanceInboundWire := do
  let requestId ← readField ["requestId"] fields
  let op ← readField ["op"] fields
  let offset ← readField ["offset"] fields
  let length ← readField ["length"] fields
  let bytes ← readField ["bytes"] fields
  some { requestId, op, offset, length, bytes }

structure UsbResponseInboundWire (T : WireTypes) where
  requestId : Option (BoundedString requestIdMaxLen)
  ok : Option Bool
  result : Option (UsbResponsePayload T)
  error : Option ApiError

def UsbResponseInboundWire.read : Option (UsbResponseInboundWire T) := do
  let requestId ← readField ["requestId"] fields
  let ok ← readField ["ok"] fields
  let result ← readField ["result"] fields
  let error ← readField ["error"] fields
  some { requestId, ok, result, error }

structure UsbStatusInboundWire (T : WireTypes) where
  status : Option T.ControlPlaneStatus

def UsbStatusInboundWire.read : Option (UsbStatusInboundWire T) := do
  let status ← readField ["status"] fields
  some { status }

structure UsbLogInboundWire where
  level : Option (BoundedString 8)
  message : Option (BoundedString errorMessageMaxLen)

def UsbLogInboundWire.read : Option UsbLogInboundWire := do
  let level ← readField ["level"] fields
  let message ← readField ["message"] fields
  some { level, message }

structure UsbErrorInboundWire where
  requestId : Option (BoundedString requestIdMaxLen)
  error : Option ApiError

def UsbErrorInboundWire.read : Option UsbErrorInboundWire := do
  let requestId ← readField ["requestId"] fields
  let error ← readField ["error"] fields
  some { requestId, error }

/-! ## Frames -/

/-- `serde_json_core::from_str` into a structure whose fields `read` picks out. -/
def parseUsbWire {α : Type} (read : List (String × Json) → Option α) (line : List Char) :
    Except UsbFrameError α :=
  match Json.parse line with
  | some (.object fields) =>
      match read fields with
      | some wire => .ok wire
      | none => .error .malformedJson
  | _ => .error .malformedJson

/-- `ok_or(UsbFrameError::MalformedJson)` -/
def okOrMalformed {α : Type} : Option α → Except UsbFrameError α
  | some value => .ok value
  | none => .error .malformedJson

def boundedString (cap : ℕ) (value : Option String) : Except UsbFrameError (BoundedString cap) := do
  let text ← okOrMalformed value
  if h : text.utf8ByteSize ≤ cap then .ok ⟨text, h⟩ else .error .malformedJson

def boundedOptionalString (cap : ℕ) :
    Option String → Except UsbFrameError (Option (BoundedString cap))
  | none => .ok none
  | some text => (boundedString cap (some text)).map some

def parseUsbHello : Except UsbFrameError (UsbFrame T) := do
  let frame ← parseUsbWire UsbHelloInboundWire.read line
  .ok (.hello (← okOrMalformed frame.protocolVersion) (← okOrMalformed frame.framing)
    (← okOrMalformed frame.identity) (← okOrMalformed frame.capabilities))

def parseUsbRequest : Except UsbFrameError (UsbFrame T) := do
  let frame ← parseUsbWire UsbRequestInboundWire.read line
  .ok (.request (← okOrMalformed frame.requestId)
    (← parseUsbRequestOp (frame.op.map BoundedString.text)))

/-- For `Clear` and `Cancel` only the header is looked at. -/
def parseUsbWifiConfig : Except UsbFrameError (UsbFrame T) := do
  let header ← parseUsbWire UsbWifiConfigHeaderWire.read line
  let requestId ← boundedString requestIdMaxLen header.requestId
  let op ← parseWifiConfigOp header.op
  if op = .clear ∨ op = .cancel then
    .ok (.wifiConfig requestId { op := op })
  else do
    let frame ← parseUsbWire UsbWifiConfigSetInboundWire.read line
    let requestId ← boundedString requestIdMaxLen frame.requestId
    let ssid ← boundedOptionalString memoryWifiSsidMaxLen frame.ssid
    let password ← boundedOptionalString memoryWifiPasswordMaxLen frame.password
    .ok (.wifiConfig requestId
      { op := op
        ssid := ssid
        password := password
        staticIpv4 := frame.staticIpv4
        telemetryIntervalMs := frame.telemetryIntervalMs })

def parseUsbRuntimeConfig : Except UsbFrameError (UsbFrame T) := do
  let frame ← parseUsbWire UsbRuntimeConfigInboundWire.read line
  .ok (.runtimeConfig (← okOrMalformed frame.requestId)
    { targetTempC := frame.targetTempC
      selectedPresetSlot := frame.selectedPresetSlot
      presetsC := frame.presetsC
      activeCoolingEnabled := frame.activeCoolingEnabled
      postHeatCoolingMode := frame.postHeatCoolingMode
      heatingFanGuardMode := frame.heatingFanGuardMode
      heaterEnabled := frame.heaterEnabled
      manualPpsEnabled := frame.manualPpsEnabled
      manualPpsMv := frame.manualPpsMv
      manualPpsMa := frame.manualPpsMa
      faultAttentionAcknowledged := frame.faultAttentionAcknowledged
      calibration := frame.calibration
      thermalProfileMode := frame.thermalProfileMode
      thermalControlProfile := frame.thermalControlProfile })

def parseUsbThermalTuning : Except UsbFrameError (UsbFrame T) := do
  let frame ← parseUsbWire UsbThermalTuningInboundWire.read line
  .ok (.thermalTuning (← okOrMalformed frame.requestId)
    { op := ← okOrMalformed frame.op
      runId := frame.runId
      candidateId := frame.candidateId
      candidateHash := frame.candidateHash
      powerClass := frame.powerClass
      targetsC := frame.targetsC
      afterSequence := frame.afterSequence
      candidateProfile := frame.candidateProfile })

def parseUsbCalibrationConfig : Except UsbFrameError (UsbFrame T) := do
  let frame ← parseUsbWire UsbCalibrationConfigInboundWire.read line
  .ok (.calibrationConfig (← okOrMalformed frame.requestId)
    { op := ← parseCalibrationConfigOp (frame.op.map BoundedString.text)
      channel := frame.channel
      referenceTempC := frame.referenceTempC
      referenceVinMv := frame.referenceVinMv
      targetAdcMv := frame.targetAdcMv
      observedMv := frame.observedMv
      expectedMv := frame.expectedMv
      sampleIndex := frame.sampleIndex
      state := frame.state
      slot := frame.slot
      fit := frame.fit })

def parseUsbCalibrationJob : Except UsbFrameError (UsbFrame T) := do
  let frame ← parseUsbWire UsbCalibrationJobInboundWire.read line
  .ok (.calibrationJob (← okOrMalformed frame.requestId)
    { op := ← parseCalibrationJobOp (frame.op.map BoundedString.text)
      kind := frame.kind })

def parseUsbThermalPlantRun : Except UsbFrameError (UsbFrame T) := do
  let frame ← parseUsbWire UsbThermalPlantRunInboundWire.read line
  .ok (.thermalPlantRun (← okOrMalformed frame.requestId) (frame.afterSample.getD 0))

def parseUsbHeaterCurveConfig : Except UsbFrameError (UsbFrame T) := do
  let frame ← parseUsbWire UsbHeaterCurveConfigInboundWire.read line
  .ok (.heaterCurveConfig (← okOrMalformed frame.requestId)
    { op := ← parseHeaterCurveConfigOp (frame.op.map BoundedString.text)
      package := frame.heaterCurve })

def parseUsbHeaterCurveSave : Except UsbFrameError (UsbFrame T) := do
  let frame ← parseUsbWire UsbRequestIdInboundWire.read line
  .ok (.heaterCurveSave (← okOrMalformed frame.requestId))

def parseUsbEepromMaintenance : Except UsbFrameError (UsbFrame T) := do
  let frame ← parseUsbWire UsbEepromMaintenanceInboundWire.read line
  .ok (.eepromMaintenance (← okOrMalformed frame.requestId)
    { op := ← okOrMalformed frame.op
      offset := frame.offset
      length := frame.length
      bytes := frame.bytes })

def parseUsbResponse : Except UsbFrameError (UsbFrame T) := do
  let frame ← parseUsbWire UsbResponseInboundWire.read line
  .ok (.response (← okOrMalformed frame.requestId) (← okOrMalformed frame.ok) frame.result
    frame.error)

def parseUsbStatus : Except UsbFrameError (UsbFrame T) := do
  let frame ← parseUsbWire UsbStatusInboundWire.read line
  .ok (.status (← okOrMalformed frame.status))

def parseUsbLog : Except UsbFrameError (UsbFrame T) := do
  let frame ← parseUsbWire UsbLogInboundWire.read line
  .ok (.log (← okOrMalformed frame.level) (← okOrMalformed frame.message))

def parseUsbError : Except UsbFrameError (UsbFrame T) := do
  let frame ← parseUsbWire UsbErrorInboundWire.read line
  .ok (.error frame.requestId (← okOrMalformed frame.error))

def isLineEnd (c : Char) : Bool := c = '\r' || c = '\n'

def readFrameType : Option (BoundedString 24) := requiredField ["type"] fields

def parseUsbFrame : Except UsbFrameError (UsbFrame T) := do
  let trimmed := line.rdropWhile isLineEnd
  let frameType ← parseUsbWire readFrameType trimmed
  match frameType.text with
  | "hello" => parseUsbHello trimmed
  | "request" => parseUsbRequest trimmed
  | "wifi_config" => parseUsbWifiConfig trimmed
  | "runtime_config" => parseUsbRuntimeConfig trimmed
  | "thermal_tuning" => parseUsbThermalTuning trimmed
  | "calibration_config" => parseUsbCalibrationConfig trimmed
  | "calibration_job" => parseUsbCalibrationJob trimmed
  | "thermal_plant_run" => parseUsbThermalPlantRun trimmed
  | "heater_curve_config" => parseUsbHeaterCurveConfig trimmed
  | "heater_curve_save" => parseUsbHeaterCurveSave trimmed
  | "eeprom_maintenance" => parseUsbEepromMaintenance trimmed
  | "response" => parseUsbResponse trimmed
  | "status" => parseUsbStatus trimmed
  | "log" => parseUsbLog trimmed
  | "error" => parseUsbError trimmed
  | _ => .error .malformedJson

end FluxPurr.Usb
