import FluxPurr.Usb.FieldForms

/-!
# Writing a USB frame

A frame is written through one flat structure, `UsbFrameWire`, whose fields are all
optional.  `UsbFrame.wireFields` are the fields of the object that is written.
-/

namespace FluxPurr.Usb

open FluxPurr.Wire FluxPurr.Memory

variable {T : WireTypes}

/-- Every field of every frame.  Those that are `None` are not written. -/
structure UsbFrameWire (T : WireTypes) where
  frameType : BoundedString 24
  protocolVersion : Option (BoundedString 24) := none
  framing : Option (BoundedString 8) := none
  identity : Option T.Identity := none
  capabilities : Option (BoundedVec (BoundedString capabilityMaxLen) capabilityCountMax) := none
  requestId : Option (BoundedString requestIdMaxLen) := none
  op : Option (BoundedString 24) := none
  ssid : Option (BoundedString memoryWifiSsidMaxLen) := none
  password : Option (BoundedString memoryWifiPasswordMaxLen) := none
  staticIpv4 : Option (Option WifiStaticIpv4Config) := none
  telemetryIntervalMs : Option UInt32 := none
  targetTempC : Option Int16 := none
  selectedPresetSlot : Option UInt32 := none
  presetsC : Option (Vector (Option Int16) frontpanelPresetCount) := none
  activeCoolingEnabled : Option Bool := none
  postHeatCoolingMode : Option PostHeatCoolingMode := none
  heatingFanGuardMode : Option HeatingFanGuardMode := none
  heaterEnabled : Option Bool := none
  manualPpsEnabled : Option Bool := none
  manualPpsMv : Option UInt16 := none
  manualPpsMa : Option UInt16 := none
  faultAttentionAcknowledged : Option Bool := none
  calibration : Option T.CalibrationControlCommand := none
  thermalProfileMode : Option ThermalProfileMode := none
  thermalControlProfile : Option T.ThermalControlProfileCommand := none
  runId : Option (BoundedString requestIdMaxLen) := none
  candidateId : Option (BoundedString requestIdMaxLen) := none
  candidateHash : Option (BoundedString thermalTuningHashMaxLen) := none
  powerClass : Option ThermalTuningPowerClass := none
  targetsC : Option (BoundedVec Int16 thermalTuningTargetCapacity) := none
  afterSequence : Option UInt32 := none
  candidateProfile : Option T.ThermalControlProfileCommand := none
  channel : Option CalibrationChannelWire := none
  referenceTempC : Option T.F32 := none
  referenceVinMv : Option UInt32 := none
  targetAdcMv : Option UInt16 := none
  observedMv : Option UInt16 := none
  expectedMv : Option UInt16 := none
  sampleIndex : Option UInt32 := none
  jobKind : Option CalibrationJobKindWire := none
  afterSample : Option UInt8 := none
  state : Option T.CalibrationStateWire := none
  slot : Option CalibrationSlotIdWire := none
  fit : Option T.CalibrationSlotFitWire := none
  heaterCurve : Option T.HeaterCurvePackageWire := none
  offset : Option UInt16 := none
  length : Option UInt8 := none
  bytes : Option (BoundedVec UInt8 eepromMaintenanceChunkMax) := none
  ok : Option Bool := none
  result : Option (UsbResponsePayload T) := none
  error : Option ApiError := none
  status : Option T.ControlPlaneStatus := none
  level : Option (BoundedString 8) := none
  message : Option (BoundedString errorMessageMaxLen) := none

namespace UsbFrameWire

def fields (wire : UsbFrameWire T) : List (String × Json) :=
  ("type", serialize wire.frameType) ::
    (optionalField "protocolVersion" wire.protocolVersion ++
    optionalField "framing" wire.framing ++
    optionalField "identity" wire.identity ++
    optionalField "capabilities" wire.capabilities ++
    optionalField "requestId" wire.requestId ++
    optionalField "op" wire.op ++
    optionalField "ssid" wire.ssid ++
    optionalField "password" wire.password ++
    optionalField "staticIpv4" wire.staticIpv4 ++
    optionalField "telemetryIntervalMs" wire.telemetryIntervalMs ++
    optionalField "targetTempC" wire.targetTempC ++
    optionalField "selectedPresetSlot" wire.selectedPresetSlot ++
    optionalField "presetsC" wire.presetsC ++
    optionalField "activeCoolingEnabled" wire.activeCoolingEnabled ++
    optionalField "postHeatCoolingMode" wire.postHeatCoolingMode ++
    optionalField "heatingFanGuardMode" wire.heatingFanGuardMode ++
    optionalField "heaterEnabled" wire.heaterEnabled ++
    optionalField "manualPpsEnabled" wire.manualPpsEnabled ++
    optionalField "manualPpsMv" wire.manualPpsMv ++
    optionalField "manualPpsMa" wire.manualPpsMa ++
    optionalField "faultAttentionAcknowledged" wire.faultAttentionAcknowledged ++
    optionalField "calibration" wire.calibration ++
    optionalField "thermalProfileMode" wire.thermalProfileMode ++
    optionalField "thermalControlProfile" wire.thermalControlProfile ++
    optionalField "runId" wire.runId ++
    optionalField "candidateId" wire.candidateId ++
    optionalField "candidateHash" wire.candidateHash ++
    optionalField "powerClass" wire.powerClass ++
    optionalField "targetsC" wire.targetsC ++
    optionalField "afterSequence" wire.afterSequence ++
    optionalField "candidateProfile" wire.candidateProfile ++
    optionalField "channel" wire.channel ++
    optionalField "referenceTempC" wire.referenceTempC ++
    optionalField "referenceVinMv" wire.referenceVinMv ++
    optionalField "targetAdcMv" wire.targetAdcMv ++
    optionalField "observedMv" wire.observedMv ++
    optionalField "expectedMv" wire.expectedMv ++
    optionalField "sampleIndex" wire.sampleIndex ++
    optionalField "kind" wire.jobKind ++
    optionalField "afterSample" wire.afterSample ++
    optionalField "state" wire.state ++
    optionalField "slot" wire.slot ++
    optionalField "fit" wire.fit ++
    optionalField "heaterCurve" wire.heaterCurve ++
    optionalField "offset" wire.offset ++
    optionalField "length" wire.length ++
    optionalField "bytes" wire.bytes ++
    optionalField "ok" wire.ok ++
    optionalField "result" wire.result ++
    optionalField "error" wire.error ++
    optionalField "status" wire.status ++
    optionalField "level" wire.level ++
    optionalField "message" wire.message)

def named (frameType : String) : UsbFrameWire T := { frameType := .ofText 24 frameType }

def encodeHello (protocolVersion : BoundedString 24) (framing : BoundedString 8)
    (identity : T.Identity)
    (capabilities : BoundedVec (BoundedString capabilityMaxLen) capabilityCountMax) :
    UsbFrameWire T :=
  { named "hello" with
    protocolVersion := some protocolVersion
    framing := some framing
    identity := some identity
    capabilities := some capabilities }

variable (requestId : BoundedString requestIdMaxLen)

def encodeRequest (op : UsbRequestOp) : UsbFrameWire T :=
  { named "request" with
    requestId := some requestId
    op := some (.ofText 24 op.asStr) }

def encodeWifiConfig (config : WifiConfigCommand) : UsbFrameWire T :=
  { named "wifi_config" with
    requestId := some requestId
    op := some (.ofText 24 (wifiConfigOpAsStr config.op))
    ssid := config.ssid
    password := config.password
    staticIpv4 := config.staticIpv4
    telemetryIntervalMs := config.telemetryIntervalMs }

/-- `fault_attention_acknowledged` is not taken over. -/
def encodeRuntimeConfig (config : RuntimeConfigCommand T) : UsbFrameWire T :=
  { named "runtime_config" with
    requestId := some requestId
    targetTempC := config.targetTempC
    selectedPresetSlot := config.selectedPresetSlot
    presetsC := config.presetsC
    activeCoolingEnabled := config.activeCoolingEnabled
    postHeatCoolingMode := config.postHeatCoolingMode
    heatingFanGuardMode := config.heatingFanGuardMode
    heaterEnabled := config.heaterEnabled
    manualPpsEnabled := config.manualPpsEnabled
    manualPpsMv := config.manualPpsMv
    manualPpsMa := config.manualPpsMa
    calibration := config.calibration
    thermalProfileMode := config.thermalProfileMode
    thermalControlProfile := config.thermalControlProfile }

def encodeThermalTuning (command : ThermalTuningCommand T) : UsbFrameWire T :=
  { named "thermal_tuning" with
    requestId := some requestId
    op := some (.ofText 24 command.op.snakeCase)
    runId := command.runId
    candidateId := command.candidateId
    candidateHash := command.candidateHash
    powerClass := command.powerClass
    targetsC := command.targetsC
    afterSequence := command.afterSequence
    candidateProfile := command.candidateProfile }

def encodeCalibrationConfig (config : CalibrationConfigCommand T) : UsbFrameWire T :=
  { named "calibration_config" with
    requestId := some requestId
    op := some (.ofText 24 config.op.asStr)
    channel := config.channel
    referenceTempC := config.referenceTempC
    referenceVinMv := config.referenceVinMv
    targetAdcMv := config.targetAdcMv
    observedMv := config.observedMv
    expectedMv := config.expectedMv
    sampleIndex := config.sampleIndex
    state := config.state
    slot := config.slot
    fit := config.fit }

def encodeCalibrationJob (command : CalibrationJobCommandWire) : UsbFrameWire T :=
  { named "calibration_job" with
    requestId := some requestId
    op := some (.ofText 24 command.op.asStr)
    jobKind := command.kind }

def encodeThermalPlantRun (afterSample : UInt8) : UsbFrameWire T :=
  { named "thermal_plant_run" with
    requestId := some requestId
    afterSample := some afterSample }

def encodeHeaterCurveConfig (config : HeaterCurveConfigCommand T) : UsbFrameWire T :=
  { named "heater_curve_config" with
    requestId := some requestId
    op := some (.ofText 24 config.op.asStr)
    heaterCurve := config.package }

def encodeHeaterCurveSave : UsbFrameWire T :=
  { named "heater_curve_save" with requestId := some requestId }

def encodeEepromMaintenance (command : EepromMaintenanceCommand) : UsbFrameWire T :=
  { named "eeprom_maintenance" with
    requestId := some requestId
    op := some (.ofText 24 command.op.snakeCase)
    offset := command.offset
    length := command.length
    bytes := command.bytes }

def encodeResponse (ok : Bool)
    (result : Option (UsbResponsePayload T)) (error : Option ApiError) : UsbFrameWire T :=
  { named "response" with
    requestId := some requestId
    ok := some ok
    result := result
    error := error }

def encodeStatus (status : T.ControlPlaneStatus) : UsbFrameWire T :=
  { named "status" with status := some status }

def encodeLog (level : BoundedString 8) (message : BoundedString errorMessageMaxLen) :
    UsbFrameWire T :=
  { named "log" with
    level := some level
    message := some message }

def encodeError (requestId : Option (BoundedString requestIdMaxLen)) (error : ApiError) :
    UsbFrameWire T :=
  { named "error" with
    requestId := requestId
    error := some error }

/-- `UsbFrameWire::from` -/
def ofFrame : UsbFrame T → UsbFrameWire T
  | .hello protocolVersion framing identity capabilities =>
      encodeHello protocolVersion framing identity capabilities
  | .request requestId op => encodeRequest requestId op
  | .wifiConfig requestId config => encodeWifiConfig requestId config
  | .runtimeConfig requestId config => encodeRuntimeConfig requestId config
  | .thermalTuning requestId command => encodeThermalTuning requestId command
  | .calibrationConfig requestId config => encodeCalibrationConfig requestId config
  | .calibrationJob requestId command => encodeCalibrationJob requestId command
  | .thermalPlantRun requestId afterSample => encodeThermalPlantRun requestId afterSample
  | .heaterCurveConfig requestId config => encodeHeaterCurveConfig requestId config
  | .heaterCurveSave requestId => encodeHeaterCurveSave requestId
  | .eepromMaintenance requestId command => encodeEepromMaintenance requestId command
  | .response requestId ok result error => encodeResponse requestId ok result error
  | .status status => encodeStatus status
  | .log level message => encodeLog level message
  | .error requestId error => encodeError requestId error

end UsbFrameWire

/-- `UsbStatusResponseWire` -/
def statusResponseFields (requestId : BoundedString requestIdMaxLen)
    (status : T.ControlPlaneStatus) : List (String × Json) :=
  [("type", .string "response"), ("requestId", serialize requestId), ("ok", .bool true),
    ("result", .object [("status", serialize status)])]

/-- The fields of the object that `write_usb_frame` writes.  A successful status response has
a writer of its own. -/
def UsbFrame.wireFields : UsbFrame T → List (String × Json)
  | .response requestId true (some (.status report)) none => statusResponseFields requestId report
  | frame => (UsbFrameWire.ofFrame frame).fields

/-- The line feed has to fit as well. -/
def writeUsbWire (json : Json) (capacity : ℕ) : Except UsbFrameError (List Char) :=
  if (String.ofList json.render).utf8ByteSize < capacity then .ok (json.render ++ ['\n'])
  else .error .outputTooSmall

/-- The line written into a buffer of `capacity` bytes. -/
def writeUsbFrame (frame : UsbFrame T) (capacity : ℕ) : Except UsbFrameError (List Char) :=
  writeUsbWire (.object frame.wireFields) capacity

end FluxPurr.Usb
