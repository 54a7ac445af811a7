import FluxPurr.Usb.FrameReader
import FluxPurr.Usb.FrameWriter

/-!
# What comes back of a USB frame

A written line is read back through the structure of its frame type.  For each frame type
one lemma reads the fields that the encoder wrote (`read_encode…`), and one builds the frame
from them (`parse_encode…`).  The frame that comes back is `UsbFrame.asRead`: what was
written, except that a runtime configuration loses its acknowledgement of a fault, and a
Wi-Fi command other than `Set` everything but its operation.
-/

namespace FluxPurr.Usb

open FluxPurr.Wire FluxPurr.Memory UsbFrameWire
open BoundedString
open Json

variable {T : WireTypes}

/-! ## What is written is valid JSON -/

theorem UsbFrameWire.allFields_fields (wire : UsbFrameWire T) :
    allFields isNumberLiteral (fun _ => true) wire.fields = true := by
  simp [UsbFrameWire.fields, allFields]

theorem UsbFrame.numbersValid_wireFields (frame : UsbFrame T) :
    (object frame.wireFields).numbersValid = true := by
  rw [numbersValid_object]
  unfold UsbFrame.wireFields
  split
  · simp [statusResponseFields, allFields, all]
  · exact allFields_fields _

theorem rdropWhile_render (fields : List (String × Json)) :
    ((object fields).render ++ ['\n']).rdropWhile isLineEnd = (object fields).render := by
  rw [List.rdropWhile_concat_pos _ _ _ (by decide), render,
    List.rdropWhile_concat_neg _ _ _ (by decide)]

variable {line : List Char} (requestId : BoundedString requestIdMaxLen)

variable {frame : UsbFrame T}

theorem parse_written {capacity : ℕ} (hescape : (object frame.wireFields).needsNoEscape = true)
    (hwrite : writeUsbFrame frame capacity = .ok line) :
    parse (line.rdropWhile isLineEnd) = some (.object frame.wireFields) := by
  unfold writeUsbFrame writeUsbWire at hwrite
  split at hwrite
  · cases hwrite
    rw [rdropWhile_render]
    exact parse_render frame.numbersValid_wireFields hescape
  · cases hwrite

variable {fields : List (String × Json)}

theorem parseUsbWire_of_parse {α : Type} {read : List (String × Json) → Option α} {wire : α}
    (hline : parse line = some (.object fields)) (hread : read fields = some wire) :
    parseUsbWire read line = .ok wire := by
  simp only [parseUsbWire, hline, hread]

variable {cap : ℕ}

theorem readOnly_text (name : String) (value : Option (BoundedString cap)) :
    (readOnly (optionalField name value) : Option (Option String)) =
      some (value.map text) := by
  cases value <;> rfl

/-! ## One frame type after the other -/

theorem read_encodeHello (protocolVersion : BoundedString 24) (framing : BoundedString 8)
    (identity : T.Identity)
    (capabilities : BoundedVec (BoundedString capabilityMaxLen) capabilityCountMax) :
    UsbHelloInboundWire.read
        (encodeHello protocolVersion framing identity capabilities).fields =
      some ⟨some protocolVersion, some framing, some identity, some capabilities⟩ := by
  simp [UsbHelloInboundWire.read, encodeHello, named, fields]

theorem read_encodeRequest (requestId : BoundedString requestIdMaxLen) (op : UsbRequestOp) :
    UsbRequestInboundWire.read (encodeRequest (T := T) requestId op).fields =
      some ⟨some requestId, some (.ofText 24 op.asStr)⟩ := by
  simp [UsbRequestInboundWire.read, encodeRequest, named, fields]

theorem read_encodeRuntimeConfig (config : RuntimeConfigCommand T) :
    UsbRuntimeConfigInboundWire.read (encodeRuntimeConfig requestId config).fields =
      some { config with requestId := some requestId, faultAttentionAcknowledged := none } := by
  simp [UsbRuntimeConfigInboundWire.read, encodeRuntimeConfig, named, fields]

theorem optionalField_thermalTuningOp (op : ThermalTuningCommandOp) :
    optionalField "op" (some (ofText 24 op.snakeCase)) =
      optionalField "op" (some op) := by
  cases op <;> rfl

theorem read_encodeThermalTuning (command : ThermalTuningCommand T) :
    UsbThermalTuningInboundWire.read (encodeThermalTuning requestId command).fields =
      some { command with requestId := some requestId, op := some command.op } := by
  simp [UsbThermalTuningInboundWire.read, encodeThermalTuning, named, fields,
    optionalField_thermalTuningOp]

theorem read_encodeCalibrationConfig (config : CalibrationConfigCommand T) :
    UsbCalibrationConfigInboundWire.read (encodeCalibrationConfig requestId config).fields =
      some { config with
        requestId := some requestId
        op := some (.ofText 24 config.op.asStr) } := by
  simp [UsbCalibrationConfigInboundWire.read, encodeCalibrationConfig, named, fields]

theorem read_encodeCalibrationJob (requestId : BoundedString requestIdMaxLen)
    (command : CalibrationJobCommandWire) :
    UsbCalibrationJobInboundWire.read (encodeCalibrationJob (T := T) requestId command).fields =
      some ⟨some requestId, some (.ofText 24 command.op.asStr), command.kind⟩ := by
  simp [UsbCalibrationJobInboundWire.read, encodeCalibrationJob, named, fields]

theorem read_encodeThermalPlantRun (requestId : BoundedString requestIdMaxLen)
    (afterSample : UInt8) :
    UsbThermalPlantRunInboundWire.read
        (encodeThermalPlantRun (T := T) requestId afterSample).fields =
      some ⟨some requestId, some afterSample⟩ := by
  simp [UsbThermalPlantRunInboundWire.read, encodeThermalPlantRun, named, fields]

theorem read_encodeHeaterCurveConfig (config : HeaterCurveConfigCommand T) :
    UsbHeaterCurveConfigInboundWire.read (encodeHeaterCurveConfig requestId config).fields =
      some ⟨some requestId, some (.ofText 24 config.op.asStr), config.package⟩ := by
  simp [UsbHeaterCurveConfigInboundWire.read, encodeHeaterCurveConfig, named, fields]

theorem read_encodeHeaterCurveSave (requestId : BoundedString requestIdMaxLen) :
    UsbRequestIdInboundWire.read (encodeHeaterCurveSave (T := T) requestId).fields =
      some ⟨some requestId⟩ := by
  simp [UsbRequestIdInboundWire.read, encodeHeaterCurveSave, named, fields]

theorem optionalField_eepromMaintenanceOp (op : EepromMaintenanceOp) :
    optionalField "op" (some (ofText 24 op.snakeCase)) =
      optionalField "op" (some op) := by
  cases op <;> rfl

theorem read_encodeEepromMaintenance (requestId : BoundedString requestIdMaxLen)
    (command : EepromMaintenanceCommand) :
    UsbEepromMaintenanceInboundWire.read
        (encodeEepromMaintenance (T := T) requestId command).fields =
      some { command with requestId := some requestId, op := some command.op } := by
  simp [UsbEepromMaintenanceInboundWire.read, encodeEepromMaintenance, named, fields,
    optionalField_eepromMaintenanceOp]

theorem read_encodeResponse (ok : Bool)
    (result : Option (UsbResponsePayload T)) (error : Option ApiError) :
    UsbResponseInboundWire.read (encodeResponse requestId ok result error).fields =
      some ⟨some requestId, some ok, result, error⟩ := by
  simp [UsbResponseInboundWire.read, encodeResponse, named, fields]

theorem read_encodeStatus (status : T.ControlPlaneStatus) :
    UsbStatusInboundWire.read (encodeStatus status).fields = some ⟨some status⟩ := by
  simp [UsbStatusInboundWire.read, encodeStatus, named, fields]

theorem read_encodeLog (level : BoundedString 8) (message : BoundedString errorMessageMaxLen) :
    UsbLogInboundWire.read (encodeLog (T := T) level message).fields =
      some ⟨some level, some message⟩ := by
  simp [UsbLogInboundWire.read, encodeLog, named, fields]

theorem read_encodeError (requestId : Option (BoundedString requestIdMaxLen)) (error : ApiError) :
    UsbErrorInboundWire.read (encodeError (T := T) requestId error).fields =
      some ⟨requestId, some error⟩ := by
  simp [UsbErrorInboundWire.read, encodeError, named, fields]

theorem text_wifiConfigOp (op : WifiConfigOp) :
    (ofText 24 (wifiConfigOpAsStr op)).text = wifiConfigOpAsStr op := by
  cases op <;> rfl

theorem read_encodeWifiConfig_header (requestId : BoundedString requestIdMaxLen)
    (config : WifiConfigCommand) :
    UsbWifiConfigHeaderWire.read (encodeWifiConfig (T := T) requestId config).fields =
      some ⟨some requestId.text, some (wifiConfigOpAsStr config.op)⟩ := by
  simp [UsbWifiConfigHeaderWire.read, encodeWifiConfig, named, fields, readOnly_text,
    text_wifiConfigOp]

theorem read_encodeWifiConfig_set (requestId : BoundedString requestIdMaxLen)
    (config : WifiConfigCommand) :
    UsbWifiConfigSetInboundWire.read (encodeWifiConfig (T := T) requestId config).fields =
      some ⟨some requestId.text, config.ssid.map text,
        config.password.map text, config.staticIpv4,
        config.telemetryIntervalMs⟩ := by
  have hpatch : readPatch ["staticIpv4"] (encodeWifiConfig (T := T) requestId config).fields =
      some config.staticIpv4 := by
    refine readPatch_eq "staticIpv4" ?_
    simp [encodeWifiConfig, named, fields]
  simp only [UsbWifiConfigSetInboundWire.read, hpatch]
  simp [encodeWifiConfig, named, fields, readOnly_text]

theorem read_statusResponse (status : T.ControlPlaneStatus) :
    UsbResponseInboundWire.read (statusResponseFields requestId status) =
      some ⟨some requestId, some true, some (.status status), none⟩ := by
  have hfields : statusResponseFields requestId status =
      ("type", .string "response") :: (optionalField "requestId" (some requestId) ++
        optionalField "ok" (some true) ++
        optionalField "result" (some (UsbResponsePayload.status status))) := rfl
  simp [UsbResponseInboundWire.read, hfields]

theorem ok_bind {α β : Type} (a : α) (f : α → Except UsbFrameError β) :
    (Except.ok a >>= f) = f a := rfl

theorem boundedString_text (value : BoundedString cap) :
    boundedString cap (some value.text) = .ok value := dif_pos value.fits

theorem boundedOptionalString_text (value : Option (BoundedString cap)) :
    boundedOptionalString cap (value.map text) = .ok value := by
  cases value with
  | none => rfl
  | some value => simp [boundedOptionalString, boundedString_text, Except.map]

/-! ## The operations by their names -/

theorem parseUsbRequestOp_asStr (op : UsbRequestOp) :
    parseUsbRequestOp (some (ofText 24 op.asStr).text) = .ok op := by
  cases op <;> rfl

theorem parseCalibrationConfigOp_asStr (op : CalibrationConfigOp) :
    parseCalibrationConfigOp (some (ofText 24 op.asStr).text) = .ok op := by
  cases op <;> rfl

theorem parseCalibrationJobOp_asStr (op : CalibrationJobOp) :
    parseCalibrationJobOp (some (ofText 24 op.asStr).text) = .ok op := by
  cases op <;> rfl

theorem parseHeaterCurveConfigOp_asStr (op : HeaterCurveConfigOp) :
    parseHeaterCurveConfigOp (some (ofText 24 op.asStr).text) = .ok op := by
  cases op <;> rfl

theorem parseWifiConfigOp_asStr (op : WifiConfigOp) :
    parseWifiConfigOp (some (wifiConfigOpAsStr op)) = .ok op := by
  cases op <;> rfl

/-! ## The frame that comes back -/

/-- The frame that is read from the line of `frame`. -/
def UsbFrame.asRead : UsbFrame T → UsbFrame T
  | .runtimeConfig requestId config =>
      .runtimeConfig requestId { config with faultAttentionAcknowledged := none }
  | .wifiConfig requestId config =>
      if config.op = .clear ∨ config.op = .cancel then .wifiConfig requestId { op := config.op }
      else .wifiConfig requestId config
  | frame => frame

theorem parse_encodeWifiConfig {requestId : BoundedString requestIdMaxLen}
    {config : WifiConfigCommand}
    (hline : parse line = some (.object (encodeWifiConfig (T := T) requestId config).fields)) :
    parseUsbWifiConfig line = .ok (UsbFrame.wifiConfig (T := T) requestId config).asRead := by
  have hheader := parseUsbWire_of_parse hline (read_encodeWifiConfig_header requestId config)
  have hset := parseUsbWire_of_parse hline (read_encodeWifiConfig_set requestId config)
  simp only [parseUsbWifiConfig, hheader, ok_bind, boundedString_text, parseWifiConfigOp_asStr]
  by_cases hop : config.op = .clear ∨ config.op = .cancel
  · simp only [if_pos hop, UsbFrame.asRead]
  · simp only [if_neg hop, UsbFrame.asRead, hset, ok_bind, boundedString_text,
      boundedOptionalString_text]

theorem parseUsbWire_frameType (frameType : String) (hline : parse line = some (.object fields))
    (htype : selected ["type"] fields = [("type", .string frameType)])
    (hlen : frameType.utf8ByteSize ≤ 24) :
    parseUsbWire readFrameType line = .ok ⟨frameType, hlen⟩ :=
  parseUsbWire_of_parse hline (requiredField_eq (a := (⟨frameType, hlen⟩ : BoundedString 24)) htype)

theorem parseUsbWire_encode {wire : UsbFrameWire T} (frameType : String)
    (hline : parse line = some (.object wire.fields))
    (hwire : wire.frameType = .ofText 24 frameType) (hlen : frameType.utf8ByteSize ≤ 24) :
    parseUsbWire readFrameType line = .ok ⟨frameType, hlen⟩ := by
  refine parseUsbWire_frameType frameType hline ?_ hlen
  simp [fields, hwire, ofText, hlen, serialize]

theorem parseUsbFrame_ofFrame
    (hline : parse (line.rdropWhile isLineEnd) = some (.object (ofFrame frame).fields)) :
    parseUsbFrame line = .ok frame.asRead := by
  cases frame with
  | hello protocolVersion framing identity capabilities =>
    have htype := parseUsbWire_encode "hello" hline rfl (by decide)
    have hwire := parseUsbWire_of_parse hline
      (read_encodeHello protocolVersion framing identity capabilities)
    simp only [parseUsbFrame, htype, parseUsbHello, hwire]
    rfl
  | request requestId op =>
    have htype := parseUsbWire_encode "request" hline rfl (by decide)
    have hwire := parseUsbWire_of_parse hline (read_encodeRequest requestId op)
    simp only [parseUsbFrame, htype, parseUsbRequest, hwire]
    show (do
      let op ← parseUsbRequestOp (some (ofText 24 op.asStr).text)
      _) = _
    rw [parseUsbRequestOp_asStr]
    rfl
  | wifiConfig requestId config =>
    have htype := parseUsbWire_encode "wifi_config" hline rfl (by decide)
    simp only [parseUsbFrame, htype]
    exact parse_encodeWifiConfig hline
  | runtimeConfig requestId config =>
    have htype := parseUsbWire_encode "runtime_config" hline rfl (by decide)
    have hwire := parseUsbWire_of_parse hline (read_encodeRuntimeConfig requestId config)
    simp only [parseUsbFrame, htype, parseUsbRuntimeConfig, hwire]
    rfl
  | thermalTuning requestId command =>
    have htype := parseUsbWire_encode "thermal_tuning" hline rfl (by decide)
    have hwire := parseUsbWire_of_parse hline (read_encodeThermalTuning requestId command)
    simp only [parseUsbFrame, htype, parseUsbThermalTuning, hwire]
    rfl
  | calibrationConfig requestId config =>
    have htype := parseUsbWire_encode "calibration_config" hline rfl (by decide)
    have hwire := parseUsbWire_of_parse hline (read_encodeCalibrationConfig requestId config)
    simp only [parseUsbFrame, htype, parseUsbCalibrationConfig, hwire]
    show (do
      let op ← parseCalibrationConfigOp (some (ofText 24 config.op.asStr).text)
      _) = _
    rw [parseCalibrationConfigOp_asStr]
    rfl
  | calibrationJob requestId command =>
    have htype := parseUsbWire_encode "calibration_job" hline rfl (by decide)
    have hwire := parseUsbWire_of_parse hline (read_encodeCalibrationJob requestId command)
    simp only [parseUsbFrame, htype, parseUsbCalibrationJob, hwire]
    show (do
      let op ← parseCalibrationJobOp (some (ofText 24 command.op.asStr).text)
      _) = _
    rw [parseCalibrationJobOp_asStr]
    rfl
  | thermalPlantRun requestId afterSample =>
    have htype := parseUsbWire_encode "thermal_plant_run" hline rfl (by decide)
    have hwire := parseUsbWire_of_parse hline (read_encodeThermalPlantRun requestId afterSample)
    simp only [parseUsbFrame, htype, parseUsbThermalPlantRun, hwire]
    rfl
  | heaterCurveConfig requestId config =>
    have htype := parseUsbWire_encode "heater_curve_config" hline rfl (by decide)
    have hwire := parseUsbWire_of_parse hline (read_encodeHeaterCurveConfig requestId config)
    simp only [parseUsbFrame, htype, parseUsbHeaterCurveConfig, hwire]
    show (do
      let op ← parseHeaterCurveConfigOp (some (ofText 24 config.op.asStr).text)
      _) = _
    rw [parseHeaterCurveConfigOp_asStr]
    rfl
  | heaterCurveSave requestId =>
    have htype := parseUsbWire_encode "heater_curve_save" hline rfl (by decide)
    have hwire := parseUsbWire_of_parse hline (read_encodeHeaterCurveSave requestId)
    simp only [parseUsbFrame, htype, parseUsbHeaterCurveSave, hwire]
    rfl
  | eepromMaintenance requestId command =>
    have htype := parseUsbWire_encode "eeprom_maintenance" hline rfl (by decide)
    have hwire := parseUsbWire_of_parse hline (read_encodeEepromMaintenance requestId command)
    simp only [parseUsbFrame, htype, parseUsbEepromMaintenance, hwire]
    rfl
  | response requestId ok result error =>
    have htype := parseUsbWire_encode "response" hline rfl (by decide)
    have hwire := parseUsbWire_of_parse hline (read_encodeResponse requestId ok result error)
    simp only [parseUsbFrame, htype, parseUsbResponse, hwire]
    rfl
  | status status =>
    have htype := parseUsbWire_encode "status" hline rfl (by decide)
    have hwire := parseUsbWire_of_parse hline (read_encodeStatus status)
    simp only [parseUsbFrame, htype, parseUsbStatus, hwire]
    rfl
  | log level message =>
    have htype := parseUsbWire_encode "log" hline rfl (by decide)
    have hwire := parseUsbWire_of_parse hline (read_encodeLog level message)
    simp only [parseUsbFrame, htype, parseUsbLog, hwire]
    rfl
  | error requestId error =>
    have htype := parseUsbWire_encode "error" hline rfl (by decide)
    have hwire := parseUsbWire_of_parse hline (read_encodeError requestId error)
    simp only [parseUsbFrame, htype, parseUsbError, hwire]
    rfl

theorem parseUsbFrame_wireFields
    (hline : parse (line.rdropWhile isLineEnd) = some (.object frame.wireFields)) :
    parseUsbFrame line = .ok frame.asRead := by
  unfold UsbFrame.wireFields at hline
  split at hline
  case h_1 requestId report =>
    -- The writer of its own leaves out what is absent, like the general one.
    have htype := parseUsbWire_frameType "response" hline rfl (by decide)
    have hwire := parseUsbWire_of_parse hline (read_statusResponse requestId report)
    simp only [parseUsbFrame, htype, parseUsbResponse, hwire]
    rfl
  case h_2 => exact parseUsbFrame_ofFrame hline

/-- Every field of the frame is among those that are written and read again. -/
def UsbFrame.isCarriedWhole : UsbFrame T → Prop
  | .runtimeConfig _ config => config.faultAttentionAcknowledged = none
  | .wifiConfig _ config =>
      config.op = .set ∨
        config.ssid = none ∧ config.password = none ∧ config.staticIpv4 = none ∧
          config.telemetryIntervalMs = none
  | _ => True

theorem wifiConfig_eq_bare_iff (config : WifiConfigCommand) : { op := config.op } = config ↔
      config.ssid = none ∧ config.password = none ∧ config.staticIpv4 = none ∧
        config.telemetryIntervalMs = none := by
  obtain ⟨op, ssid, password, staticIpv4, telemetryIntervalMs⟩ := config
  simp only [WifiConfigCommand.mk.injEq, true_and]
  simp only [eq_comm]

theorem RuntimeConfigCommand.eq_unacknowledged_iff (config : RuntimeConfigCommand T) :
    { config with faultAttentionAcknowledged := none } = config ↔
      config.faultAttentionAcknowledged = none := by
  obtain ⟨⟩ := config
  simp only [RuntimeConfigCommand.mk.injEq, true_and, and_true]
  simp only [eq_comm]

theorem UsbFrame.asRead_eq_iff (frame : UsbFrame T) :
    frame.asRead = frame ↔ frame.isCarriedWhole := by
  cases frame
  case runtimeConfig requestId config =>
    simp only [asRead, isCarriedWhole, UsbFrame.runtimeConfig.injEq, true_and]
    exact config.eq_unacknowledged_iff
  case wifiConfig requestId config =>
    rw [asRead, isCarriedWhole]
    cases hop : config.op with
    | set => simp
    | clear =>
      simp only [true_or, if_true, UsbFrame.wifiConfig.injEq, true_and]
      rw [← hop, wifiConfig_eq_bare_iff config]
      simp [hop]
    | cancel =>
      simp only [or_true, if_true, UsbFrame.wifiConfig.injEq, true_and]
      rw [← hop, wifiConfig_eq_bare_iff config]
      simp [hop]
  all_goals simp [asRead, isCarriedWhole]

/-- A line that was written is read as the frame it was written for exactly when the codec
carries this frame whole. -/
theorem parseUsbFrame_writeUsbFrame_iff {frame : UsbFrame T} {capacity : ℕ} {line : List Char}
    (hescape : (object frame.wireFields).needsNoEscape = true)
    (hwrite : writeUsbFrame frame capacity = .ok line) :
    parseUsbFrame line = .ok frame ↔ frame.isCarriedWhole := by
  rw [parseUsbFrame_wireFields (parse_written hescape hwrite), Except.ok.injEq, frame.asRead_eq_iff]

/-! ## A frame that does not come back -/

instance : Serde Unit where
  serialize _ := .object []
  deserialize
    | .object _ => some ()
    | _ => none

instance : WireStruct Unit where
  deserialize_serialize _ := rfl
  numbersValid_serialize _ := rfl
  serialize_ne_null := nofun

/-- Every structure without fields. -/
def emptyStructs : WireTypes where
  F32 := Unit
  Identity := Unit
  CalibrationControlCommand := Unit
  ThermalControlProfileCommand := Unit
  CalibrationStateWire := Unit
  CalibrationSlotFitWire := Unit
  HeaterCurvePackageWire := Unit
  InstallStatus := Unit
  NetworkSummary := Unit
  ControlPlaneStatus := Unit
  ThermalStatusWire := Unit
  LanPairingCode := Unit
  WifiConfigReceipt := Unit
  CalibrationJobStateWire := Unit
  ThermalPlantRunSnapshotWire := Unit
  ThermalTuningStatusWire := Unit
  HeaterCurveStateWire := Unit
  FlashPreparationStatus := Unit

/-- A host acknowledges a fault. -/
def acknowledgeFault : UsbFrame emptyStructs :=
  .runtimeConfig (.ofText _ "req-7") { faultAttentionAcknowledged := some true }

def acknowledgeFaultLine : List Char :=
  "\x7b\"type\":\"runtime_config\",\"requestId\":\"req-7\"\x7d\n".toList

theorem writeUsbFrame_acknowledgeFault :
    writeUsbFrame acknowledgeFault 256 = .ok acknowledgeFaultLine := by
  decide +kernel

theorem round_trip_loses_acknowledgement :
    ¬ ∀ (T : WireTypes) (frame : UsbFrame T) (capacity : ℕ) (line : List Char),
      (object frame.wireFields).needsNoEscape = true →
      writeUsbFrame frame capacity = .ok line → parseUsbFrame line = .ok frame := by
  intro hall
  have hescape : (object acknowledgeFault.wireFields).needsNoEscape = true := by decide
  have hread := hall _ acknowledgeFault 256 _ hescape writeUsbFrame_acknowledgeFault
  rw [parseUsbFrame_wireFields (parse_written hescape writeUsbFrame_acknowledgeFault)] at hread
  have hwhole := acknowledgeFault.asRead_eq_iff.mp (Except.ok.inj hread)
  cases hwhole

/-- A host goes back to DHCP and keeps everything else. -/
def backToDhcp : UsbFrame emptyStructs :=
  .wifiConfig (.ofText _ "req-8") { op := .set, staticIpv4 := some none }

def backToDhcpLine : List Char :=
  "\x7b\"type\":\"wifi_config\",\"requestId\":\"req-8\",\"op\":\"set\",\"staticIpv4\":null\x7d\n".toList

theorem writeUsbFrame_backToDhcp : writeUsbFrame backToDhcp 256 = .ok backToDhcpLine := by
  decide +kernel

theorem round_trip_backToDhcp : parseUsbFrame backToDhcpLine = .ok backToDhcp :=
  (parseUsbFrame_writeUsbFrame_iff (by decide) writeUsbFrame_backToDhcp).mpr (.inl rfl)

end FluxPurr.Usb
