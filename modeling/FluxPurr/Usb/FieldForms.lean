import FluxPurr.Usb.Frames

/-!
# JSON forms of the fields of a frame

Strings, enumerations, the small structures and the payload of a response, each with the
proof that its form is faithful, and the names of the operations.
-/

namespace FluxPurr.Usb

open FluxPurr.Wire FluxPurr.Memory

/-! ## Strings and enumerations -/

instance (cap : ℕ) : Serde (BoundedString cap) where
  serialize s := .string s.text
  deserialize
    | .string text => if h : text.utf8ByteSize ≤ cap then some ⟨text, h⟩ else none
    | _ => none

instance (cap : ℕ) : FaithfulSerde (BoundedString cap) where
  deserialize_serialize s := dif_pos s.fits
  numbersValid_serialize _ := rfl

instance (cap : ℕ) : NonNullSerde (BoundedString cap) := ⟨nofun⟩

/-- `&str` -/
instance : Serde String where
  serialize := .string
  deserialize
    | .string text => some text
    | _ => none

def snakeCasePostHeatCoolingMode : PostHeatCoolingMode → String
  | .off => "off"
  | .normal => "normal"
  | .fast => "fast"

instance : Serde PostHeatCoolingMode :=
  enumerationSerde snakeCasePostHeatCoolingMode [.off, .normal, .fast]

instance : FaithfulSerde PostHeatCoolingMode where
  deserialize_serialize mode := by cases mode <;> rfl
  numbersValid_serialize _ := rfl

instance : NonNullSerde PostHeatCoolingMode := ⟨nofun⟩

def snakeCaseHeatingFanGuardMode : HeatingFanGuardMode → String
  | .off => "off"
  | .low => "low"
  | .medium => "medium"
  | .high => "high"

instance : Serde HeatingFanGuardMode :=
  enumerationSerde snakeCaseHeatingFanGuardMode [.off, .low, .medium, .high]

instance : FaithfulSerde HeatingFanGuardMode where
  deserialize_serialize mode := by cases mode <;> rfl
  numbersValid_serialize _ := rfl

instance : NonNullSerde HeatingFanGuardMode := ⟨nofun⟩

def thermalProfileModeName : ThermalProfileMode → String
  | .auto => "auto"
  | .w65 => "65w"
  | .w100 => "100w"

instance : Serde ThermalProfileMode :=
  enumerationSerde thermalProfileModeName [.auto, .w65, .w100]

instance : FaithfulSerde ThermalProfileMode where
  deserialize_serialize mode := by cases mode <;> rfl
  numbersValid_serialize _ := rfl

instance : NonNullSerde ThermalProfileMode := ⟨nofun⟩

namespace ThermalTuningPowerClass

def snakeCase : ThermalTuningPowerClass → String
  | pps3a => "pps3a"
  | pps5a => "pps5a"

instance : Serde ThermalTuningPowerClass := enumerationSerde snakeCase [pps3a, pps5a]

instance : FaithfulSerde ThermalTuningPowerClass where
  deserialize_serialize mode := by cases mode <;> rfl
  numbersValid_serialize _ := rfl

instance : NonNullSerde ThermalTuningPowerClass := ⟨nofun⟩

end ThermalTuningPowerClass

namespace CalibrationChannelWire

def snakeCase : CalibrationChannelWire → String
  | rtdAdc => "rtd_adc"
  | vinAdc => "vin_adc"

instance : Serde CalibrationChannelWire := enumerationSerde snakeCase [rtdAdc, vinAdc]

instance : FaithfulSerde CalibrationChannelWire where
  deserialize_serialize mode := by cases mode <;> rfl
  numbersValid_serialize _ := rfl

instance : NonNullSerde CalibrationChannelWire := ⟨nofun⟩

end CalibrationChannelWire

namespace CalibrationSlotIdWire

def snakeCase : CalibrationSlotIdWire → String
  | a => "a"
  | b => "b"

instance : Serde CalibrationSlotIdWire := enumerationSerde snakeCase [a, b]

instance : FaithfulSerde CalibrationSlotIdWire where
  deserialize_serialize mode := by cases mode <;> rfl
  numbersValid_serialize _ := rfl

instance : NonNullSerde CalibrationSlotIdWire := ⟨nofun⟩

end CalibrationSlotIdWire

namespace CalibrationJobKindWire

def snakeCase : CalibrationJobKindWire → String
  | vinAdcAuto => "vin_adc_auto"
  | thermalPlantAuto => "thermal_plant_auto"

instance : Serde CalibrationJobKindWire := enumerationSerde snakeCase [vinAdcAuto, thermalPlantAuto]

instance : FaithfulSerde CalibrationJobKindWire where
  deserialize_serialize mode := by cases mode <;> rfl
  numbersValid_serialize _ := rfl

instance : NonNullSerde CalibrationJobKindWire := ⟨nofun⟩

end CalibrationJobKindWire

namespace ThermalTuningCommandOp

/-- The names in `encode_thermal_tuning`, and those of the derived form. -/
def snakeCase : ThermalTuningCommandOp → String
  | .start => "start"
  | .cancel => "cancel"
  | .seal => "seal"
  | .confirmSave => "confirm_save"
  | .read => "read"

instance : Serde ThermalTuningCommandOp :=
  enumerationSerde snakeCase [.start, .cancel, .seal, .confirmSave, .read]

instance : FaithfulSerde ThermalTuningCommandOp where
  deserialize_serialize mode := by cases mode <;> rfl
  numbersValid_serialize _ := rfl

instance : NonNullSerde ThermalTuningCommandOp := ⟨nofun⟩

end ThermalTuningCommandOp

namespace EepromMaintenanceOp

/-- The names in `encode_eeprom_maintenance`, and those of the derived form. -/
def snakeCase : EepromMaintenanceOp → String
  | read => "read"
  | write => "write"
  | erase => "erase"

instance : Serde EepromMaintenanceOp := enumerationSerde snakeCase [read, write, erase]

instance : FaithfulSerde EepromMaintenanceOp where
  deserialize_serialize mode := by cases mode <;> rfl
  numbersValid_serialize _ := rfl

instance : NonNullSerde EepromMaintenanceOp := ⟨nofun⟩

end EepromMaintenanceOp

/-! ## Structures -/

def staticIpv4Fields (config : WifiStaticIpv4Config) : List (String × Json) :=
  [("address", serialize config.address), ("prefixLen", serialize config.prefixLen),
    ("gateway", serialize config.gateway), ("dns", serialize config.dns)]

def readStaticIpv4 (fields : List (String × Json)) : Option WifiStaticIpv4Config := do
  let address ← requiredField ["address"] fields
  let prefixLen ← requiredField ["prefixLen"] fields
  let gateway ← requiredField ["gateway"] fields
  let dns ← requiredField ["dns"] fields
  some { address, prefixLen, gateway, dns }

/-- `WifiStaticIpv4Wire` -/
instance : Serde WifiStaticIpv4Config where
  serialize config := .object (staticIpv4Fields config)
  deserialize
    | .object fields => readStaticIpv4 fields
    | _ => none

theorem readStaticIpv4_fields (config : WifiStaticIpv4Config) :
    readStaticIpv4 (staticIpv4Fields config) = some config := by
  have haddress : requiredField ["address"] (staticIpv4Fields config) = some config.address :=
    requiredField_eq rfl
  have hprefix : requiredField ["prefixLen"] (staticIpv4Fields config) = some config.prefixLen :=
    requiredField_eq rfl
  have hgateway : requiredField ["gateway"] (staticIpv4Fields config) = some config.gateway :=
    requiredField_eq rfl
  have hdns : requiredField ["dns"] (staticIpv4Fields config) = some config.dns :=
    requiredField_eq rfl
  simp [readStaticIpv4, haddress, hprefix, hgateway, hdns]

instance : FaithfulSerde WifiStaticIpv4Config where
  deserialize_serialize := readStaticIpv4_fields
  numbersValid_serialize config := by
    show (Json.object (staticIpv4Fields config)).numbersValid = true
    simp [numbersValid_object, staticIpv4Fields, Json.allFields]

instance : NonNullSerde WifiStaticIpv4Config := ⟨nofun⟩

def ApiError.fields (error : ApiError) : List (String × Json) :=
  [("code", serialize error.code), ("message", serialize error.message),
    ("retryable", serialize error.retryable)]

def ApiError.read (fields : List (String × Json)) : Option ApiError := do
  let code ← requiredField ["code"] fields
  let message ← requiredField ["message"] fields
  let retryable ← requiredField ["retryable"] fields
  some { code, message, retryable }

instance : Serde ApiError where
  serialize error := .object error.fields
  deserialize
    | .object fields => ApiError.read fields
    | _ => none

theorem ApiError.read_fields (error : ApiError) : ApiError.read error.fields = some error := by
  have hcode : requiredField ["code"] error.fields = some error.code := requiredField_eq rfl
  have hmessage : requiredField ["message"] error.fields = some error.message :=
    requiredField_eq rfl
  have hretryable : requiredField ["retryable"] error.fields = some error.retryable :=
    requiredField_eq rfl
  simp [ApiError.read, hcode, hmessage, hretryable]

instance : FaithfulSerde ApiError where
  deserialize_serialize := ApiError.read_fields
  numbersValid_serialize error := by
    show (Json.object error.fields).numbersValid = true
    simp [numbersValid_object, ApiError.fields, Json.allFields]

instance : NonNullSerde ApiError := ⟨nofun⟩

variable {T : WireTypes}

/-- Tagged with the name of the variant. -/
instance : Serde (UsbResponsePayload T) where
  serialize
    | .identity identity => .object [("identity", serialize identity)]
    | .installStatus status => .object [("install_status", serialize status)]
    | .network network => .object [("network", serialize network)]
    | .status status => .object [("status", serialize status)]
    | .thermalStatus status => .object [("thermalStatus", serialize status)]
    | .lanPairingCode code => .object [("lan_pairing_code", serialize code)]
    | .wifi receipt => .object [("wifi", serialize receipt)]
    | .calibration state => .object [("calibration", serialize state)]
    | .calibrationJob job => .object [("calibration_job", serialize job)]
    | .thermalPlantRun run => .object [("thermal_plant_run", serialize run)]
    | .thermalTuning status => .object [("thermal_tuning", serialize status)]
    | .heaterCurve curve => .object [("heater_curve", serialize curve)]
    | .eepromBytes bytes => .object [("eeprom_bytes", serialize bytes)]
    | .flashPreparation status => .object [("flashPreparation", serialize status)]
    | .ack => .string "ack"
  deserialize
    | .object [(tag, value)] =>
        match tag with
        | "identity" => (deserialize value).map .identity
        | "install_status" => (deserialize value).map .installStatus
        | "network" => (deserialize value).map .network
        | "status" => (deserialize value).map .status
        | "thermalStatus" => (deserialize value).map .thermalStatus
        | "lan_pairing_code" => (deserialize value).map .lanPairingCode
        | "wifi" => (deserialize value).map .wifi
        | "calibration" => (deserialize value).map .calibration
        | "calibration_job" => (deserialize value).map .calibrationJob
        | "thermal_plant_run" => (deserialize value).map .thermalPlantRun
        | "thermal_tuning" => (deserialize value).map .thermalTuning
        | "heater_curve" => (deserialize value).map .heaterCurve
        | "eeprom_bytes" => (deserialize value).map .eepromBytes
        | "flashPreparation" => (deserialize value).map .flashPreparation
        | _ => none
    | .string "ack" => some .ack
    | _ => none

theorem numbersValid_tagged {α : Type} [Serde α] [FaithfulSerde α] (tag : String) (a : α) :
    (Json.object [(tag, serialize a)]).numbersValid = true := by
  simp [numbersValid_object, Json.allFields]

instance : FaithfulSerde (UsbResponsePayload T) where
  deserialize_serialize payload := by
    cases payload
    case ack => rfl
    all_goals exact congrArg (Option.map _) (deserialize_serialize _)
  numbersValid_serialize payload := by
    cases payload
    case ack => rfl
    all_goals exact numbersValid_tagged _ _

instance : NonNullSerde (UsbResponsePayload T) where
  serialize_ne_null payload := by cases payload <;> exact nofun

/-! ## Names of the operations -/

def UsbRequestOp.asStr : UsbRequestOp → String
  | getIdentity => "get_identity"
  | getInstallStatus => "get_install_status"
  | completeSetup => "complete_setup"
  | resetPersistence => "reset_persistence"
  | getNetwork => "get_network"
  | getStatus => "get_status"
  | getThermalStatus => "get_thermal_status"
  | getLanPairingCode => "get_lan_pairing_code"
  | openLanPairingWindow => "open_lan_pairing_window"
  | closeLanPairingWindow => "close_lan_pairing_window"
  | getCalibration => "get_calibration"
  | getCalibrationJob => "get_calibration_job"
  | getHeaterCurve => "get_heater_curve"
  | getThermalTuning => "get_thermal_tuning"
  | setLogLevel => "set_log_level"
  | clearLanPairingToken => "clear_lan_pairing_token"
  | prepareFlash => "prepare_flash"
  | getFlashPreparation => "get_flash_preparation"
  | cancelFlashPreparation => "cancel_flash_preparation"

def parseUsbRequestOp : Option String → Except UsbFrameError UsbRequestOp
  | some "get_identity" => .ok .getIdentity
  | some "get_install_status" => .ok .getInstallStatus
  | some "complete_setup" => .ok .completeSetup
  | some "reset_persistence" => .ok .resetPersistence
  | some "get_network" => .ok .getNetwork
  | some "get_status" => .ok .getStatus
  | some "get_thermal_status" => .ok .getThermalStatus
  | some "get_lan_pairing_code" => .ok .getLanPairingCode
  | some "open_lan_pairing_window" => .ok .openLanPairingWindow
  | some "close_lan_pairing_window" => .ok .closeLanPairingWindow
  | some "get_calibration" => .ok .getCalibration
  | some "get_calibration_job" => .ok .getCalibrationJob
  | some "get_heater_curve" => .ok .getHeaterCurve
  | some "get_thermal_tuning" => .ok .getThermalTuning
  | some "set_log_level" => .ok .setLogLevel
  | some "clear_lan_pairing_token" => .ok .clearLanPairingToken
  | some "prepare_flash" => .ok .prepareFlash
  | some "get_flash_preparation" => .ok .getFlashPreparation
  | some "cancel_flash_preparation" => .ok .cancelFlashPreparation
  | _ => .error .malformedJson

def HeaterCurveConfigOp.asStr : HeaterCurveConfigOp → String
  | preview => "preview"
  | clearPreview => "clear_preview"

def parseHeaterCurveConfigOp : Option String → Except UsbFrameError HeaterCurveConfigOp
  | some "preview" => .ok .preview
  | some "clear_preview" => .ok .clearPreview
  | _ => .error .malformedJson

def CalibrationConfigOp.asStr : CalibrationConfigOp → String
  | .capture => "capture"
  | .delete => "delete"
  | .clear => "clear"
  | .import => "import"
  | .setActiveSlot => "set_active_slot"
  | .setSlotFit => "set_slot_fit"

def parseCalibrationConfigOp : Option String → Except UsbFrameError CalibrationConfigOp
  | some "capture" => .ok .capture
  | some "delete" => .ok .delete
  | some "clear" => .ok .clear
  | some "import" => .ok .import
  | some "set_active_slot" => .ok .setActiveSlot
  | some "set_slot_fit" => .ok .setSlotFit
  | _ => .error .malformedJson

def CalibrationJobOp.asStr : CalibrationJobOp → String
  | start => "start"
  | cancel => "cancel"

def parseCalibrationJobOp : Option String → Except UsbFrameError CalibrationJobOp
  | some "start" => .ok .start
  | some "cancel" => .ok .cancel
  | _ => .error .malformedJson

def wifiConfigOpAsStr : WifiConfigOp → String
  | .set => "set"
  | .clear => "clear"
  | .cancel => "cancel"

def parseWifiConfigOp : Option String → Except UsbFrameError WifiConfigOp
  | some "set" => .ok .set
  | some "clear" => .ok .clear
  | some "cancel" => .ok .cancel
  | _ => .error .malformedJson

end FluxPurr.Usb
