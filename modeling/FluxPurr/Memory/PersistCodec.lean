import FluxPurr.Memory.FieldCodec
import FluxPurr.Memory.PersistDomain

/-!
# FPR2 records

A record is a header of twenty bytes and a payload of elements: the magic bytes,
the version, the domain, the sequence number, the length of the payload and a
checksum of all that and the payload.  `encodePersistRecord` writes a domain into a
buffer of a given capacity, `decodePersistRecord` reads it back and rejects what is
not a record of this version.

The decoder starts from default values and applies the elements one by one
(`PersistDecodeState.applyTlv`); elements it does not know are skipped.
-/

namespace FluxPurr.Memory

open FluxPurr.Wire FluxPurr.Supply

abbrev fpr2FormatVersion : UInt8 := 2
abbrev fpr2HeaderLen : ℕ := 20
abbrev fpr2MaxRecordSize : ℕ := 768

/-- `*b"FPR2"`. -/
def fpr2Magic : List UInt8 := [0x46, 0x50, 0x52, 0x32]

abbrev tlvTargetTempC : UInt8 := 0x01
abbrev tlvSelectedPresetSlot : UInt8 := 0x02
abbrev tlvPresetsC : UInt8 := 0x03
abbrev tlvActiveCoolingEnabled : UInt8 := 0x04
abbrev tlvPostHeatCoolingMode : UInt8 := 0x05
abbrev tlvHeatingFanGuardMode : UInt8 := 0x06
abbrev tlvWifiSsid : UInt8 := 0x10
abbrev tlvWifiPassword : UInt8 := 0x11
abbrev tlvWifiAutoReconnect : UInt8 := 0x12
abbrev tlvTelemetryIntervalMs : UInt8 := 0x13
abbrev tlvAdcCalibrationSamples : UInt8 := 0x20
abbrev tlvLegacyDraftAdcCalibration : UInt8 := 0x21
abbrev tlvAdcCalibrationReferences : UInt8 := 0x22
abbrev tlvLegacyDraftAdcCalibrationReferences : UInt8 := 0x23
abbrev tlvAdcCalibrationTargets : UInt8 := 0x24
abbrev tlvLegacyDraftAdcCalibrationTargets : UInt8 := 0x25
abbrev tlvAdcCalibrationSlots : UInt8 := 0x26
abbrev tlvAdcCalibrationActiveSlots : UInt8 := 0x27
abbrev tlvActiveHeaterCurve : UInt8 := 0x30
abbrev tlvActiveThermalControlProfile : UInt8 := 0x31
abbrev tlvThermalControlProfilePps3a : UInt8 := 0x32
abbrev tlvThermalControlProfilePps5a : UInt8 := 0x33
abbrev tlvThermalProfileMode : UInt8 := 0x34
abbrev tlvHeaterCurveRawObservations : UInt8 := 0x35
abbrev tlvThermalPlantCandidate : UInt8 := 0x36
abbrev tlvThermalPlantActive : UInt8 := 0x37
abbrev tlvLanPairingToken : UInt8 := 0x38
abbrev tlvWifiStaticIpv4 : UInt8 := 0x39
abbrev tlvThermalPlantTransientActive : UInt8 := 0x3a
abbrev tlvHeaterCurveTransactionId : UInt8 := 0x3b
abbrev tlvCommissioningRequired : UInt8 := 0x3c
abbrev tlvHeaterSupplyBoundary : UInt8 := 0x3d

abbrev fpr2TlvStatus : UInt8 := 0x01
abbrev fpr2TlvGeneration : UInt8 := 0x02
abbrev fpr2TlvKind : UInt8 := 0x03
abbrev fpr2TlvThermalPlantState : UInt8 := 0x01
abbrev thermalPlantStateEmpty : UInt8 := 0

/-! ## Checksum -/

def crc32Bit (crc : UInt32) : UInt32 := (crc >>> 1) ^^^ (0xedb88320 &&& (0 - (crc &&& 1)))

def crc32Byte (crc : UInt32) (byte : UInt8) : UInt32 := crc32Bit^[8] (crc ^^^ byte.toUInt32)

def crc32Update (crc : UInt32) (bytes : List UInt8) : UInt32 := bytes.foldl crc32Byte crc

def crc32 (bytes : List UInt8) : UInt32 := crc32Update 0xffffffff bytes

/-- The checksum of a record: the header without the checksum itself, then the
payload. -/
def recordCrc (header payload : List UInt8) : UInt32 :=
  crc32Update (crc32 header) payload ^^^ 0xffffffff

/-! ## Writing -/

inductive Fpr2EncodeError where
  | bufferTooSmall
  | payloadTooLarge
deriving DecidableEq, Repr

/-- The payload so far with one more element. -/
def pushFpr2Tlv (capacity : ℕ) (payload : List UInt8) (tlv : Tlv) :
    Except Fpr2EncodeError (List UInt8) :=
  if capacity < payload.length + 3 + tlv.value.length then .error .bufferTooSmall
  else if 65535 < tlv.value.length then .error .payloadTooLarge
  else .ok (payload ++ encodeTlv 2 tlv)

def pushFpr2Tlvs (capacity : ℕ) (payload : List UInt8) :
    List Tlv → Except Fpr2EncodeError (List UInt8)
  | [] => .ok payload
  | tlv :: rest =>
      (pushFpr2Tlv capacity payload tlv).bind fun payload => pushFpr2Tlvs capacity payload rest

/-- `encode_safety_calibration`, as the elements it pushes. -/
def safetyCalibrationTlvs (value : SafetyCalibration) : List Tlv :=
  [⟨tlvCommissioningRequired, [value.commissioningRequired.toUInt8]⟩,
   ⟨tlvAdcCalibrationSamples, encodeAdcCalibrationSamples value.adcCalibration⟩,
   ⟨tlvAdcCalibrationReferences, encodeAdcCalibrationReferences value.adcCalibration⟩,
   ⟨tlvAdcCalibrationTargets, encodeAdcCalibrationTargets value.adcCalibration⟩,
   ⟨tlvAdcCalibrationSlots, encodeAdcCalibrationSlots value.adcCalibration⟩,
   ⟨tlvAdcCalibrationActiveSlots, encodeAdcCalibrationActiveSlots value.adcCalibration⟩,
   ⟨tlvActiveHeaterCurve, encodeHeaterCurve value.activeHeaterCurve⟩,
   ⟨tlvHeaterCurveRawObservations,
    encodeHeaterCurveRawObservations value.heaterCurveRawObservations⟩] ++
  value.heaterCurveTransactionId.toList.map fun transactionId =>
    ⟨tlvHeaterCurveTransactionId, u32Le transactionId⟩

def encodeThermalProfileMode : ThermalProfileMode → UInt8
  | .auto => 0
  | .w65 => 1
  | .w100 => 2

/-- `encode_thermal_policy`. -/
def thermalPolicyTlvs (value : ThermalPolicy) : List Tlv :=
  [⟨tlvThermalControlProfilePps3a, encodeThermalControlProfile value.pps3aProfile⟩,
   ⟨tlvThermalControlProfilePps5a, encodeThermalControlProfile value.pps5aProfile⟩,
   ⟨tlvThermalProfileMode, [encodeThermalProfileMode value.mode]⟩]

/-- `encode_user_preferences`. -/
def userPreferencesTlvs (value : UserPreferences) : List Tlv :=
  [⟨tlvTargetTempC, i16Le value.targetTempC⟩,
   ⟨tlvSelectedPresetSlot, [UInt8.ofNat value.selectedPresetSlot]⟩,
   ⟨tlvPresetsC, value.presetsC.toList.flatMap encodePreset⟩,
   ⟨tlvActiveCoolingEnabled, [value.activeCoolingEnabled.toUInt8]⟩,
   ⟨tlvPostHeatCoolingMode, [encodePostHeatCoolingMode value.postHeatCoolingMode]⟩,
   ⟨tlvHeatingFanGuardMode, [encodeHeatingFanGuardMode value.heatingFanGuardMode]⟩,
   ⟨tlvTelemetryIntervalMs, u32Le value.telemetryIntervalMs⟩]

/-- `encode_network_pairing`. -/
def networkPairingTlvs (value : NetworkAndPairing) : List Tlv :=
  [⟨tlvWifiSsid, value.wifiSsid.bytes⟩,
   ⟨tlvWifiPassword, value.wifiPassword.bytes⟩,
   ⟨tlvWifiAutoReconnect, [value.wifiAutoReconnect.toUInt8]⟩] ++
  (value.wifiStaticIpv4.toList.map fun staticIpv4 =>
    ⟨tlvWifiStaticIpv4, encodeStaticIpv4 staticIpv4⟩) ++
  value.lanPairingToken.toList.map fun token => ⟨tlvLanPairingToken, token.toList⟩

def encodeLayoutMarkerStatus : LayoutMarkerStatus → UInt8
  | .prepared => 1
  | .active => 2

def encodeLayoutMarkerKind : LayoutMarkerKind → UInt8
  | .commit => 1
  | .legacyMigration => 2

/-- `encode_layout_marker`. -/
def layoutMarkerTlvs (value : LayoutMarker) : List Tlv :=
  [⟨fpr2TlvStatus, [encodeLayoutMarkerStatus value.status]⟩,
   ⟨fpr2TlvGeneration, u32Le value.generation⟩,
   ⟨fpr2TlvKind, [encodeLayoutMarkerKind value.kind]⟩]

/-- The first part of `encode_thermal_plant`. -/
def pushSupplyBoundary (capacity : ℕ) (value : ThermalPlantPersistence) :
    Except Fpr2EncodeError (List UInt8) :=
  match value.supplyBoundary with
  | none => .ok []
  | some boundary =>
      match Supply.encode boundary boundaryMaxBytes with
      | none => .error .payloadTooLarge
      | some bytes => pushFpr2Tlv capacity [] ⟨tlvHeaterSupplyBoundary, bytes⟩

/-- The second part of `encode_thermal_plant`: a transaction, or an element that
says that there is none. -/
def pushThermalPlantState (capacity : ℕ) (payload : List UInt8)
    (value : ThermalPlantPersistence) : Except Fpr2EncodeError (List UInt8) :=
  match value.active with
  | none => pushFpr2Tlv capacity payload ⟨fpr2TlvThermalPlantState, [thermalPlantStateEmpty]⟩
  | some transaction =>
      if ¬ thermalPlantPersistedTransactionFits transaction then .error .payloadTooLarge
      else
        pushFpr2Tlv capacity payload ⟨tlvThermalPlantTransientActive,
          encodeThermalPlantPersistedTransaction transaction⟩

def encodeThermalPlant (capacity : ℕ) (value : ThermalPlantPersistence) :
    Except Fpr2EncodeError (List UInt8) :=
  (pushSupplyBoundary capacity value).bind fun payload =>
    pushThermalPlantState capacity payload value

/-- The payload written into a buffer of `capacity` bytes. -/
def encodePersistPayload (data : PersistDomainData) (capacity : ℕ) :
    Except Fpr2EncodeError (List UInt8) :=
  match data with
  | .safetyCalibration value => pushFpr2Tlvs capacity [] (safetyCalibrationTlvs value)
  | .thermalPolicy value => pushFpr2Tlvs capacity [] (thermalPolicyTlvs value)
  | .userPreferences value => pushFpr2Tlvs capacity [] (userPreferencesTlvs value)
  | .networkAndPairing value => pushFpr2Tlvs capacity [] (networkPairingTlvs value)
  | .layoutMarker value => pushFpr2Tlvs capacity [] (layoutMarkerTlvs value)
  | .thermalPlant value => encodeThermalPlant capacity value

/-- The header of a record up to its checksum. -/
def encodePersistHeader (sequence : UInt32) (domain : PersistDomain) (payloadLen : ℕ) :
    List UInt8 :=
  fpr2Magic ++ ([fpr2FormatVersion, domain.toWire, 0, UInt8.ofNat fpr2HeaderLen] ++
    (u32Le sequence ++ (u16Le (UInt16.ofNat payloadLen) ++ [0, 0])))

/-- The record written into a buffer of `capacity` bytes. -/
def encodePersistRecord (sequence : UInt32) (data : PersistDomainData) (capacity : ℕ) :
    Except Fpr2EncodeError (List UInt8) :=
  if capacity < fpr2HeaderLen then .error .bufferTooSmall
  else
    match encodePersistPayload data (capacity - fpr2HeaderLen) with
    | .error e => .error e
    | .ok payload =>
        if data.domain.slotSize < fpr2HeaderLen + payload.length then .error .payloadTooLarge
        else
          let header := encodePersistHeader sequence data.domain payload.length
          .ok (header ++ (u32Le (recordCrc header payload) ++ payload))

/-! ## Reading -/

inductive Fpr2DecodeError where
  | tooShort
  | badMagic
  | unsupportedVersion (version : UInt8)
  | unknownDomain (domain : UInt8)
  | badHeaderLength (length : UInt8)
  | payloadOutOfBounds
  | crcMismatch
  | malformedTlv
  | invalidDomainPayload
deriving DecidableEq, Repr

structure PersistDecodeState where
  safety : SafetyCalibration := {}
  thermal : ThermalPolicy := {}
  prefs : UserPreferences := {}
  network : NetworkAndPairing := {}
  marker : LayoutMarker := {}
  thermalPlant : ThermalPlantPersistence := {}
  sawPostHeatMode : Bool := false
  sawField : Bool := false

namespace PersistDecodeState

variable (state : PersistDecodeState)

/-- The calibration of the decoded domain, edited. -/
def setAdc (adcCalibration : AdcCalibrationConfig) : PersistDecodeState :=
  { state with
    safety := { state.safety with adcCalibration := adcCalibration }
    sawField := true }

def setSafety (safety : SafetyCalibration) : PersistDecodeState :=
  { state with safety := safety, sawField := true }

variable (tag : UInt8)

def applySafety (value : List UInt8) : PersistDecodeState :=
  if tag = tlvCommissioningRequired ∧ value.length = 1 then
    state.setSafety { state.safety with commissioningRequired := byteAt value 0 ≠ 0 }
  else if tag = tlvAdcCalibrationSamples ∧ value.length = adcCalibrationSamplePayloadLen then
    state.setAdc (decodeAdcCalibrationSamples value)
  else if tag = tlvAdcCalibrationReferences ∧
      value.length = adcCalibrationReferencePayloadLen then
    state.setAdc (decodeAdcCalibrationReferences value state.safety.adcCalibration)
  else if tag = tlvAdcCalibrationTargets ∧ value.length = adcCalibrationTargetPayloadLen then
    state.setAdc (decodeAdcCalibrationTargets value state.safety.adcCalibration)
  else if tag = tlvAdcCalibrationSlots ∧ value.length = adcCalibrationSlotPayloadLen then
    state.setAdc (decodeAdcCalibrationSlots value state.safety.adcCalibration)
  else if tag = tlvAdcCalibrationActiveSlots ∧
      value.length = adcCalibrationActiveSlotPayloadLen then
    state.setAdc (decodeAdcCalibrationActiveSlots value state.safety.adcCalibration)
  else if tag = tlvActiveHeaterCurve ∧ value.length = heaterCurvePayloadLen then
    state.setSafety { state.safety with activeHeaterCurve := decodeHeaterCurve value }
  else if tag = tlvHeaterCurveRawObservations ∧
      value.length = heaterCurveRawObservationsPayloadLen then
    state.setSafety { state.safety with
      heaterCurveRawObservations := decodeHeaterCurveRawObservations value }
  else if tag = tlvHeaterCurveTransactionId ∧ value.length = 4 then
    state.setSafety { state.safety with heaterCurveTransactionId := some (readU32 value 0) }
  else state

def setThermal (thermal : ThermalPolicy) : PersistDecodeState :=
  { state with thermal := thermal, sawField := true }

def decodeThermalProfileMode (value : UInt8) : ThermalProfileMode :=
  if value = 1 then .w65 else if value = 2 then .w100 else .auto

def applyThermal (value : List UInt8) : PersistDecodeState :=
  if tag = tlvThermalControlProfilePps3a then
    state.setThermal { state.thermal with pps3aProfile := decodeThermalControlProfile value }
  else if tag = tlvThermalControlProfilePps5a then
    state.setThermal { state.thermal with pps5aProfile := decodeThermalControlProfile value }
  else if tag = tlvThermalProfileMode ∧ value.length = 1 then
    state.setThermal { state.thermal with mode := decodeThermalProfileMode (byteAt value 0) }
  else state

def setPrefs (prefs : UserPreferences) : PersistDecodeState :=
  { state with prefs := prefs, sawField := true }

def applyPreferences (value : List UInt8) : PersistDecodeState :=
  if tag = tlvTargetTempC ∧ value.length = 2 then
    state.setPrefs { state.prefs with targetTempC := readI16 value 0 }
  else if tag = tlvSelectedPresetSlot ∧ value.length = 1 then
    state.setPrefs { state.prefs with selectedPresetSlot := (byteAt value 0).toNat }
  else if tag = tlvPresetsC ∧ value.length = frontpanelPresetCount * 2 then
    state.setPrefs { state.prefs with presetsC := decodePresets value }
  else if tag = tlvActiveCoolingEnabled ∧ value.length = 1 then
    state.setPrefs { state.prefs with activeCoolingEnabled := byteAt value 0 ≠ 0 }
  else if tag = tlvPostHeatCoolingMode ∧ value.length = 1 then
    { state.setPrefs { state.prefs with
        postHeatCoolingMode := decodePostHeatCoolingMode (byteAt value 0) } with
      sawPostHeatMode := true }
  else if tag = tlvHeatingFanGuardMode ∧ value.length = 1 then
    state.setPrefs { state.prefs with
      heatingFanGuardMode := decodeHeatingFanGuardMode (byteAt value 0) }
  else if tag = tlvTelemetryIntervalMs ∧ value.length = 4 then
    state.setPrefs { state.prefs with telemetryIntervalMs := readU32 value 0 }
  else state

def setNetwork (network : NetworkAndPairing) : PersistDecodeState :=
  { state with network := network, sawField := true }

def applyNetwork (value : List UInt8) : PersistDecodeState :=
  if tag = tlvWifiSsid then
    state.setNetwork { state.network with wifiSsid := .ofBytes _ value }
  else if tag = tlvWifiPassword then
    state.setNetwork { state.network with wifiPassword := .ofBytes _ value }
  else if tag = tlvWifiAutoReconnect ∧ value.length = 1 then
    state.setNetwork { state.network with wifiAutoReconnect := byteAt value 0 ≠ 0 }
  else if tag = tlvWifiStaticIpv4 ∧ value.length = 13 then
    state.setNetwork { state.network with wifiStaticIpv4 := some (decodeStaticIpv4 value) }
  else if tag = tlvLanPairingToken ∧ value.length = lanTokenBytes then
    state.setNetwork { state.network with
      lanPairingToken := some (readArray value 0 lanTokenBytes) }
  else state

def setMarker (marker : LayoutMarker) : PersistDecodeState :=
  { state with marker := marker, sawField := true }

def applyMarker (value : List UInt8) : PersistDecodeState :=
  if tag = fpr2TlvStatus ∧ value.length = 1 then
    state.setMarker { state.marker with
      status := if byteAt value 0 = 2 then .active else .prepared }
  else if tag = fpr2TlvGeneration ∧ value.length = 4 then
    state.setMarker { state.marker with generation := readU32 value 0 }
  else if tag = fpr2TlvKind ∧ value.length = 1 then
    state.setMarker { state.marker with
      kind := if byteAt value 0 = 2 then .legacyMigration else .commit }
  else state

def setThermalPlant (thermalPlant : ThermalPlantPersistence) : PersistDecodeState :=
  { state with thermalPlant := thermalPlant, sawField := true }

def applyThermalPlant (value : List UInt8) : PersistDecodeState :=
  if tag = tlvHeaterSupplyBoundary then
    state.setThermalPlant { state.thermalPlant with supplyBoundary := Supply.decode value }
  else if tag = fpr2TlvThermalPlantState ∧ value.length = 1 ∧
      byteAt value 0 = thermalPlantStateEmpty then
    state.setThermalPlant { state.thermalPlant with active := none }
  else if tag = tlvThermalPlantTransientActive ∧ thermalPlantTransientHeaderLen ≤ value.length ∧
      value.length ≤ thermalPlantTransientHeaderLen +
        thermalPlantTransientMaxSamples * thermalPlantPersistedSamplePayloadLen then
    state.setThermalPlant { state.thermalPlant with
      active :=
        if byteAt value 7 = thermalPlantSupplyFormat then
          decodeThermalPlantPersistedTransaction value
        else none }
  else state

def applyTlv (domain : PersistDomain) (state : PersistDecodeState) (tlv : Tlv) :
    PersistDecodeState :=
  match domain with
  | .safetyCalibration => state.applySafety tlv.tag tlv.value
  | .thermalPolicy => state.applyThermal tlv.tag tlv.value
  | .userPreferences => state.applyPreferences tlv.tag tlv.value
  | .networkAndPairing => state.applyNetwork tlv.tag tlv.value
  | .layoutMarker => state.applyMarker tlv.tag tlv.value
  | .thermalPlant => state.applyThermalPlant tlv.tag tlv.value

/-- The compatibility flag follows the mode, and the mode of an old record follows
the flag. -/
def finishPrefs : UserPreferences :=
  let mode :=
    if state.sawPostHeatMode then state.prefs.postHeatCoolingMode
    else .fromLegacy state.prefs.activeCoolingEnabled
  { state.prefs with
    postHeatCoolingMode := mode
    activeCoolingEnabled := mode.isEnabled }

/-- A readable trace without a supply boundary is absent, not migrated. -/
def finishThermalPlant : ThermalPlantPersistence :=
  if state.thermalPlant.supplyBoundary.isNone then { state.thermalPlant with active := none }
  else state.thermalPlant

def finish (domain : PersistDomain) (state : PersistDecodeState) : PersistDomainData :=
  match domain with
  | .safetyCalibration => .safetyCalibration state.safety
  | .thermalPolicy => .thermalPolicy state.thermal
  | .userPreferences => .userPreferences state.finishPrefs
  | .networkAndPairing => .networkAndPairing state.network
  | .layoutMarker => .layoutMarker state.marker
  | .thermalPlant => .thermalPlant state.finishThermalPlant

end PersistDecodeState

def decodePersistPayload (domain : PersistDomain) (payload : List UInt8) :
    Except Fpr2DecodeError PersistDomainData :=
  match tlvsOf 2 payload with
  | none => .error .malformedTlv
  | some tlvs =>
      let state := tlvs.foldl (PersistDecodeState.applyTlv domain) {}
      if state.sawField then .ok (state.finish domain) else .error .invalidDomainPayload

/-- The checks and the payload of a record whose domain is known. -/
def decodePersistBody (domain : PersistDomain) (bytes : List UInt8) :
    Except Fpr2DecodeError PersistRecord :=
  let payloadLen := (readU16 bytes 12).toNat
  let payload := (bytes.drop fpr2HeaderLen).take payloadLen
  if domain.slotSize - fpr2HeaderLen < payloadLen ∨ bytes.length < fpr2HeaderLen + payloadLen then
    .error .payloadOutOfBounds
  else if readU32 bytes 16 ≠ recordCrc (bytes.take 16) payload then .error .crcMismatch
  else (decodePersistPayload domain payload).map fun data => ⟨readU32 bytes 8, data⟩

def decodePersistRecord (bytes : List UInt8) : Except Fpr2DecodeError PersistRecord :=
  if bytes.length < fpr2HeaderLen then .error .tooShort
  else if bytes.take 4 ≠ fpr2Magic then .error .badMagic
  else if byteAt bytes 4 ≠ fpr2FormatVersion then .error (.unsupportedVersion (byteAt bytes 4))
  else
    match PersistDomain.fromWire (byteAt bytes 5) with
    | none => .error (.unknownDomain (byteAt bytes 5))
    | some domain =>
        if (byteAt bytes 7).toNat ≠ fpr2HeaderLen then .error (.badHeaderLength (byteAt bytes 7))
        else decodePersistBody domain bytes

end FluxPurr.Memory
