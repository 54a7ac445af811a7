import FluxPurr.Memory.PersistCodec

/-!
# Legacy records

Before the domains a whole configuration was one record: a header of sixteen bytes
with the magic bytes `FPM1`, and a payload of elements whose lengths take one byte
in the first two versions and two bytes afterwards.

Such a record is read in two ways.  `decodeMemoryRecord` folds all its elements into
one decoder state and finishes once (`decodeConfigPayload`).  The migration cannot
hold a record in memory: it hands the elements over one at a time, and
`applyLegacyConfigTlv` starts from a fresh state and finishes for each of them
(`streamLegacyConfig`).

Finishing gives the values of old elements their present meaning: a cooling flag
becomes a cooling mode, and the calibration samples become a fit of slot `A`.
-/

namespace FluxPurr.Memory

open FluxPurr.Wire

abbrev memoryRecordHeaderLen : ℕ := 16
abbrev memorySlotSize : ℕ := 2048
abbrev memoryRecordPayloadMax : ℕ := memorySlotSize - memoryRecordHeaderLen
abbrev memoryRecordFormatVersion : UInt8 := 5

/-- `*b"FPM1"`. -/
def memoryRecordMagic : List UInt8 := [0x46, 0x50, 0x4d, 0x31]

/-! ## Fits of legacy samples -/

inductive AdcCalibrationChannel where
  | rtd
  | vin
deriving DecidableEq, Repr

abbrev adcCalibrationRtdDefaultLowMv : UInt16 := 0
abbrev adcCalibrationRtdDefaultHighMv : UInt16 := 2800
abbrev adcCalibrationVinDefaultLowMv : UInt16 := 0
abbrev adcCalibrationVinDefaultHighMv : UInt16 := 2337

def legacyDefaultPoints : AdcCalibrationChannel → List AdcCalibrationSample
  | .rtd =>
      [{ observedMv := adcCalibrationRtdDefaultLowMv
         expectedMv := adcCalibrationRtdDefaultLowMv },
       { observedMv := adcCalibrationRtdDefaultHighMv
         expectedMv := adcCalibrationRtdDefaultHighMv }]
  | .vin =>
      [{ observedMv := adcCalibrationVinDefaultLowMv
         expectedMv := adcCalibrationVinDefaultLowMv },
       { observedMv := adcCalibrationVinDefaultHighMv
         expectedMv := adcCalibrationVinDefaultHighMv }]

/-- The sums of the least squares fit. -/
structure FitSums where
  sumX : F32 := F32.zero
  sumY : F32 := F32.zero
  sumXx : F32 := F32.zero
  sumXy : F32 := F32.zero

def accumulateFitPoint (sums : FitSums) (sample : AdcCalibrationSample) : FitSums :=
  let x := F32.ofNat sample.observedMv.toNat
  let y := F32.ofNat sample.expectedMv.toNat
  { sumX := sums.sumX.add x
    sumY := sums.sumY.add y
    sumXx := sums.sumXx.add (x.mul x)
    sumXy := sums.sumXy.add (x.mul y) }

/-- The end of `legacy_fit_channel`: the line through the accumulated points. -/
def fitLine (sums : FitSums) (totalCount : ℕ) : AdcCalibrationSlotFit :=
  let n := F32.ofNat totalCount
  let denominator := (n.mul sums.sumXx).sub (sums.sumX.mul sums.sumX)
  if denominator.abs.lt F32.epsilon then
    { gain := F32.one, offsetMv := (sums.sumY.sub sums.sumX).div n }
  else
    let gain := ((n.mul sums.sumXy).sub (sums.sumX.mul sums.sumY)).div denominator
    { gain := gain, offsetMv := (sums.sumY.sub (gain.mul sums.sumX)).div n }

/-- The default points take part only where there are fewer than two samples. -/
def legacyFitChannel (channel : AdcCalibrationChannelConfig)
    (defaults : List AdcCalibrationSample) : AdcCalibrationSlotFit :=
  let custom := present channel.samples
  let customCount := custom.length
  let defaultCount := if customCount < 2 then 2 else 0
  let totalCount := customCount + defaultCount
  if totalCount < 2 then {}
  else
    let start : FitSums := if customCount < 2 then defaults.foldl accumulateFitPoint {} else {}
    fitLine (custom.foldl accumulateFitPoint start) totalCount

def migrateLegacyAdcCalibration (_calibration legacyActive : AdcCalibrationConfig)
    (legacyDraft : Option AdcCalibrationConfig) : AdcCalibrationConfig :=
  { rtd :=
      { samples := legacyActive.rtd.samples
        slots :=
          { a := legacyFitChannel legacyActive.rtd (legacyDefaultPoints .rtd)
            b := (legacyDraft.map fun draft =>
              legacyFitChannel draft.rtd (legacyDefaultPoints .rtd)).getD {} }
        activeSlot := .a }
    vin :=
      { samples := legacyActive.vin.samples
        slots :=
          { a := legacyFitChannel legacyActive.vin (legacyDefaultPoints .vin)
            b := (legacyDraft.map fun draft =>
              legacyFitChannel draft.vin (legacyDefaultPoints .vin)).getD {} }
        activeSlot := .a } }

/-- A fit whose gain and offset are both zero was never written. -/
def backfillFit (fit : AdcCalibrationSlotFit) : AdcCalibrationSlotFit :=
  if fit.gain.isZero ∧ fit.offsetMv.isZero then {} else fit

def backfillSlots (slots : AdcCalibrationSlots) : AdcCalibrationSlots :=
  { a := backfillFit slots.a
    b := backfillFit slots.b }

def backfillNewAdcCalibrationDefaults (calibration : AdcCalibrationConfig) : AdcCalibrationConfig :=
  { rtd := { calibration.rtd with slots := backfillSlots calibration.rtd.slots }
    vin := { calibration.vin with slots := backfillSlots calibration.vin.slots } }

/-! ## Thermal plant transactions of legacy records -/

abbrev thermalPlantRawTransactionLen : ℕ := 52
abbrev thermalPlantTransientFormat125mv : UInt8 := 1

variable (bytes : List UInt8)

def decodeThermalPlantRawAnchor (cursor : ℕ) : ThermalPlantRawAnchor :=
  { ambientRawRtdAdcMv := readU16 bytes cursor
    targetRawRtdAdcMv := readU16 bytes (cursor + 2)
    heaterVoltageMv := readU16 bytes (cursor + 4)
    heaterCurrentMa := readU16 bytes (cursor + 6)
    gateOffIdlePowerMw := readU32 bytes (cursor + 8)
    steadyHoldPowerMw := readU32 bytes (cursor + 12)
    rampDurationMs := readU32 bytes (cursor + 16)
    rampEnergyMj := readU32 bytes (cursor + 20) }

def decodeThermalPlantRawTransaction : Option ThermalPlantRawTransaction :=
  let value : ThermalPlantRawTransaction :=
    { transactionId := readU32 bytes 0
      anchors := Vector.ofFn fun index => decodeThermalPlantRawAnchor bytes (4 + 24 * index) }
  if thermalPlantRawTransactionIsComplete value then some value else none

/-- The voltage byte in steps of 100 mV or of 125 mV. -/
def decodeTransientVoltage (format voltage : UInt8) : Option UInt8 :=
  if format = 0 then some (quantizeThermalPlantHeaterVoltageMv (voltage.toUInt32 * 100))
  else if format = thermalPlantTransientFormat125mv then some voltage
  else none

def decodeTransientSample (offset : ℕ) : Option ThermalPlantTransientSample :=
  (decodeTransientVoltage (byteAt bytes 7) (byteAt bytes (offset + 4))).map fun voltage =>
    { elapsedTicks := (readU16 bytes offset).toUInt32
      rawRtdAdcMv := readU16 bytes (offset + 2)
      heaterVoltage125mv := voltage
      dutyPercent := byteAt bytes (offset + 5) }

def decodeThermalPlantTransientTransaction : Option ThermalPlantTransientTransaction :=
  let sampleCount := (byteAt bytes 6).toNat
  if bytes.length < thermalPlantTransientHeaderLen ∨
      bytes.length ≠ thermalPlantTransientHeaderLen +
        sampleCount * thermalPlantTransientSamplePayloadLen ∨
      thermalPlantTransientMaxSamples < sampleCount then
    none
  else
    ((List.range sampleCount).mapM fun index =>
      decodeTransientSample bytes
        (thermalPlantTransientHeaderLen + thermalPlantTransientSamplePayloadLen * index)).bind
      fun samples => checkedTransaction (decodeTransactionHeader bytes samples)

/-! ## Applying an element -/

structure ConfigDecodeState where
  legacyActiveAdcCalibration : AdcCalibrationConfig := {}
  legacyDraftAdcCalibration : AdcCalibrationConfig := {}
  sawNewAdcSlots : Bool := false
  sawNewAdcActiveSlots : Bool := false
  sawLegacyActive : Bool := false
  sawLegacyDraft : Bool := false
  sawPostHeatMode : Bool := false
  sawHeatingFanGuardMode : Bool := false

namespace ConfigDecodeState

variable (state : ConfigDecodeState) (config : MemoryConfig)

/-- The `apply_..._tlv` functions return whether they know the element; here `none`
says that they do not.  Only the first and the third use the state. -/
def applyBasicTlv (tag : UInt8) (value : List UInt8) : Option (ConfigDecodeState × MemoryConfig) :=
  if tag = tlvCommissioningRequired ∧ value.length = 1 then
    some (state, { config with commissioningRequired := byteAt value 0 ≠ 0 })
  else if tag = tlvTargetTempC ∧ value.length = 2 then
    some (state, { config with targetTempC := readI16 value 0 })
  else if tag = tlvSelectedPresetSlot ∧ value.length = 1 then
    some (state, { config with selectedPresetSlot := (byteAt value 0).toNat })
  else if tag = tlvPresetsC ∧ value.length = frontpanelPresetCount * 2 then
    some (state, { config with presetsC := decodePresets value })
  else if tag = tlvActiveCoolingEnabled ∧ value.length = 1 then
    some (state, { config with activeCoolingEnabled := byteAt value 0 ≠ 0 })
  else if tag = tlvPostHeatCoolingMode ∧ value.length = 1 then
    some ({ state with sawPostHeatMode := true },
      { config with postHeatCoolingMode := decodePostHeatCoolingMode (byteAt value 0) })
  else if tag = tlvHeatingFanGuardMode ∧ value.length = 1 then
    some ({ state with sawHeatingFanGuardMode := true },
      { config with heatingFanGuardMode := decodeHeatingFanGuardMode (byteAt value 0) })
  else none

def applyNetworkTlv (tag : UInt8) (value : List UInt8) : Option MemoryConfig :=
  if tag = tlvWifiSsid then some { config with wifiSsid := .ofBytes _ value }
  else if tag = tlvWifiPassword then some { config with wifiPassword := .ofBytes _ value }
  else if tag = tlvWifiAutoReconnect ∧ value.length = 1 then
    some { config with wifiAutoReconnect := byteAt value 0 ≠ 0 }
  else if tag = tlvLanPairingToken ∧ value.length = lanTokenBytes then
    some { config with lanPairingToken := some (readArray value 0 lanTokenBytes) }
  else if tag = tlvWifiStaticIpv4 ∧ value.length = 13 then
    some { config with wifiStaticIpv4 := some (decodeStaticIpv4 value) }
  else if tag = tlvTelemetryIntervalMs ∧ value.length = 4 then
    some { config with telemetryIntervalMs := readU32 value 0 }
  else none

/-- The samples of one calibration in the place of those of another. -/
def withSamplesOf (config decoded : AdcCalibrationConfig) : AdcCalibrationConfig :=
  { rtd := { config.rtd with samples := decoded.rtd.samples }
    vin := { config.vin with samples := decoded.vin.samples } }

def applyCalibrationTlv (tag : UInt8)
    (value : List UInt8) : Option (ConfigDecodeState × MemoryConfig) :=
  if tag = tlvAdcCalibrationSamples ∧ value.length = adcCalibrationSamplePayloadLen then
    let decoded := decodeAdcCalibrationSamples value
    some
      ({ state with legacyActiveAdcCalibration := decoded, sawLegacyActive := true },
       { config with adcCalibration := withSamplesOf config.adcCalibration decoded })
  else if tag = tlvLegacyDraftAdcCalibration ∧
      value.length = adcCalibrationSamplePayloadLen then
    some
      ({ state with
          legacyDraftAdcCalibration := decodeAdcCalibrationSamples value
          sawLegacyDraft := true },
       config)
  else if tag = tlvAdcCalibrationReferences ∧
      value.length = adcCalibrationReferencePayloadLen then
    some
      ({ state with
          legacyActiveAdcCalibration :=
            decodeAdcCalibrationReferences value state.legacyActiveAdcCalibration
          sawLegacyActive := true },
       { config with
          adcCalibration := decodeAdcCalibrationReferences value config.adcCalibration })
  else if tag = tlvLegacyDraftAdcCalibrationReferences ∧
      value.length = adcCalibrationReferencePayloadLen then
    some
      ({ state with
          legacyDraftAdcCalibration :=
            decodeAdcCalibrationReferences value state.legacyDraftAdcCalibration
          sawLegacyDraft := true },
       config)
  else if tag = tlvAdcCalibrationTargets ∧ value.length = adcCalibrationTargetPayloadLen then
    some
      ({ state with
          legacyActiveAdcCalibration :=
            decodeAdcCalibrationTargets value state.legacyActiveAdcCalibration
          sawLegacyActive := true },
       { config with
          adcCalibration := decodeAdcCalibrationTargets value config.adcCalibration })
  else if tag = tlvLegacyDraftAdcCalibrationTargets ∧
      value.length = adcCalibrationTargetPayloadLen then
    some
      ({ state with
          legacyDraftAdcCalibration :=
            decodeAdcCalibrationTargets value state.legacyDraftAdcCalibration
          sawLegacyDraft := true },
       config)
  else if tag = tlvAdcCalibrationSlots ∧ value.length = adcCalibrationSlotPayloadLen then
    some
      ({ state with sawNewAdcSlots := true },
       { config with adcCalibration := decodeAdcCalibrationSlots value config.adcCalibration })
  else if tag = tlvAdcCalibrationActiveSlots ∧
      value.length = adcCalibrationActiveSlotPayloadLen then
    some
      ({ state with sawNewAdcActiveSlots := true },
       { config with
          adcCalibration := decodeAdcCalibrationActiveSlots value config.adcCalibration })
  else none

/-- Unlike in the domain record, an unknown mode is the 65 W one. -/
def decodeLegacyThermalProfileMode (value : UInt8) : ThermalProfileMode :=
  if value = 0 then .auto else if value = 2 then .w100 else .w65

def applyProfileTlv (tag : UInt8) (value : List UInt8) : Option MemoryConfig :=
  if tag = tlvActiveHeaterCurve ∧ value.length = heaterCurvePayloadLen then
    some { config with activeHeaterCurve := decodeHeaterCurve value }
  else if tag = tlvActiveThermalControlProfile ∧ isSupportedThermalControlProfile value then
    some { config with activeThermalControlProfile := decodeThermalControlProfile value }
  else if tag = tlvThermalControlProfilePps3a ∧ isSupportedThermalControlProfile value then
    some { config with activeThermalControlProfile := decodeThermalControlProfile value }
  else if tag = tlvThermalControlProfilePps5a ∧ isSupportedThermalControlProfile value then
    some { config with thermalControlProfilePps5a := decodeThermalControlProfile value }
  else if tag = tlvThermalProfileMode ∧ value.length = 1 then
    some { config with thermalProfileMode := decodeLegacyThermalProfileMode (byteAt value 0) }
  else if tag = tlvHeaterCurveRawObservations ∧
      value.length = heaterCurveRawObservationsPayloadLen then
    some { config with heaterCurveRawObservations := decodeHeaterCurveRawObservations value }
  else if tag = tlvHeaterCurveTransactionId ∧ value.length = 4 then
    some { config with heaterCurveTransactionId := some (readU32 value 0) }
  else none

def applyThermalPlantTlv (tag : UInt8) (value : List UInt8) : Option MemoryConfig :=
  if tag = tlvThermalPlantCandidate ∧ value.length = thermalPlantRawTransactionLen ∧
      config.thermalPlantActive.isNone then
    some { config with thermalPlantActive := decodeThermalPlantRawTransaction value }
  else if tag = tlvThermalPlantActive ∧ value.length = thermalPlantRawTransactionLen then
    some { config with thermalPlantActive := decodeThermalPlantRawTransaction value }
  else if tag = tlvThermalPlantTransientActive ∧ thermalPlantTransientHeaderLen ≤ value.length ∧
      value.length ≤ thermalPlantTransientHeaderLen +
        thermalPlantTransientMaxSamples * thermalPlantTransientSamplePayloadLen then
    some { config with
      thermalPlantTransientActive := decodeThermalPlantTransientTransaction value }
  else none

/-- An element is applied by the first function that knows it. -/
def applyTlv (tlv : Tlv) : ConfigDecodeState × MemoryConfig :=
  ((applyBasicTlv state config tlv.tag tlv.value).or
    (((applyNetworkTlv config tlv.tag tlv.value).map (state, ·)).or
      ((applyCalibrationTlv state config tlv.tag tlv.value).or
        (((applyProfileTlv config tlv.tag tlv.value).map (state, ·)).or
          ((applyThermalPlantTlv config tlv.tag tlv.value).map (state, ·)))))).getD (state, config)

/-- The calibration `finish` leaves behind. -/
def finishAdcCalibration (calibration : AdcCalibrationConfig) : AdcCalibrationConfig :=
  if state.sawLegacyActive ∧ ¬ state.sawNewAdcSlots ∧ ¬ state.sawNewAdcActiveSlots then
    migrateLegacyAdcCalibration calibration state.legacyActiveAdcCalibration
      (if state.sawLegacyDraft then some state.legacyDraftAdcCalibration else none)
  else if state.sawLegacyActive ∧ (¬ state.sawNewAdcSlots ∨ ¬ state.sawNewAdcActiveSlots) then
    backfillNewAdcCalibrationDefaults calibration
  else calibration

/-- The cooling mode `finish` leaves behind. -/
def finishPostHeatCoolingMode : PostHeatCoolingMode :=
  if state.sawPostHeatMode then config.postHeatCoolingMode
  else .fromLegacy config.activeCoolingEnabled

def finish : MemoryConfig :=
  { config with
    activeHeaterCurve := {}
    heaterCurveRawObservations := {}
    heaterCurveTransactionId := none
    thermalPlantActive := none
    thermalPlantTransientActive := none
    postHeatCoolingMode := state.finishPostHeatCoolingMode config
    activeCoolingEnabled := (state.finishPostHeatCoolingMode config).isEnabled
    adcCalibration := state.finishAdcCalibration config.adcCalibration }

end ConfigDecodeState

/-! ## Whole records -/

inductive MemoryDecodeError where
  | tooShort
  | badMagic
  | unsupportedFormat (version : UInt8)
  | badHeaderLength (length : UInt8)
  | payloadOutOfBounds
  | crcMismatch
  | malformedTlv
deriving DecidableEq, Repr

structure MemoryRecord where
  sequence : UInt32
  config : MemoryConfig
deriving DecidableEq

/-- The number of length bytes of an element. -/
def tlvLenWidth (wideTlvLengths : Bool) : ℕ := if wideTlvLengths then 2 else 1

def ConfigDecodeState.applyTlvs (decoded : ConfigDecodeState × MemoryConfig)
    (tlvs : List Tlv) : ConfigDecodeState × MemoryConfig :=
  tlvs.foldl (fun decoded tlv => decoded.1.applyTlv decoded.2 tlv) decoded

/-- All elements in one decoder state. -/
def decodeConfigTlvs (tlvs : List Tlv) (config : MemoryConfig) : MemoryConfig :=
  let decoded := ConfigDecodeState.applyTlvs ({}, config) tlvs
  decoded.1.finish decoded.2

def decodeConfigPayload (wideTlvLengths : Bool) (config : MemoryConfig) :
    Except MemoryDecodeError MemoryConfig :=
  match tlvsOf (tlvLenWidth wideTlvLengths) bytes with
  | none => .error .malformedTlv
  | some tlvs => .ok (decodeConfigTlvs tlvs config)

/-- A record from before the commissioning element belongs to a commissioned
device. -/
def legacyInitialConfig : MemoryConfig := { commissioningRequired := false }

/-- The values that have no compatible meaning are cleared once more. -/
def clearLegacyRecords (config : MemoryConfig) : MemoryConfig :=
  { config with
    activeHeaterCurve := {}
    heaterCurveRawObservations := {}
    heaterCurveTransactionId := none
    thermalPlantActive := none
    thermalPlantTransientActive := none }

/-- Versions three to five. -/
def hasWideTlvLengths (record : List UInt8) : Bool := 3 ≤ byteAt record 4

/-- The payload a header announces. -/
def memoryRecordPayload (record : List UInt8) : List UInt8 :=
  (record.drop memoryRecordHeaderLen).take (readU16 record 6).toNat

def decodeMemoryRecord : Except MemoryDecodeError MemoryRecord :=
  let version := byteAt bytes 4
  let payloadLen := (readU16 bytes 6).toNat
  if bytes.length < memoryRecordHeaderLen then .error .tooShort
  else if bytes.take 4 ≠ memoryRecordMagic then .error .badMagic
  else if ¬ (version = 1 ∨ version = 2 ∨ version = 3 ∨ version = 4 ∨
      version = memoryRecordFormatVersion) then
    .error (.unsupportedFormat version)
  else if (byteAt bytes 5).toNat ≠ memoryRecordHeaderLen then
    .error (.badHeaderLength (byteAt bytes 5))
  else if memoryRecordPayloadMax < payloadLen ∨
      bytes.length < memoryRecordHeaderLen + payloadLen then
    .error .payloadOutOfBounds
  else if readU32 bytes 12 ≠ recordCrc (bytes.take 12) (memoryRecordPayload bytes) then
    .error .crcMismatch
  else
    (decodeConfigPayload (memoryRecordPayload bytes) (hasWideTlvLengths bytes)
      legacyInitialConfig).map fun config =>
        { sequence := readU32 bytes 8
          config := (clearLegacyRecords config).sanitize }

/-! ## One element at a time -/

/-- One element in a decoder state of its own. -/
def finishTlv (config : MemoryConfig) (tlv : Tlv) : MemoryConfig :=
  let applied := ConfigDecodeState.applyTlv {} config tlv
  applied.1.finish applied.2

def applyLegacyConfigTlv (config : MemoryConfig) (tlv : Tlv) (wideTlvLengths : Bool) :
    Except MemoryDecodeError MemoryConfig :=
  if 1024 < 1 + tlvLenWidth wideTlvLengths + tlv.value.length ∨
      ¬ wideTlvLengths ∧ 255 < tlv.value.length then
    .error .payloadOutOfBounds
  else .ok (finishTlv config tlv)

/-- What the migration makes of the elements of a record. -/
def streamLegacyConfig (wideTlvLengths : Bool) (tlvs : List Tlv) :
    Except MemoryDecodeError MemoryConfig :=
  (tlvs.foldlM (fun config tlv => applyLegacyConfigTlv config tlv wideTlvLengths)
    legacyInitialConfig).map MemoryConfig.sanitize

end FluxPurr.Memory
