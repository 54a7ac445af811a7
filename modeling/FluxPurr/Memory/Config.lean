import FluxPurr.Arith.F32
import FluxPurr.Memory.Profile
import FluxPurr.Supply.Boundary

/-!
# The persisted configuration

`MemoryConfig` is everything the firmware keeps across a restart.
`MemoryConfig.sanitize` brings any configuration, whether edited over a control
interface or read from the EEPROM, into the ranges the controllers accept.
-/

namespace FluxPurr.Memory

open FluxPurr.Wire FluxPurr.Supply

abbrev frontpanelPresetCount : ℕ := 10
abbrev memoryWifiSsidMaxLen : ℕ := 32
abbrev memoryWifiPasswordMaxLen : ℕ := 64
abbrev lanTokenBytes : ℕ := 32
abbrev adcCalibrationMaxSamples : ℕ := 8
abbrev heaterCurveMaxPoints : ℕ := 8
abbrev thermalPlantAnchorCount : ℕ := 2
abbrev thermalPlantTransientMaxSamples : ℕ := 128
abbrev thermalPlantTransientMinPoweredSamples : UInt8 := 12
abbrev thermalPlantTransientMaxHeaterVoltage125mv : UInt8 := 224
abbrev thermalPlantTransientMinHeaterVoltage125mv : UInt8 := 40
abbrev thermalPlantCoolingVoltageSentinel : UInt8 := 255
abbrev thermalPlantFanCoolingVoltageSentinel : UInt8 := 254

/-! ## Strings -/

/-- `heapless::String<cap>`. -/
structure BoundedString (cap : ℕ) where
  text : String
  fits : text.utf8ByteSize ≤ cap
deriving DecidableEq

namespace BoundedString

/-- `String::new()`. -/
def empty (cap : ℕ) : BoundedString cap := ⟨"", Nat.zero_le cap⟩

/-- `as_bytes`. -/
def bytes {cap : ℕ} (s : BoundedString cap) : List UInt8 := s.text.toByteArray.data.toList

/-- An empty string after `push_str(text)`, which leaves it empty when the text
does not fit. -/
def ofText (cap : ℕ) (text : String) : BoundedString cap :=
  if h : text.utf8ByteSize ≤ cap then ⟨text, h⟩ else empty cap

/-- A cleared string after `push_str(from_utf8(bytes).unwrap_or(""))` of the first
`cap` bytes. -/
def ofBytes (cap : ℕ) (bytes : List UInt8) : BoundedString cap :=
  ofText cap ((String.fromUTF8? (bytes.take cap).toByteArray).getD "")

@[simp] theorem length_bytes {cap : ℕ} (s : BoundedString cap) :
    s.bytes.length = s.text.utf8ByteSize := rfl

theorem ofBytes_bytes {cap : ℕ} (s : BoundedString cap) : ofBytes cap s.bytes = s := by
  have hshort : s.bytes.take cap = s.bytes := List.take_of_length_le s.fits
  have harray : s.bytes.toByteArray = s.text.toByteArray := by
    apply ByteArray.ext
    simp [bytes]
  have hread : String.fromUTF8? s.text.toByteArray = some s.text := by
    rw [String.fromUTF8?, dif_pos s.text.isValidUTF8]
    rfl
  rw [ofBytes, hshort, harray, hread, Option.getD_some, ofText, dif_pos s.fits]

end BoundedString

/-! ## Data -/

inductive PostHeatCoolingMode where
  | off
  | normal
  | fast
deriving DecidableEq, Repr

namespace PostHeatCoolingMode

def isEnabled : PostHeatCoolingMode → Bool
  | off => false
  | normal => true
  | fast => true

def fromLegacy (enabled : Bool) : PostHeatCoolingMode := if enabled then normal else off

end PostHeatCoolingMode

inductive HeatingFanGuardMode where
  | off
  | low
  | medium
  | high
deriving DecidableEq, Repr

inductive ThermalProfileMode where
  | auto
  | w65
  | w100
deriving DecidableEq, Repr

structure WifiStaticIpv4Config where
  address : Vector UInt8 4
  prefixLen : UInt8
  gateway : Vector UInt8 4
  dns : Vector UInt8 4
deriving DecidableEq

def isUnicastIpv4 (address : Vector UInt8 4) : Bool :=
  let first := address[0]
  first ≠ 0 ∧ first ≠ 127 ∧ first < 224

def WifiStaticIpv4Config.isValid (config : WifiStaticIpv4Config) : Bool :=
  config.prefixLen ≤ 32 ∧ isUnicastIpv4 config.address ∧ isUnicastIpv4 config.gateway ∧
    isUnicastIpv4 config.dns

inductive AdcCalibrationSlotId where
  | a
  | b
deriving DecidableEq, Repr

structure AdcCalibrationSample where
  observedMv : UInt16
  expectedMv : UInt16
  referenceTempDeciC : Option Int16 := none
  targetAdcMv : Option UInt16 := none
  referenceVinMv : Option UInt16 := none
deriving DecidableEq, Repr

structure AdcCalibrationSlotFit where
  gain : F32 := F32.one
  offsetMv : F32 := F32.zero
deriving DecidableEq, Repr

structure AdcCalibrationSlots where
  a : AdcCalibrationSlotFit := {}
  b : AdcCalibrationSlotFit := {}
deriving DecidableEq, Repr

abbrev AdcSamples := Vector (Option AdcCalibrationSample) adcCalibrationMaxSamples

structure AdcCalibrationChannelConfig where
  samples : AdcSamples := Vector.replicate adcCalibrationMaxSamples none
  slots : AdcCalibrationSlots := {}
  activeSlot : AdcCalibrationSlotId := .a
deriving DecidableEq, Repr

structure AdcCalibrationConfig where
  rtd : AdcCalibrationChannelConfig := {}
  vin : AdcCalibrationChannelConfig := {}
deriving DecidableEq, Repr

structure HeaterCurvePoint where
  tempCentiC : Int16
  resistanceMilliohms : UInt16
deriving DecidableEq, Repr

structure HeaterCurveConfig where
  points : Vector (Option HeaterCurvePoint) heaterCurveMaxPoints :=
    Vector.replicate heaterCurveMaxPoints none
deriving DecidableEq, Repr

structure HeaterCurveRawObservation where
  rawRtdAdcMv : UInt16
  heaterVoltageMv : UInt16
  heaterCurrentMa : UInt16
  resistanceMilliohms : UInt16
deriving DecidableEq, Repr

structure HeaterCurveRawObservations where
  points : Vector (Option HeaterCurveRawObservation) heaterCurveMaxPoints :=
    Vector.replicate heaterCurveMaxPoints none
deriving DecidableEq, Repr

structure ThermalPlantRawAnchor where
  ambientRawRtdAdcMv : UInt16 := 0
  targetRawRtdAdcMv : UInt16 := 0
  heaterVoltageMv : UInt16 := 0
  heaterCurrentMa : UInt16 := 0
  gateOffIdlePowerMw : UInt32 := 0
  steadyHoldPowerMw : UInt32 := 0
  rampDurationMs : UInt32 := 0
  rampEnergyMj : UInt32 := 0
deriving DecidableEq, Repr

structure ThermalPlantRawTransaction where
  transactionId : UInt32
  anchors : Vector ThermalPlantRawAnchor thermalPlantAnchorCount
deriving DecidableEq, Repr

structure ThermalPlantTransientSample where
  /-- 50 ms ticks from the start of the automatic job. -/
  elapsedTicks : UInt32 := 0
  rawRtdAdcMv : UInt16 := 0
  /-- In steps of 125 mV; the two highest codes mark cooling phases. -/
  heaterVoltage125mv : UInt8 := 0
  dutyPercent : UInt8 := 0
deriving DecidableEq, Repr

/-- The three floating point coefficients are kept as bits. -/
structure ThermalPlantProjectionRecord where
  convectionMwPerCBits : UInt32
  radiationMwPerK4Bits : UInt32
  thermalCapacityMjPerCBits : UInt32
  transportDelayMs : UInt32
deriving DecidableEq, Repr

structure ThermalPlantTransientTransaction where
  transactionId : UInt32
  ambientRawRtdAdcMv : UInt16
  sampleCount : UInt8
  projection : ThermalPlantProjectionRecord
  samples : Vector ThermalPlantTransientSample thermalPlantTransientMaxSamples
deriving DecidableEq, Repr

/-- `samples[..sample_count]`. -/
def ThermalPlantTransientTransaction.recorded (value : ThermalPlantTransientTransaction) :
    List ThermalPlantTransientSample := value.samples.toList.take value.sampleCount.toNat

def defaultPresetsC : Vector (Option Int16) frontpanelPresetCount :=
  #v[some 50, some 100, some 120, some 150, some 180, some 200, some 210, some 220, some 250,
    some 300]

structure MemoryConfig where
  commissioningRequired : Bool := true
  targetTempC : Int16 := 100
  selectedPresetSlot : ℕ := 1
  presetsC : Vector (Option Int16) frontpanelPresetCount := defaultPresetsC
  activeCoolingEnabled : Bool := true
  postHeatCoolingMode : PostHeatCoolingMode := .normal
  heatingFanGuardMode : HeatingFanGuardMode := .medium
  wifiSsid : BoundedString memoryWifiSsidMaxLen := .empty _
  wifiPassword : BoundedString memoryWifiPasswordMaxLen := .empty _
  wifiAutoReconnect : Bool := true
  /-- `none` selects DHCP. -/
  wifiStaticIpv4 : Option WifiStaticIpv4Config := none
  lanPairingToken : Option (Vector UInt8 lanTokenBytes) := none
  telemetryIntervalMs : UInt32 := 500
  adcCalibration : AdcCalibrationConfig := {}
  activeHeaterCurve : HeaterCurveConfig := {}
  heaterCurveRawObservations : HeaterCurveRawObservations := {}
  heaterCurveTransactionId : Option UInt32 := none
  thermalPlantActive : Option ThermalPlantRawTransaction := none
  thermalPlantTransientActive : Option ThermalPlantTransientTransaction := none
  heaterSupplyBoundary : Option SupplyBoundary := none
  /-- The 3 A bank. -/
  activeThermalControlProfile : ThermalControlProfileConfig := {}
  thermalControlProfilePps5a : ThermalControlProfileConfig := {}
  thermalProfileMode : ThermalProfileMode := .w65
deriving DecidableEq

/-! ## Validity of the plant records -/

def ThermalPlantRawAnchor.isComplete (anchor : ThermalPlantRawAnchor) : Bool :=
  0 < anchor.ambientRawRtdAdcMv ∧ anchor.ambientRawRtdAdcMv < anchor.targetRawRtdAdcMv ∧
    0 < anchor.heaterVoltageMv ∧ 0 < anchor.heaterCurrentMa ∧
    anchor.gateOffIdlePowerMw < anchor.steadyHoldPowerMw ∧ 0 < anchor.rampDurationMs ∧
    0 < anchor.rampEnergyMj

def thermalPlantRawTransactionIsComplete (value : ThermalPlantRawTransaction) : Bool :=
  value.transactionId ≠ 0 && value.anchors.toList.all ThermalPlantRawAnchor.isComplete

def thermalPlantSampleIsCooling (sample : ThermalPlantTransientSample) : Bool :=
  sample.heaterVoltage125mv = thermalPlantCoolingVoltageSentinel ∨
    sample.heaterVoltage125mv = thermalPlantFanCoolingVoltageSentinel

/-- What the loop over the samples has gathered so far. -/
structure TransientScan where
  poweredSampleCount : UInt8 := 0
  hasCoolingSample : Bool := false
  peakRawRtdAdcMv : UInt16 := 0

/-- The checks on a sample that do not depend on the other samples. -/
def transientSampleIsPlausible (sample : ThermalPlantTransientSample) : Bool :=
  sample.rawRtdAdcMv ≠ 0 ∧ sample.dutyPercent ≤ 100 ∧
    ¬ (thermalPlantSampleIsCooling sample ∧ sample.dutyPercent ≠ 0) ∧
    ¬ (¬ thermalPlantSampleIsCooling sample ∧
      thermalPlantTransientMaxHeaterVoltage125mv < sample.heaterVoltage125mv)

/-- One round of the loop; `none` is an early `return false`. -/
def TransientScan.step (scan : TransientScan) (lastPowered : Option ℕ) (index : ℕ)
    (previous : Option ThermalPlantTransientSample) (sample : ThermalPlantTransientSample) :
    Option TransientScan :=
  if ¬ transientSampleIsPlausible sample then none
  else if previous.any fun previous => sample.elapsedTicks ≤ previous.elapsedTicks then none
  else if thermalPlantSampleIsCooling sample then
    if lastPowered.any fun last => last < index then
      some { scan with
        hasCoolingSample :=
          scan.hasCoolingSample || decide (sample.rawRtdAdcMv < scan.peakRawRtdAdcMv) }
    else some scan
  else if sample.dutyPercent = 0 then some scan
  else if sample.dutyPercent = 100 ∧ 0 < sample.heaterVoltage125mv then
    some { scan with
      poweredSampleCount :=
        if thermalPlantTransientMinHeaterVoltage125mv ≤ sample.heaterVoltage125mv ∧
            scan.poweredSampleCount ≠ 255 then scan.poweredSampleCount + 1
        else scan.poweredSampleCount
      peakRawRtdAdcMv := if scan.peakRawRtdAdcMv ≤ sample.rawRtdAdcMv then sample.rawRtdAdcMv
        else scan.peakRawRtdAdcMv }
  else none

def TransientScan.run (scan : TransientScan) (lastPowered : Option ℕ) (index : ℕ)
    (previous : Option ThermalPlantTransientSample) :
    List ThermalPlantTransientSample → Option TransientScan
  | [] => some scan
  | sample :: rest =>
      (scan.step lastPowered index previous sample).bind fun scan =>
        scan.run lastPowered (index + 1) (some sample) rest

/-- The index of the last sample that was heated, if there is one. -/
def lastPoweredIndex (samples : List ThermalPlantTransientSample) : Option ℕ :=
  (samples.zipIdx.filter fun entry =>
    !thermalPlantSampleIsCooling entry.1 && entry.1.dutyPercent ≠ 0).getLast?.map Prod.snd

def thermalPlantTransientTransactionHasValidStructure
    (value : ThermalPlantTransientTransaction) : Bool :=
  if value.transactionId = 0 ∨ value.ambientRawRtdAdcMv = 0 ∨
      ¬ (24 ≤ value.sampleCount ∧ value.sampleCount ≤ 128) then
    false
  else
    let samples := value.recorded
    if samples.head?.all fun sample =>
        decide (sample.dutyPercent ≠ 0) || thermalPlantSampleIsCooling sample then
      false
    else
      match TransientScan.run {} (lastPoweredIndex samples) 0 none samples with
      | none => false
      | some scan =>
          thermalPlantTransientMinPoweredSamples ≤ scan.poweredSampleCount ∧
            scan.hasCoolingSample ∧ value.ambientRawRtdAdcMv < scan.peakRawRtdAdcMv

/-! ## Sanitizing -/

def compactChannel (channel : AdcCalibrationChannelConfig) : AdcCalibrationChannelConfig :=
  { channel with samples := packSlots adcCalibrationMaxSamples (present channel.samples) }

def sanitizeChannelSlotFit (fit : AdcCalibrationSlotFit) : AdcCalibrationSlotFit :=
  { gain := if !fit.gain.isFinite || fit.gain.isZero then F32.one else fit.gain
    offsetMv := if !fit.offsetMv.isFinite then F32.zero else fit.offsetMv }

def sanitizeSlots (slots : AdcCalibrationSlots) : AdcCalibrationSlots :=
  { a := sanitizeChannelSlotFit slots.a
    b := sanitizeChannelSlotFit slots.b }

def sanitizeAdcCalibration (config : AdcCalibrationConfig) : AdcCalibrationConfig :=
  { rtd := { compactChannel config.rtd with slots := sanitizeSlots config.rtd.slots }
    vin := { compactChannel config.vin with slots := sanitizeSlots config.vin.slots } }

def sanitizeHeaterCurve (config : HeaterCurveConfig) : HeaterCurveConfig :=
  { points := packSlots heaterCurveMaxPoints
      ((present config.points).insertionSort fun a b => a.tempCentiC ≤ b.tempCentiC) }

/-- The observations that are complete, in the order the insertion loop leaves
them in. -/
def sanitizeHeaterCurveRawObservations (config : HeaterCurveRawObservations) :
    HeaterCurveRawObservations :=
  { points := packSlots heaterCurveMaxPoints
      (((present config.points).filter fun point =>
        point.rawRtdAdcMv ≠ 0 ∧ point.heaterVoltageMv ≠ 0 ∧ point.heaterCurrentMa ≠ 0 ∧
          point.resistanceMilliohms ≠ 0).insertionSort fun a b =>
        a.rawRtdAdcMv ≤ b.rawRtdAdcMv) }

namespace MemoryConfig

def sanitize (config : MemoryConfig) : MemoryConfig :=
  let default : MemoryConfig := {}
  { config with
    targetTempC := clampTempC config.targetTempC
    wifiAutoReconnect := true
    selectedPresetSlot :=
      if frontpanelPresetCount ≤ config.selectedPresetSlot then default.selectedPresetSlot
      else config.selectedPresetSlot
    presetsC := config.presetsC.map (Option.map clampTempC)
    telemetryIntervalMs :=
      if config.telemetryIntervalMs = 0 then default.telemetryIntervalMs
      else config.telemetryIntervalMs
    wifiStaticIpv4 := config.wifiStaticIpv4.filter WifiStaticIpv4Config.isValid
    adcCalibration := sanitizeAdcCalibration config.adcCalibration
    activeHeaterCurve := sanitizeHeaterCurve config.activeHeaterCurve
    heaterCurveRawObservations :=
      sanitizeHeaterCurveRawObservations config.heaterCurveRawObservations
    heaterCurveTransactionId := config.heaterCurveTransactionId.filter (· ≠ 0)
    thermalPlantActive := config.thermalPlantActive.filter thermalPlantRawTransactionIsComplete
    thermalPlantTransientActive :=
      config.thermalPlantTransientActive.filter thermalPlantTransientTransactionHasValidStructure
    activeThermalControlProfile := sanitizeThermalControlProfile config.activeThermalControlProfile
    thermalControlProfilePps5a := sanitizeThermalControlProfile config.thermalControlProfilePps5a }

end MemoryConfig

end FluxPurr.Memory
