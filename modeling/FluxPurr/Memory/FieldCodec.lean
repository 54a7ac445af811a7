import FluxPurr.Memory.Config
import FluxPurr.Memory.ProfileCodec
import FluxPurr.Wire.Tlv

/-!
# The values of the configuration elements

The byte forms shared by the FPR2 records and the legacy records: calibration
samples, their references and targets, slot fits, the heater curve with its raw
observations, and the thermal plant transaction.

An absent item is stored as a value that no item is expected to have
(`calibrationNoneWireValue`, `presetNoneWireValue`), so an item that does have it
is read back as absent.
-/

namespace FluxPurr.Memory

open FluxPurr.Wire

abbrev calibrationReferenceNoneWireValue : Int16 := -32768
abbrev adcCalibrationSamplePayloadLen : ℕ := adcCalibrationMaxSamples * 2 * 2 * 2
abbrev adcCalibrationReferencePayloadLen : ℕ := adcCalibrationMaxSamples * 2 * 2
abbrev adcCalibrationTargetPayloadLen : ℕ := adcCalibrationMaxSamples * 2
abbrev adcCalibrationSlotPayloadLen : ℕ := 32
abbrev adcCalibrationActiveSlotPayloadLen : ℕ := 2
abbrev heaterCurvePayloadLen : ℕ := heaterCurveMaxPoints * 4
abbrev heaterCurveRawObservationsPayloadLen : ℕ := heaterCurveMaxPoints * 8

/-! ## Calibration samples -/

variable (sample : Option AdcCalibrationSample) (config : AdcCalibrationConfig) (bytes : List UInt8)
  (value : ThermalPlantTransientTransaction)

def encodeAdcSample : List UInt8 :=
  u16Le ((sample.map (·.observedMv)).getD calibrationNoneWireValue) ++
    u16Le ((sample.map (·.expectedMv)).getD calibrationNoneWireValue)

def encodeAdcCalibrationSamples : List UInt8 :=
  config.rtd.samples.toList.flatMap encodeAdcSample ++
    config.vin.samples.toList.flatMap encodeAdcSample

def decodeAdcSample (cursor : ℕ) : Option AdcCalibrationSample :=
  let observed := readU16 bytes cursor
  let expected := readU16 bytes (cursor + 2)
  if observed = calibrationNoneWireValue ∨ expected = calibrationNoneWireValue then none
  else some { observedMv := observed, expectedMv := expected }

/-- The samples of a channel whose part of the payload starts at `start`. -/
def decodeAdcSamples (start : ℕ) : AdcSamples :=
  Vector.ofFn fun index => decodeAdcSample bytes (start + 4 * index)

def decodeAdcCalibrationSamples : AdcCalibrationConfig :=
  { rtd := { samples := decodeAdcSamples bytes 0 }
    vin := { samples := decodeAdcSamples bytes (4 * adcCalibrationMaxSamples) } }

/-! ## References and targets -/

/-- `i16::try_from`. -/
def tryI16 (value : UInt16) : Option Int16 := if value ≤ 32767 then some value.toInt16 else none

def rtdReferenceWire : Int16 :=
  (sample.bind (·.referenceTempDeciC)).getD calibrationReferenceNoneWireValue

def vinReferenceWire : Int16 :=
  ((sample.bind (·.referenceVinMv)).bind tryI16).getD calibrationReferenceNoneWireValue

def encodeRtdReference : List UInt8 := i16Le (rtdReferenceWire sample)

def encodeVinReference : List UInt8 := i16Le (vinReferenceWire sample)

def encodeAdcCalibrationReferences : List UInt8 :=
  config.rtd.samples.toList.flatMap encodeRtdReference ++
    config.vin.samples.toList.flatMap encodeVinReference

def withRtdReference (reference : Int16) (sample : AdcCalibrationSample) : AdcCalibrationSample :=
  { sample with
    referenceTempDeciC :=
      if reference = calibrationReferenceNoneWireValue then none else some reference
    targetAdcMv := none
    referenceVinMv := none }

def withVinReference (reference : Int16) (sample : AdcCalibrationSample) : AdcCalibrationSample :=
  { sample with
    referenceVinMv :=
      if reference = calibrationReferenceNoneWireValue then none else some reference.toUInt16
    referenceTempDeciC := none
    targetAdcMv := none }

/-- A reference is only stored with a sample that is there. -/
def decodeAdcCalibrationReferences (config : AdcCalibrationConfig) : AdcCalibrationConfig :=
  { rtd := { config.rtd with
      samples := Vector.ofFn fun index =>
        config.rtd.samples[index].map (withRtdReference (readI16 bytes (2 * index))) }
    vin := { config.vin with
      samples := Vector.ofFn fun index =>
        config.vin.samples[index].map
          (withVinReference (readI16 bytes (2 * adcCalibrationMaxSamples + 2 * index))) } }

def rtdTargetWire : UInt16 := (sample.bind (·.targetAdcMv)).getD calibrationNoneWireValue

def encodeRtdTarget : List UInt8 := u16Le (rtdTargetWire sample)

/-- Only the RTD channel has targets. -/
def encodeAdcCalibrationTargets : List UInt8 := config.rtd.samples.toList.flatMap encodeRtdTarget

def withTarget (target : UInt16) (sample : AdcCalibrationSample) : AdcCalibrationSample :=
  { sample with
    targetAdcMv := if target = calibrationNoneWireValue then none else some target }

def decodeAdcCalibrationTargets (config : AdcCalibrationConfig) : AdcCalibrationConfig :=
  { config with
    rtd := { config.rtd with
      samples := Vector.ofFn fun index =>
        config.rtd.samples[index].map (withTarget (readU16 bytes (2 * index))) } }

/-! ## Slot fits -/

def encodeSlotFit (fit : AdcCalibrationSlotFit) : List UInt8 :=
  u32Le fit.gain.bits ++ u32Le fit.offsetMv.bits

def encodeAdcCalibrationSlots : List UInt8 :=
  [config.rtd.slots.a, config.rtd.slots.b, config.vin.slots.a, config.vin.slots.b].flatMap
    encodeSlotFit

def decodeSlotFit (cursor : ℕ) : AdcCalibrationSlotFit :=
  { gain := ⟨readU32 bytes cursor⟩
    offsetMv := ⟨readU32 bytes (cursor + 4)⟩ }

def decodeAdcCalibrationSlots (config : AdcCalibrationConfig) : AdcCalibrationConfig :=
  { rtd := { config.rtd with slots := ⟨decodeSlotFit bytes 0, decodeSlotFit bytes 8⟩ }
    vin := { config.vin with slots := ⟨decodeSlotFit bytes 16, decodeSlotFit bytes 24⟩ } }

def encodeSlotId : AdcCalibrationSlotId → UInt8
  | .a => 0
  | .b => 1

def decodeSlotId (value : UInt8) : AdcCalibrationSlotId := if value = 1 then .b else .a

def encodeAdcCalibrationActiveSlots : List UInt8 :=
  [encodeSlotId config.rtd.activeSlot, encodeSlotId config.vin.activeSlot]

def decodeAdcCalibrationActiveSlots (config : AdcCalibrationConfig) : AdcCalibrationConfig :=
  { rtd := { config.rtd with activeSlot := decodeSlotId (byteAt bytes 0) }
    vin := { config.vin with activeSlot := decodeSlotId (byteAt bytes 1) } }

/-! ## Heater curve -/

def encodeHeaterCurvePoint (point : Option HeaterCurvePoint) : List UInt8 :=
  i16Le ((point.map (·.tempCentiC)).getD presetNoneWireValue) ++
    u16Le ((point.map (·.resistanceMilliohms)).getD calibrationNoneWireValue)

def encodeHeaterCurve (config : HeaterCurveConfig) : List UInt8 :=
  config.points.toList.flatMap encodeHeaterCurvePoint

def decodeHeaterCurvePoint (cursor : ℕ) : Option HeaterCurvePoint :=
  let temp := readI16 bytes cursor
  let resistance := readU16 bytes (cursor + 2)
  if temp = presetNoneWireValue ∨ resistance = calibrationNoneWireValue then none
  else some { tempCentiC := temp, resistanceMilliohms := resistance }

def decodeHeaterCurve : HeaterCurveConfig :=
  { points := Vector.ofFn fun index => decodeHeaterCurvePoint bytes (4 * index) }

def encodeRawObservation : Option HeaterCurveRawObservation → List UInt8
  | some point =>
      u16Le point.rawRtdAdcMv ++ (u16Le point.heaterVoltageMv ++
        (u16Le point.heaterCurrentMa ++ u16Le point.resistanceMilliohms))
  | none => u16Le 65535 ++ (u16Le 65535 ++ (u16Le 65535 ++ u16Le 65535))

def encodeHeaterCurveRawObservations (config : HeaterCurveRawObservations) : List UInt8 :=
  config.points.toList.flatMap encodeRawObservation

def decodeRawObservation (cursor : ℕ) : Option HeaterCurveRawObservation :=
  if readU16 bytes cursor = 65535 then none
  else
    some
      { rawRtdAdcMv := readU16 bytes cursor
        heaterVoltageMv := readU16 bytes (cursor + 2)
        heaterCurrentMa := readU16 bytes (cursor + 4)
        resistanceMilliohms := readU16 bytes (cursor + 6) }

def decodeHeaterCurveRawObservations : HeaterCurveRawObservations :=
  { points := Vector.ofFn fun index => decodeRawObservation bytes (8 * index) }

/-! ## Presets and network values -/

def encodePreset (preset : Option Int16) : List UInt8 :=
  i16Le ((preset.map clampTempC).getD presetNoneWireValue)

def decodePresetWireValue (value : Int16) : Option Int16 :=
  if value = presetNoneWireValue then none else some value

def decodePresets : Vector (Option Int16) frontpanelPresetCount :=
  Vector.ofFn fun index => decodePresetWireValue (readI16 bytes (2 * index))

/-- `array.copy_from_slice(&bytes[start..start + n])`. -/
def readArray (start n : ℕ) : Vector UInt8 n :=
  Vector.ofFn fun index => byteAt bytes (start + index)

def encodeStaticIpv4 (config : WifiStaticIpv4Config) : List UInt8 :=
  config.address.toList ++ (config.prefixLen :: (config.gateway.toList ++ config.dns.toList))

def decodeStaticIpv4 : WifiStaticIpv4Config :=
  { address := readArray bytes 0 4
    prefixLen := byteAt bytes 4
    gateway := readArray bytes 5 4
    dns := readArray bytes 9 4 }

def encodePostHeatCoolingMode : PostHeatCoolingMode → UInt8
  | .off => 0
  | .normal => 1
  | .fast => 2

def decodePostHeatCoolingMode (value : UInt8) : PostHeatCoolingMode :=
  if value = 2 then .fast else if value = 1 then .normal else .off

def encodeHeatingFanGuardMode : HeatingFanGuardMode → UInt8
  | .off => 0
  | .low => 1
  | .medium => 2
  | .high => 3

def decodeHeatingFanGuardMode (value : UInt8) : HeatingFanGuardMode :=
  if value = 3 then .high else if value = 2 then .medium else if value = 1 then .low else .off

/-! ## Thermal plant transactions -/

abbrev thermalPlantTransientHeaderLen : ℕ := 24
abbrev thermalPlantPersistedSamplePayloadLen : ℕ := 5
abbrev thermalPlantTransientSamplePayloadLen : ℕ := 6
abbrev thermalPlantSupplyFormat : UInt8 := 3
abbrev thermalPlantSupplyMaxTicks : UInt32 := 524287

def thermalPlantPersistedTransactionFits : Bool :=
  value.sampleCount.toNat ≤ thermalPlantTransientMaxSamples &&
    value.recorded.all fun sample =>
      sample.elapsedTicks ≤ thermalPlantSupplyMaxTicks ∧ sample.rawRtdAdcMv ≤ 4095 ∧
        (sample.dutyPercent = 0 ∨ sample.dutyPercent = 100) ∧
        (thermalPlantSampleIsCooling sample ∨
          sample.heaterVoltage125mv ≤ thermalPlantTransientMaxHeaterVoltage125mv)

def encodeTransactionHeader (format : UInt8) : List UInt8 :=
  u32Le value.transactionId ++ (u16Le value.ambientRawRtdAdcMv ++
    ([value.sampleCount, format] ++ (u32Le value.projection.convectionMwPerCBits ++
      (u32Le value.projection.radiationMwPerK4Bits ++
        (u32Le value.projection.thermalCapacityMjPerCBits ++
          u32Le value.projection.transportDelayMs)))))

/-- 19 time bits, 12 ADC bits, 8 voltage bits and one gate bit. -/
def persistedSampleFields (sample : ThermalPlantTransientSample) : List PlacedField :=
  [⟨sample.elapsedTicks.toNat, 0, 19⟩,
   ⟨sample.rawRtdAdcMv.toNat, 19, 12⟩,
   ⟨sample.heaterVoltage125mv.toNat, 31, 8⟩,
   ⟨(decide (sample.dutyPercent ≠ 0)).toNat, 39, 1⟩]

def encodePersistedSample (sample : ThermalPlantTransientSample) : List UInt8 :=
  leBytes thermalPlantPersistedSamplePayloadLen (orFields (persistedSampleFields sample))

def encodeThermalPlantPersistedTransaction : List UInt8 :=
  encodeTransactionHeader value thermalPlantSupplyFormat ++
    value.recorded.flatMap encodePersistedSample

def decodeSupplySample (packed : ℕ) : ThermalPlantTransientSample :=
  { elapsedTicks := UInt32.ofNat (bitField packed 0 19)
    rawRtdAdcMv := UInt16.ofNat (bitField packed 19 12)
    heaterVoltage125mv := UInt8.ofNat (bitField packed 31 8)
    dutyPercent := if bitField packed 39 1 = 0 then 0 else 100 }

/-- `quantize_thermal_plant_heater_voltage_mv`: the nearest step of 125 mV. -/
def quantizeThermalPlantHeaterVoltageMv (voltageMv : UInt32) : UInt8 :=
  let clampedMv := if 28000 < voltageMv then 28000 else voltageMv
  ((clampedMv + 62) / 125).toUInt8

/-- A sample of the three formats that came before the supply format. -/
def decodeOldPersistedSample (offset : ℕ)
    (dutyIsPacked voltageIs125mv : Bool) : ThermalPlantTransientSample :=
  let elapsedTicks := readU16 bytes offset
  let voltage := byteAt bytes (offset + 4)
  { elapsedTicks := (if dutyIsPacked then elapsedTicks &&& 0x7fff else elapsedTicks).toUInt32
    rawRtdAdcMv := readU16 bytes (offset + 2)
    heaterVoltage125mv :=
      if voltageIs125mv then voltage
      else quantizeThermalPlantHeaterVoltageMv (voltage.toUInt32 * 100)
    dutyPercent :=
      if dutyIsPacked then (if elapsedTicks &&& 0x8000 ≠ 0 then 100 else 0)
      else if voltage ≠ 0 then 100 else 0 }

def decodeTransactionHeader
    (samples : List ThermalPlantTransientSample) : ThermalPlantTransientTransaction :=
  { transactionId := readU32 bytes 0
    ambientRawRtdAdcMv := readU16 bytes 4
    sampleCount := byteAt bytes 6
    projection :=
      { convectionMwPerCBits := readU32 bytes 8
        radiationMwPerK4Bits := readU32 bytes 12
        thermalCapacityMjPerCBits := readU32 bytes 16
        transportDelayMs := readU32 bytes 20 }
    samples := fillSlots {} thermalPlantTransientMaxSamples samples }

/-- `valid_structure(&value).then_some(value)`. -/
def checkedTransaction : Option ThermalPlantTransientTransaction :=
  if thermalPlantTransientTransactionHasValidStructure value then some value else none

/-- Whether the duty is packed and whether the voltage is in steps of 125 mV. -/
def persistedFormat (format : UInt8) : Option (Bool × Bool) :=
  if format = 0 then some (false, false)
  else if format = 1 then some (true, false)
  else if format = 2 then some (true, true)
  else if format = thermalPlantSupplyFormat then some (true, true)
  else none

def decodeThermalPlantPersistedTransaction : Option ThermalPlantTransientTransaction :=
  let sampleCount := (byteAt bytes 6).toNat
  if bytes.length < thermalPlantTransientHeaderLen ∨
      thermalPlantTransientMaxSamples < sampleCount ∨
      bytes.length ≠ thermalPlantTransientHeaderLen +
        sampleCount * thermalPlantPersistedSamplePayloadLen then
    none
  else
    (persistedFormat (byteAt bytes 7)).bind fun (dutyIsPacked, voltageIs125mv) =>
      let samples := (List.range sampleCount).map fun index =>
        let offset :=
          thermalPlantTransientHeaderLen + thermalPlantPersistedSamplePayloadLen * index
        if byteAt bytes 7 = thermalPlantSupplyFormat then
          decodeSupplySample (readLe bytes offset thermalPlantPersistedSamplePayloadLen)
        else decodeOldPersistedSample bytes offset dutyIsPacked voltageIs125mv
      checkedTransaction (decodeTransactionHeader bytes samples)

end FluxPurr.Memory
