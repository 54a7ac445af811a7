import FluxPurr.Memory.LegacyCodec
import FluxPurr.Wire.LastWins

/-!
# What a legacy element writes

The legacy decoder carries a state and a configuration from element to element.
Three parts of the two can be followed separately, since what an element does to a
part depends on that part only:

* `MemoryConfig.settled`: everything that `finish` leaves alone;
* `Cooling`: the cooling flag, the cooling mode and whether a mode was seen
  (`coolingWrite`);
* `AdcDecode`: the calibration, the two legacy calibrations and what was seen of
  them (`adcWrite`).
-/

namespace FluxPurr.Memory

open FluxPurr.Wire

/-! ## Values that finishing leaves alone -/

namespace MemoryConfig

/-- The configuration without the values that `finish` writes. -/
def settled (config : MemoryConfig) : MemoryConfig :=
  { config with
    activeCoolingEnabled := true
    postHeatCoolingMode := .normal
    adcCalibration := {}
    activeHeaterCurve := {}
    heaterCurveRawObservations := {}
    heaterCurveTransactionId := none
    thermalPlantActive := none
    thermalPlantTransientActive := none }

end MemoryConfig

/-! ## Cooling -/

inductive CoolingWrite where
  | enabled (value : Bool)
  | mode (value : PostHeatCoolingMode)
  /-- Not an element of this part; finishing after it still rewrites the mode. -/
  | other
deriving DecidableEq, Repr

def coolingWrite (tlv : Tlv) : CoolingWrite :=
  if tlv.tag = tlvActiveCoolingEnabled ∧ tlv.value.length = 1 then
    .enabled (byteAt tlv.value 0 ≠ 0)
  else if tlv.tag = tlvPostHeatCoolingMode ∧ tlv.value.length = 1 then
    .mode (decodePostHeatCoolingMode (byteAt tlv.value 0))
  else .other

structure Cooling where
  enabled : Bool := true
  mode : PostHeatCoolingMode := .normal
  sawMode : Bool := false
deriving DecidableEq, Repr

namespace Cooling

def write (cooling : Cooling) : CoolingWrite → Cooling
  | .enabled value => { cooling with enabled := value }
  | .mode value => { cooling with mode := value, sawMode := true }
  | .other => cooling

/-- The mode after `finish`; the flag follows it. -/
def finish (cooling : Cooling) : PostHeatCoolingMode :=
  if cooling.sawMode then cooling.mode else .fromLegacy cooling.enabled

end Cooling

/-! ## Calibration -/

inductive AdcWrite where
  | samples (decoded : AdcCalibrationConfig)
  | draftSamples (decoded : AdcCalibrationConfig)
  | references (value : List UInt8)
  | draftReferences (value : List UInt8)
  | targets (value : List UInt8)
  | draftTargets (value : List UInt8)
  | slots (value : List UInt8)
  | activeSlots (value : List UInt8)
deriving DecidableEq, Repr

def adcWrite (tlv : Tlv) : Option AdcWrite :=
  if tlv.tag = tlvAdcCalibrationSamples ∧
      tlv.value.length = adcCalibrationSamplePayloadLen then
    some (.samples (decodeAdcCalibrationSamples tlv.value))
  else if tlv.tag = tlvLegacyDraftAdcCalibration ∧
      tlv.value.length = adcCalibrationSamplePayloadLen then
    some (.draftSamples (decodeAdcCalibrationSamples tlv.value))
  else if tlv.tag = tlvAdcCalibrationReferences ∧
      tlv.value.length = adcCalibrationReferencePayloadLen then
    some (.references tlv.value)
  else if tlv.tag = tlvLegacyDraftAdcCalibrationReferences ∧
      tlv.value.length = adcCalibrationReferencePayloadLen then
    some (.draftReferences tlv.value)
  else if tlv.tag = tlvAdcCalibrationTargets ∧
      tlv.value.length = adcCalibrationTargetPayloadLen then
    some (.targets tlv.value)
  else if tlv.tag = tlvLegacyDraftAdcCalibrationTargets ∧
      tlv.value.length = adcCalibrationTargetPayloadLen then
    some (.draftTargets tlv.value)
  else if tlv.tag = tlvAdcCalibrationSlots ∧
      tlv.value.length = adcCalibrationSlotPayloadLen then
    some (.slots tlv.value)
  else if tlv.tag = tlvAdcCalibrationActiveSlots ∧
      tlv.value.length = adcCalibrationActiveSlotPayloadLen then
    some (.activeSlots tlv.value)
  else none

structure AdcDecode where
  config : AdcCalibrationConfig := {}
  legacyActive : AdcCalibrationConfig := {}
  legacyDraft : AdcCalibrationConfig := {}
  sawSlots : Bool := false
  sawActiveSlots : Bool := false
  sawLegacyActive : Bool := false
  sawLegacyDraft : Bool := false

namespace AdcDecode

def write (decode : AdcDecode) : AdcWrite → AdcDecode
  | .samples decoded =>
      { decode with
        config := ConfigDecodeState.withSamplesOf decode.config decoded
        legacyActive := decoded
        sawLegacyActive := true }
  | .draftSamples decoded => { decode with legacyDraft := decoded, sawLegacyDraft := true }
  | .references value =>
      { decode with
        config := decodeAdcCalibrationReferences value decode.config
        legacyActive := decodeAdcCalibrationReferences value decode.legacyActive
        sawLegacyActive := true }
  | .draftReferences value =>
      { decode with
        legacyDraft := decodeAdcCalibrationReferences value decode.legacyDraft
        sawLegacyDraft := true }
  | .targets value =>
      { decode with
        config := decodeAdcCalibrationTargets value decode.config
        legacyActive := decodeAdcCalibrationTargets value decode.legacyActive
        sawLegacyActive := true }
  | .draftTargets value =>
      { decode with
        legacyDraft := decodeAdcCalibrationTargets value decode.legacyDraft
        sawLegacyDraft := true }
  | .slots value =>
      { decode with config := decodeAdcCalibrationSlots value decode.config, sawSlots := true }
  | .activeSlots value =>
      { decode with
        config := decodeAdcCalibrationActiveSlots value decode.config
        sawActiveSlots := true }

def finish (decode : AdcDecode) : AdcCalibrationConfig :=
  ConfigDecodeState.finishAdcCalibration
    { legacyActiveAdcCalibration := decode.legacyActive
      legacyDraftAdcCalibration := decode.legacyDraft
      sawNewAdcSlots := decode.sawSlots
      sawNewAdcActiveSlots := decode.sawActiveSlots
      sawLegacyActive := decode.sawLegacyActive
      sawLegacyDraft := decode.sawLegacyDraft } decode.config

end AdcDecode

/-! ## One element -/

/-- The same values of the parts that are written by `finish` and kept by it. -/
def SameWritten (left right : MemoryConfig) : Prop :=
  left.activeCoolingEnabled = right.activeCoolingEnabled ∧
    left.postHeatCoolingMode = right.postHeatCoolingMode ∧
    left.adcCalibration = right.adcCalibration

namespace ConfigDecodeState

def cooling (decoded : ConfigDecodeState × MemoryConfig) : Cooling :=
  { enabled := decoded.2.activeCoolingEnabled
    mode := decoded.2.postHeatCoolingMode
    sawMode := decoded.1.sawPostHeatMode }

def adc (decoded : ConfigDecodeState × MemoryConfig) : AdcDecode :=
  { config := decoded.2.adcCalibration
    legacyActive := decoded.1.legacyActiveAdcCalibration
    legacyDraft := decoded.1.legacyDraftAdcCalibration
    sawSlots := decoded.1.sawNewAdcSlots
    sawActiveSlots := decoded.1.sawNewAdcActiveSlots
    sawLegacyActive := decoded.1.sawLegacyActive
    sawLegacyDraft := decoded.1.sawLegacyDraft }

variable (state : ConfigDecodeState) (config : MemoryConfig)

/-- A part of the result, by the function that knows the element. -/
theorem part_applyTlv {α : Type*} (part : ConfigDecodeState × MemoryConfig → α) (tlv : Tlv) :
    part (applyTlv state config tlv) =
      ((applyBasicTlv state config tlv.tag tlv.value).map part).getD
        (((applyNetworkTlv config tlv.tag tlv.value).map fun config => part (state, config)).getD
          (((applyCalibrationTlv state config tlv.tag tlv.value).map part).getD
            (((applyProfileTlv config tlv.tag tlv.value).map fun config =>
                part (state, config)).getD
              (((applyThermalPlantTlv config tlv.tag tlv.value).map fun config =>
                part (state, config)).getD (part (state, config)))))) := by
  rw [applyTlv, ← Option.getD_map part]
  simp only [Option.map_or, Option.map_map, Function.comp_def, Option.getD_or]

variable (other : ConfigDecodeState) (tag : UInt8) (tlv : Tlv)

theorem settled_applyBasicTlv (tag : UInt8) (value : List UInt8) :
    (applyBasicTlv state config tag value).map (fun applied => applied.2.settled) =
      (applyBasicTlv other config.settled tag value).map (fun applied => applied.2.settled) := by
  unfold applyBasicTlv
  split_ifs <;> rfl

variable (value : List UInt8)

theorem settled_applyNetworkTlv : (applyNetworkTlv config tag value).map MemoryConfig.settled =
      (applyNetworkTlv config.settled tag value).map MemoryConfig.settled := by
  unfold applyNetworkTlv
  split_ifs <;> rfl

theorem settled_applyCalibrationTlv (tag : UInt8) (value : List UInt8) :
    (applyCalibrationTlv state config tag value).map (fun applied => applied.2.settled) =
      (applyCalibrationTlv other config.settled tag value).map
        (fun applied => applied.2.settled) := by
  unfold applyCalibrationTlv
  split_ifs <;> rfl

theorem settled_applyProfileTlv : (applyProfileTlv config tag value).map MemoryConfig.settled =
      (applyProfileTlv config.settled tag value).map MemoryConfig.settled := by
  unfold applyProfileTlv
  split_ifs <;> rfl

/-- Whether a candidate is taken depends on a value that is cleared anyway. -/
theorem settled_applyThermalPlantTlv :
    ((applyThermalPlantTlv config tag value).map MemoryConfig.settled).getD config.settled =
      config.settled := by
  unfold applyThermalPlantTlv
  split_ifs <;> rfl

theorem settled_applyTlv (tlv : Tlv) :
    (applyTlv state config tlv).2.settled = (applyTlv other config.settled tlv).2.settled := by
  rw [part_applyTlv state config fun applied => applied.2.settled,
    part_applyTlv other config.settled fun applied => applied.2.settled,
    settled_applyBasicTlv state config other, settled_applyNetworkTlv,
    settled_applyCalibrationTlv state config other, settled_applyProfileTlv,
    settled_applyThermalPlantTlv, settled_applyThermalPlantTlv]
  rfl

/-! The functions for network, profile and plant elements. -/

theorem frame_applyNetworkTlv :
    ∀ applied ∈ applyNetworkTlv config tag value, SameWritten applied config := by
  unfold applyNetworkTlv
  split_ifs <;> simp [SameWritten]

theorem frame_applyProfileTlv :
    ∀ applied ∈ applyProfileTlv config tag value, SameWritten applied config := by
  unfold applyProfileTlv
  split_ifs <;> simp [SameWritten]

theorem frame_applyThermalPlantTlv :
    ∀ applied ∈ applyThermalPlantTlv config tag value, SameWritten applied config := by
  unfold applyThermalPlantTlv
  split_ifs <;> simp [SameWritten]

theorem getD_map_of_frame {α : Type*} {known : Option MemoryConfig}
    {part : MemoryConfig → α} (hframe : ∀ applied ∈ known, SameWritten applied config)
    (hpart : ∀ applied, SameWritten applied config → part applied = part config) :
    (known.map part).getD (part config) = part config := by
  cases known with
  | none => rfl
  | some applied => exact hpart applied (hframe applied rfl)

theorem cooling_of_sameWritten (applied : MemoryConfig) (h : SameWritten applied config) :
    cooling (state, applied) = cooling (state, config) := by
  obtain ⟨henabled, hmode, -⟩ := h
  simp only [cooling, henabled, hmode]

theorem adc_of_sameWritten (applied : MemoryConfig) (h : SameWritten applied config) :
    adc (state, applied) = adc (state, config) := by
  simp only [adc, h.2.2]

theorem cooling_applyBasicTlv :
    ((applyBasicTlv state config tlv.tag tlv.value).map cooling).getD (cooling (state, config)) =
      (cooling (state, config)).write (coolingWrite tlv) := by
  obtain ⟨tag, value⟩ := tlv
  unfold applyBasicTlv coolingWrite
  split_ifs <;> first | rfl | simp_all +decide

theorem cooling_applyTlv :
    cooling (applyTlv state config tlv) = (cooling (state, config)).write (coolingWrite tlv) := by
  have hkept := cooling_of_sameWritten state config
  have hcalibration : ((applyCalibrationTlv state config tlv.tag tlv.value).map cooling).getD
      (cooling (state, config)) = cooling (state, config) := by
    unfold applyCalibrationTlv
    split_ifs <;> rfl
  rw [part_applyTlv state config cooling,
    getD_map_of_frame config (frame_applyThermalPlantTlv config tlv.tag tlv.value) hkept,
    getD_map_of_frame config (frame_applyProfileTlv config tlv.tag tlv.value) hkept,
    hcalibration, getD_map_of_frame config (frame_applyNetworkTlv config tlv.tag tlv.value) hkept,
    cooling_applyBasicTlv]

/-- An element of the first two functions is not one of the calibration. -/
theorem adcWrite_eq_none_of_applyBasicTlv
    (h : applyBasicTlv state config tlv.tag tlv.value ≠ none) : adcWrite tlv = none := by
  obtain ⟨tag, value⟩ := tlv
  unfold applyBasicTlv at h
  unfold adcWrite
  split_ifs at h <;> simp_all +decide

theorem adcWrite_eq_none_of_applyNetworkTlv
    (h : applyNetworkTlv config tlv.tag tlv.value ≠ none) : adcWrite tlv = none := by
  obtain ⟨tag, value⟩ := tlv
  unfold applyNetworkTlv at h
  unfold adcWrite
  split_ifs at h <;> simp_all +decide

theorem adc_applyBasicTlv :
    ∀ applied ∈ applyBasicTlv state config tag value, adc applied = adc (state, config) := by
  unfold applyBasicTlv
  split_ifs <;> simp [adc]

theorem adc_applyCalibrationTlv : (applyCalibrationTlv state config tlv.tag tlv.value).map adc =
      (adcWrite tlv).map (adc (state, config)).write := by
  unfold applyCalibrationTlv adcWrite
  split_ifs <;> rfl

theorem adc_applyTlv : adc (applyTlv state config tlv) =
      ((adcWrite tlv).map (adc (state, config)).write).getD (adc (state, config)) := by
  have hkept := adc_of_sameWritten state config
  rw [part_applyTlv state config adc,
    getD_map_of_frame config (frame_applyThermalPlantTlv config tlv.tag tlv.value) hkept,
    getD_map_of_frame config (frame_applyProfileTlv config tlv.tag tlv.value) hkept,
    adc_applyCalibrationTlv]
  cases hbasic : applyBasicTlv state config tlv.tag tlv.value with
  | some applied =>
    have hnone := adcWrite_eq_none_of_applyBasicTlv state config tlv (by simp [hbasic])
    rw [hnone]
    exact adc_applyBasicTlv state config tlv.tag tlv.value applied hbasic
  | none =>
    cases hnetwork : applyNetworkTlv config tlv.tag tlv.value with
    | some applied =>
      have hnone := adcWrite_eq_none_of_applyNetworkTlv config tlv (by simp [hnetwork])
      rw [hnone]
      exact hkept applied (frame_applyNetworkTlv config tlv.tag tlv.value applied hnetwork)
    | none => rfl

theorem adcCalibration_finish :
    (state.finish config).adcCalibration = (adc (state, config)).finish := rfl

end ConfigDecodeState

end FluxPurr.Memory
