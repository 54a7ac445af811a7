import FluxPurr.Memory.LegacyCalibration

/-!
# Streaming a legacy record

`streamLegacyConfig` applies and finishes the elements of a legacy record one at a
time; `decodeMemoryRecord` finishes once.  The two agree on everything but the
cooling mode and the calibration, for which `CoolingSurvives` and
`CalibrationSurvives` are the exact conditions.

Strategy: finishing leaves the settled values alone and each element writes the
settled values in the same way in both decoders (`settled_foldl_finishTlv`); the
cooling and calibration parts of both are folds over what the elements write, which
are compared through their last writers.
-/

namespace FluxPurr.Memory

open FluxPurr.Wire
open CoolingWrite
open ConfigDecodeState

/-! ## The cooling mode -/

namespace CoolingWrite

def mode? : CoolingWrite → Option PostHeatCoolingMode
  | .mode value => some value
  | _ => none

/-- The cooling flag after the element is applied and finished alone. -/
def enabled? : CoolingWrite → Option Bool
  | .enabled value => some value
  | .mode value => some value.isEnabled
  | .other => none

/-- The cooling flag the element stores. -/
def flag? : CoolingWrite → Option Bool
  | .enabled value => some value
  | _ => none

end CoolingWrite

/-- The stored mode is the last element, or it is the one the flag stands for: later
elements keep the flag only. -/
def CoolingSurvives (writes : List CoolingWrite) : Prop :=
  ∀ mode, lastSome mode? writes = some mode →
    writes.getLast? = some (.mode mode) ∨ mode = .fromLegacy ((lastSome enabled? writes).getD true)

namespace Cooling

/-- The cooling part after all elements. -/
def run (writes : List CoolingWrite) : Cooling := writes.foldl write {}

/-- The cooling part after an element that is applied and finished alone. -/
def restart (cooling : Cooling) (written : CoolingWrite) : Cooling :=
  let mode := (write { cooling with sawMode := false } written).finish
  { enabled := mode.isEnabled, mode := mode }

def runRestarting (writes : List CoolingWrite) : Cooling := writes.foldl restart {}

variable (writes : List CoolingWrite)

theorem isEnabled_fromLegacy (enabled : Bool) :
    (PostHeatCoolingMode.fromLegacy enabled).isEnabled = enabled := by
  cases enabled <;> rfl

theorem finish_run : (run writes).finish = (lastSome mode? writes).getD
      (.fromLegacy ((lastSome flag? writes).getD true)) := by
  have hmode := foldl_lastSome write (fun cooling : Cooling => cooling.mode)
    mode? (fun cooling written => by cases written <;> rfl) writes {}
  have hflag := foldl_lastSome write (fun cooling : Cooling => cooling.enabled)
    flag? (fun cooling written => by cases written <;> rfl) writes {}
  have hsaw := foldl_lastSome write (fun cooling : Cooling => cooling.sawMode)
    (fun written => written.mode?.map fun _ => true)
    (fun cooling written => by cases written <;> rfl) writes {}
  rw [lastSome_map] at hsaw
  rw [finish, run, hmode, hflag, hsaw]
  cases lastSome mode? writes <;> rfl

theorem enabled_runRestarting :
    (runRestarting writes).enabled = (lastSome enabled? writes).getD true := by
  refine foldl_lastSome restart (fun cooling : Cooling => cooling.enabled) enabled? ?_
    writes {}
  intro cooling written
  cases written with
  | enabled value => exact isEnabled_fromLegacy value
  | mode value => rfl
  | other => exact isEnabled_fromLegacy cooling.enabled

theorem mode_runRestarting : (runRestarting writes).mode = (writes.getLast?.bind mode?).getD
      (.fromLegacy ((lastSome enabled? writes).getD true)) := by
  rw [← enabled_runRestarting]
  cases writes using List.reverseRecOn with
  | nil => rfl
  | append_singleton writes written =>
    rw [List.getLast?_concat, runRestarting, List.foldl_append, List.foldl_cons,
      List.foldl_nil, ← runRestarting]
    have hrestart : ∀ enabled, PostHeatCoolingMode.fromLegacy enabled =
        .fromLegacy (PostHeatCoolingMode.fromLegacy enabled).isEnabled := by
      intro enabled
      rw [isEnabled_fromLegacy]
    cases written with
    | enabled value => exact hrestart value
    | mode value => rfl
    | other => exact hrestart (runRestarting writes).enabled

theorem mode_agree_iff :
    (runRestarting writes).mode = (run writes).finish ↔ CoolingSurvives writes := by
  rw [mode_runRestarting, finish_run, CoolingSurvives]
  cases hmode : lastSome mode? writes with
  | none =>
    have hflag : lastSome enabled? writes = lastSome flag? writes := by
      refine lastSome_congr_of_none hmode ?_
      intro written hnone
      cases written <;> first | rfl | cases hnone
    have hlast : writes.getLast?.bind mode? = none := by
      cases hwritten : writes.getLast? with
      | none => rfl
      | some written =>
        exact lastSome_eq_none_iff.mp hmode written (List.mem_of_getLast? hwritten)
    rw [hlast, hflag]
    exact iff_of_true rfl fun _ h => by cases h
  | some mode =>
    cases hlast : writes.getLast?.bind mode? with
    | some last =>
      obtain rfl : last = mode := by
        simpa [hmode] using (lastSome_of_getLast? hlast).symm
      have hwritten : writes.getLast? = some (.mode last) := by
        obtain ⟨written, hwritten, hvalue⟩ := Option.bind_eq_some_iff.mp hlast
        cases written with
        | mode value =>
          obtain rfl : value = last := by simpa [mode?] using hvalue
          exact hwritten
        | _ => cases hvalue
      refine iff_of_true rfl ?_
      rintro other ⟨⟩
      exact Or.inl hwritten
    | none =>
      have hnot : writes.getLast? ≠ some (.mode mode) := by
        intro hwritten
        rw [hwritten] at hlast
        cases hlast
      constructor
      · rintro heq other ⟨⟩
        exact Or.inr heq.symm
      · intro hsurvives
        exact ((hsurvives mode rfl).resolve_left hnot).symm

end Cooling

/-! ## Runs of elements -/

namespace ConfigDecodeState

variable (decoded : ConfigDecodeState × MemoryConfig)

theorem settled_applyTlvs (config : MemoryConfig)
    (h : decoded.2.settled = config.settled) (tlvs : List Tlv) :
    (applyTlvs decoded tlvs).2.settled = (tlvs.foldl finishTlv config).settled := by
  induction tlvs generalizing decoded config with
  | nil => exact h
  | cons tlv tlvs ih =>
    refine ih _ _ ?_
    calc (applyTlv decoded.1 decoded.2 tlv).2.settled
        = (applyTlv {} decoded.2.settled tlv).2.settled :=
          settled_applyTlv decoded.1 decoded.2 {} tlv
      _ = (applyTlv {} config.settled tlv).2.settled := by rw [h]
      _ = (applyTlv {} config tlv).2.settled := (settled_applyTlv {} config {} tlv).symm
      _ = (finishTlv config tlv).settled := rfl

theorem cooling_applyTlvs (tlvs : List Tlv) :
    cooling (applyTlvs decoded tlvs) =
      (tlvs.map coolingWrite).foldl Cooling.write (cooling decoded) := by
  rw [List.foldl_map]
  exact (List.foldl_hom cooling fun decoded tlv =>
    (cooling_applyTlv decoded.1 decoded.2 tlv).symm).symm

theorem adc_applyTlvs (tlvs : List Tlv) :
    adc (applyTlvs decoded tlvs) = (tlvs.filterMap adcWrite).foldl AdcDecode.write (adc decoded) :=
  foldl_part adc adcWrite AdcDecode.write
    (fun decoded tlv => adc_applyTlv decoded.1 decoded.2 tlv) tlvs decoded

end ConfigDecodeState

variable (config : MemoryConfig) (tlvs : List Tlv)

/-- The cooling part of a configuration between two elements. -/
def MemoryConfig.cooling : Cooling :=
  { enabled := config.activeCoolingEnabled, mode := config.postHeatCoolingMode }

theorem cooling_finishTlv (tlv : Tlv) :
    (finishTlv config tlv).cooling = config.cooling.restart (coolingWrite tlv) := by
  have happlied := cooling_applyTlv {} config tlv
  calc (finishTlv config tlv).cooling
      = { enabled := (cooling
            (applyTlv {} config tlv)).finish.isEnabled
          mode := (cooling
            (applyTlv {} config tlv)).finish } := rfl
    _ = config.cooling.restart (coolingWrite tlv) := by
      rw [happlied]
      rfl

theorem adcCalibration_finishTlv (tlv : Tlv) :
    (finishTlv config tlv).adcCalibration =
      ((adcWrite tlv).map (AdcDecode.restart config.adcCalibration)).getD
        config.adcCalibration := by
  have happlied := adc_applyTlv {} config tlv
  rw [finishTlv, adcCalibration_finish, happlied]
  cases adcWrite tlv <;> rfl

theorem cooling_foldl_finishTlv : (tlvs.foldl finishTlv legacyInitialConfig).cooling =
      Cooling.runRestarting (tlvs.map coolingWrite) := by
  rw [Cooling.runRestarting, List.foldl_map]
  exact (List.foldl_hom MemoryConfig.cooling fun config tlv =>
    (cooling_finishTlv config tlv).symm).symm

theorem adcCalibration_foldl_finishTlv : (tlvs.foldl finishTlv legacyInitialConfig).adcCalibration =
      AdcDecode.runRestarting (tlvs.filterMap adcWrite) :=
  foldl_part MemoryConfig.adcCalibration adcWrite AdcDecode.restart adcCalibration_finishTlv tlvs
    legacyInitialConfig

theorem enabled_runRestarting_eq (writes : List CoolingWrite) :
    (Cooling.runRestarting writes).enabled = (Cooling.runRestarting writes).mode.isEnabled := by
  cases writes using List.reverseRecOn with
  | nil => rfl
  | append_singleton writes written =>
    rw [Cooling.runRestarting, List.foldl_append]
    rfl

/-- Finishing clears the records without a compatible meaning, and so the streamed
configuration never holds one. -/
theorem clearLegacyRecords_foldl_finishTlv :
    clearLegacyRecords (tlvs.foldl finishTlv legacyInitialConfig) =
      tlvs.foldl finishTlv legacyInitialConfig := by
  cases tlvs using List.reverseRecOn with
  | nil => rfl
  | append_singleton tlvs tlv =>
    rw [List.foldl_append]
    rfl

/-! ## Equal configurations -/

/-- `==` of configurations: slot fits are compared as floating point numbers, all the
rest is equal. -/
def SameConfig (left right : MemoryConfig) : Prop :=
  { left with adcCalibration := {} } = { right with adcCalibration := {} } ∧
    SameAdc left.adcCalibration right.adcCalibration

theorem sanitize_clearLegacyRecords :
    { (clearLegacyRecords config).sanitize with adcCalibration := {} } =
      { config.settled.sanitize with
        activeCoolingEnabled := config.activeCoolingEnabled
        postHeatCoolingMode := config.postHeatCoolingMode
        adcCalibration := {} } := rfl

/-- Two configurations with the same settled values, in each of which the flag
follows the mode. -/
theorem sameConfig_iff_of_settled {left right : MemoryConfig}
    (hsettled : left.settled = right.settled)
    (hleft : left.activeCoolingEnabled = left.postHeatCoolingMode.isEnabled)
    (hright : right.activeCoolingEnabled = right.postHeatCoolingMode.isEnabled) :
    SameConfig (clearLegacyRecords left).sanitize (clearLegacyRecords right).sanitize ↔
      left.postHeatCoolingMode = right.postHeatCoolingMode ∧
        SameAdc (sanitizeAdcCalibration left.adcCalibration)
          (sanitizeAdcCalibration right.adcCalibration) := by
  refine and_congr ?_ Iff.rfl
  rw [sanitize_clearLegacyRecords, sanitize_clearLegacyRecords, hsettled, hleft, hright]
  constructor
  · intro h
    have hmode := congrArg MemoryConfig.postHeatCoolingMode h
    exact hmode
  · intro h
    rw [h]

/-! ## Both decoders -/

/-- What the streamed elements must not lose. -/
def StreamingKeeps : Prop :=
  CoolingSurvives (tlvs.map coolingWrite) ∧ CalibrationSurvives (tlvs.filterMap adcWrite)

theorem sameConfig_iff_streamingKeeps :
    SameConfig (tlvs.foldl finishTlv legacyInitialConfig).sanitize
      (clearLegacyRecords (decodeConfigTlvs tlvs legacyInitialConfig)).sanitize ↔
      StreamingKeeps tlvs := by
  have hsettled : (tlvs.foldl finishTlv legacyInitialConfig).settled =
      (decodeConfigTlvs tlvs legacyInitialConfig).settled :=
    (settled_applyTlvs ({}, legacyInitialConfig) legacyInitialConfig rfl
      tlvs).symm
  have hcooling := cooling_foldl_finishTlv tlvs
  have henabled : (tlvs.foldl finishTlv legacyInitialConfig).activeCoolingEnabled =
      (tlvs.foldl finishTlv legacyInitialConfig).postHeatCoolingMode.isEnabled := by
    have hfollows := enabled_runRestarting_eq (tlvs.map coolingWrite)
    rw [← hcooling] at hfollows
    exact hfollows
  have hmode : (tlvs.foldl finishTlv legacyInitialConfig).postHeatCoolingMode =
      (Cooling.runRestarting (tlvs.map coolingWrite)).mode := congrArg Cooling.mode hcooling
  have hdecodedMode : (decodeConfigTlvs tlvs legacyInitialConfig).postHeatCoolingMode =
      (Cooling.run (tlvs.map coolingWrite)).finish :=
    congrArg Cooling.finish (cooling_applyTlvs ({}, legacyInitialConfig) tlvs)
  have hdecodedAdc : (decodeConfigTlvs tlvs legacyInitialConfig).adcCalibration =
      (AdcDecode.run (tlvs.filterMap adcWrite)).finish :=
    congrArg AdcDecode.finish (adc_applyTlvs ({}, legacyInitialConfig) tlvs)
  rw [← clearLegacyRecords_foldl_finishTlv, sameConfig_iff_of_settled hsettled henabled rfl,
    hmode, hdecodedMode, hdecodedAdc, adcCalibration_foldl_finishTlv, Cooling.mode_agree_iff,
    AdcDecode.sameAdc_iff_calibrationSurvives, StreamingKeeps]

theorem streamLegacyConfig_eq_ok {wide : Bool} {tlvs : List Tlv}
    (hsize : ∀ tlv ∈ tlvs, 1 + tlvLenWidth wide + tlv.value.length ≤ 1024)
    (hlength : ∀ tlv ∈ tlvs, tlv.value.length < 256 ^ tlvLenWidth wide) :
    streamLegacyConfig wide tlvs =
      .ok (tlvs.foldl finishTlv legacyInitialConfig).sanitize := by
  have hstep : ∀ tlv ∈ tlvs, ∀ config,
      applyLegacyConfigTlv config tlv wide = .ok (finishTlv config tlv) := by
    intro tlv hmem config
    have hnarrow : ¬ (¬ wide = true ∧ 255 < tlv.value.length) := by
      rintro ⟨hwide, hlong⟩
      have hshort := hlength tlv hmem
      rw [tlvLenWidth, if_neg hwide] at hshort
      omega
    have hfits := hsize tlv hmem
    rw [applyLegacyConfigTlv, if_neg]
    rintro (hlarge | hlong)
    · omega
    · exact hnarrow hlong
  have hfold : ∀ (tlvs : List Tlv) (config : MemoryConfig),
      (∀ tlv ∈ tlvs, ∀ config, applyLegacyConfigTlv config tlv wide = .ok (finishTlv config tlv)) →
        tlvs.foldlM (fun config tlv => applyLegacyConfigTlv config tlv wide) config =
          .ok (tlvs.foldl finishTlv config) := by
    intro tlvs
    induction tlvs with
    | nil => exact fun _ _ => rfl
    | cons tlv tlvs ih =>
      intro config h
      rw [List.foldlM_cons, h tlv (by simp), List.foldl_cons]
      exact ih (finishTlv config tlv) fun other hmem => h other (by simp [hmem])
  rw [streamLegacyConfig, hfold tlvs legacyInitialConfig hstep]
  rfl

theorem config_of_decodeMemoryRecord {bytes : List UInt8} {record : MemoryRecord}
    {tlvs : List Tlv} (hdecode : decodeMemoryRecord bytes = .ok record)
    (htlvs : tlvsOf (tlvLenWidth (hasWideTlvLengths bytes)) (memoryRecordPayload bytes) =
      some tlvs) :
    record.config = (clearLegacyRecords (decodeConfigTlvs tlvs legacyInitialConfig)).sanitize := by
  simp only [decodeMemoryRecord, decodeConfigPayload, htlvs] at hdecode
  split_ifs at hdecode
  obtain rfl := Except.ok.inj hdecode
  rfl

/-- A record that is accepted is streamed to the same configuration exactly when
streaming keeps its cooling mode and its calibration. -/
theorem streaming_agrees_iff {bytes : List UInt8} {record : MemoryRecord} {tlvs : List Tlv}
    (hdecode : decodeMemoryRecord bytes = .ok record)
    (htlvs : tlvsOf (tlvLenWidth (hasWideTlvLengths bytes)) (memoryRecordPayload bytes) = some tlvs)
    (hsize : ∀ tlv ∈ tlvs, 1 + tlvLenWidth (hasWideTlvLengths bytes) + tlv.value.length ≤ 1024) :
    (∃ config, streamLegacyConfig (hasWideTlvLengths bytes) tlvs = .ok config ∧
      SameConfig config record.config) ↔ StreamingKeeps tlvs := by
  have hstream := streamLegacyConfig_eq_ok hsize (length_lt_of_parseTlvs htlvs)
  rw [hstream, config_of_decodeMemoryRecord hdecode htlvs, ← sameConfig_iff_streamingKeeps]
  constructor
  · rintro ⟨config, hconfig, hsame⟩
    obtain rfl := Except.ok.inj hconfig
    exact hsame
  · exact fun hsame => ⟨_, rfl, hsame⟩

/-- A narrow record whose last element is the cooling mode `Fast`. -/
def fastLastRecord : List UInt8 :=
  [70, 80, 77, 49, 2, 16, 6, 0, 1, 0, 0, 0, 215, 106, 81, 150, 6, 1, 3, 5, 1, 2]

def fastLastTlvs : List Tlv := [⟨tlvHeatingFanGuardMode, [3]⟩, ⟨tlvPostHeatCoolingMode, [2]⟩]

theorem fastLastRecord_streaming_agrees :
    (∃ config, streamLegacyConfig false fastLastTlvs = .ok config ∧
      SameConfig config (clearLegacyRecords
        (decodeConfigTlvs fastLastTlvs legacyInitialConfig)).sanitize) ↔
      StreamingKeeps fastLastTlvs := by
  have hdecode : decodeMemoryRecord fastLastRecord = .ok ⟨1, (clearLegacyRecords
      (decodeConfigTlvs fastLastTlvs legacyInitialConfig)).sanitize⟩ := by decide +kernel
  exact streaming_agrees_iff hdecode (by decide +kernel) (by decide)

/-- A wide record as the encoder writes it: the fan guard follows the cooling mode
`Fast`. -/
def fastThenGuardRecord : List UInt8 :=
  [70, 80, 77, 49, 5, 16, 8, 0, 1, 0, 0, 0, 84, 188, 1, 223, 5, 1, 0, 2, 6, 1, 0, 2]

def fastThenGuardTlvs : List Tlv := [⟨tlvPostHeatCoolingMode, [2]⟩, ⟨tlvHeatingFanGuardMode, [2]⟩]

/-- Streaming the fan guard turns `Fast` into `Normal`. -/
theorem not_all_records_stream : ¬ ∀ (bytes : List UInt8) (record : MemoryRecord) (tlvs : List Tlv),
      decodeMemoryRecord bytes = .ok record →
      tlvsOf (tlvLenWidth (hasWideTlvLengths bytes)) (memoryRecordPayload bytes) = some tlvs →
      (∀ tlv ∈ tlvs, 1 + tlvLenWidth (hasWideTlvLengths bytes) + tlv.value.length ≤ 1024) →
      ∃ config, streamLegacyConfig (hasWideTlvLengths bytes) tlvs = .ok config ∧
        SameConfig config record.config := by
  intro h
  obtain ⟨config, hstream, hsame⟩ := h fastThenGuardRecord
    ⟨1, (clearLegacyRecords (decodeConfigTlvs fastThenGuardTlvs legacyInitialConfig)).sanitize⟩
    fastThenGuardTlvs (by decide +kernel) (by decide +kernel) (by decide)
  have hstreamed : (streamLegacyConfig (hasWideTlvLengths fastThenGuardRecord)
      fastThenGuardTlvs).map (·.postHeatCoolingMode) = .ok .normal := by decide +kernel
  have hdecoded : (clearLegacyRecords (decodeConfigTlvs fastThenGuardTlvs
      legacyInitialConfig)).sanitize.postHeatCoolingMode = .fast := by decide +kernel
  rw [hstream] at hstreamed
  have hmode := congrArg MemoryConfig.postHeatCoolingMode hsame.1
  have hnormal : config.postHeatCoolingMode = .normal := Except.ok.inj hstreamed
  have hfast : config.postHeatCoolingMode = .fast := hmode.trans hdecoded
  rw [hnormal] at hfast
  cases hfast

end FluxPurr.Memory
