import FluxPurr.Memory.FieldCodec

/-!
# What is read back of a stored value

For each codec of `FieldCodec`, decoding what was encoded is a function of the
value, given here in closed form: the `stored…` definitions.  A value survives
being stored exactly when it is a fixed point of its function, and each `…Storable`
condition says so in terms of the fields.

The decoders of repeated items take a cursor, and `decode_flatMap_chunk` reduces
them to a decoder at the start of one item.
-/

namespace FluxPurr.Memory

open FluxPurr.Wire

/-! ## Runs of items -/

theorem ofFn_decode_eq_map {α β : Type*} {chunk : α → List UInt8} {size n : ℕ}
    (decode : List UInt8 → ℕ → β) (stored : α → β)
    (hdrop : ∀ bytes cursor, decode bytes cursor = decode (bytes.drop cursor) 0)
    (hsize : ∀ item, (chunk item).length = size)
    (hstored : ∀ item rest, decode (chunk item ++ rest) 0 = stored item) (items : Vector α n)
    (left : List UInt8) (start : ℕ) (hleft : left.length = start) (right : List UInt8) :
    (Vector.ofFn fun index : Fin n =>
      decode (left ++ (items.toList.flatMap chunk ++ right)) (start + size * index)) =
      items.map stored := by
  apply Vector.ext
  intro index hindex
  rw [Vector.getElem_ofFn, Vector.getElem_map, hdrop, ← hleft, List.drop_append,
    List.drop_eq_nil_of_le (by omega), List.nil_append, Nat.add_sub_cancel_left, ← hdrop,
    decode_flatMap_chunk decode stored hdrop hsize hstored items.toList (by simpa using hindex)]
  rw [Vector.getElem_toList]

/-- A vector of items is a fixed point exactly when each of its items is. -/
theorem map_eq_self_iff {α : Type*} {n : ℕ} {f : α → α} {items : Vector α n} :
    items.map f = items ↔ ∀ item ∈ items.toList, f item = item := by
  constructor
  · intro h item hitem
    obtain ⟨index, hindex, rfl⟩ := List.mem_iff_getElem.mp hitem
    have hlt : index < n := by simpa using hindex
    have hget : (items.map f)[index] = items[index] := by rw [h]
    rw [Vector.getElem_map] at hget
    rw [Vector.getElem_toList]
    exact hget
  · intro h
    apply Vector.ext
    intro index hindex
    rw [Vector.getElem_map]
    exact h _ (Vector.mem_toList_iff.mpr (Vector.getElem_mem hindex))

/-- The same for slots whose blank item is always a fixed point. -/
theorem map_slots_eq_self_iff {α : Type*} {n : ℕ} (f : Option α → Option α)
    (hnone : f none = none) (slots : Vector (Option α) n) :
    slots.map f = slots ↔ ∀ item ∈ present slots, f (some item) = some item := by
  rw [map_eq_self_iff]
  constructor
  · intro h item hitem
    exact h _ (mem_present.mp hitem)
  · intro h item hitem
    cases item with
    | none => exact hnone
    | some item => exact h item (mem_present.mpr hitem)

/-! ## Calibration samples -/

variable (sample : Option AdcCalibrationSample) (config : AdcCalibrationConfig) (bytes : List UInt8)
  (point : Option HeaterCurveRawObservation)

@[simp] theorem length_encodeAdcSample : (encodeAdcSample sample).length = 4 := by
  rw [encodeAdcSample, List.length_append, length_u16Le, length_u16Le]

@[simp] theorem length_encodeRtdReference : (encodeRtdReference sample).length = 2 := length_i16Le _

@[simp] theorem length_encodeVinReference : (encodeVinReference sample).length = 2 := length_i16Le _

@[simp] theorem length_encodeRtdTarget : (encodeRtdTarget sample).length = 2 := length_u16Le _

theorem length_encodeAdcCalibrationSamples :
    (encodeAdcCalibrationSamples config).length = adcCalibrationSamplePayloadLen := by
  rw [encodeAdcCalibrationSamples, List.length_append,
    length_flatMap_chunk length_encodeAdcSample, length_flatMap_chunk length_encodeAdcSample,
    Vector.length_toList, Vector.length_toList]
  rfl

theorem length_encodeAdcCalibrationReferences :
    (encodeAdcCalibrationReferences config).length = adcCalibrationReferencePayloadLen := by
  rw [encodeAdcCalibrationReferences, List.length_append,
    length_flatMap_chunk length_encodeRtdReference,
    length_flatMap_chunk length_encodeVinReference, Vector.length_toList, Vector.length_toList]
  rfl

theorem length_encodeAdcCalibrationTargets :
    (encodeAdcCalibrationTargets config).length = adcCalibrationTargetPayloadLen := by
  rw [encodeAdcCalibrationTargets, length_flatMap_chunk length_encodeRtdTarget,
    Vector.length_toList]
  rfl

/-- A sample with a marked value is read back as absent. -/
def storedSample : Option AdcCalibrationSample :=
  sample.bind fun sample =>
    if sample.observedMv = calibrationNoneWireValue ∨
        sample.expectedMv = calibrationNoneWireValue then none
    else some { observedMv := sample.observedMv, expectedMv := sample.expectedMv }

variable (cursor : ℕ)

theorem decodeAdcSample_drop :
    decodeAdcSample bytes cursor = decodeAdcSample (bytes.drop cursor) 0 := by
  simp only [decodeAdcSample, readU16_drop, Nat.add_zero, Nat.zero_add]

theorem decodeAdcSample_encode (rest : List UInt8) :
    decodeAdcSample (encodeAdcSample sample ++ rest) 0 = storedSample sample := by
  have hexpected : readU16 (encodeAdcSample sample ++ rest) 2 =
      (sample.map (·.expectedMv)).getD calibrationNoneWireValue := by
    rw [encodeAdcSample, List.append_assoc, readU16_append_right (by simp), length_u16Le,
      Nat.sub_self, readU16_u16Le]
  simp only [decodeAdcSample, Nat.zero_add, hexpected]
  rw [encodeAdcSample, List.append_assoc, readU16_u16Le]
  cases sample <;> simp [storedSample]

theorem decodeAdcCalibrationSamples_encode :
    decodeAdcCalibrationSamples (encodeAdcCalibrationSamples config) =
      { rtd := { samples := config.rtd.samples.map storedSample }
        vin := { samples := config.vin.samples.map storedSample } } := by
  have hrtd := ofFn_decode_eq_map _ _ decodeAdcSample_drop length_encodeAdcSample
    decodeAdcSample_encode config.rtd.samples [] 0 rfl
    (config.vin.samples.toList.flatMap encodeAdcSample)
  have hvin := ofFn_decode_eq_map _ _ decodeAdcSample_drop length_encodeAdcSample
    decodeAdcSample_encode config.vin.samples
    (config.rtd.samples.toList.flatMap encodeAdcSample) (4 * adcCalibrationMaxSamples)
    (by rw [length_flatMap_chunk length_encodeAdcSample, Vector.length_toList]) []
  rw [List.append_nil] at hvin
  rw [List.nil_append] at hrtd
  simp only [decodeAdcCalibrationSamples, decodeAdcSamples, encodeAdcCalibrationSamples]
  rw [hrtd, hvin]

theorem readI16_drop_zero : readI16 bytes cursor = readI16 (bytes.drop cursor) 0 := by
  rw [readI16_drop, Nat.add_zero]

theorem readU16_drop_zero : readU16 bytes cursor = readU16 (bytes.drop cursor) 0 := by
  rw [readU16_drop, Nat.add_zero]

/-- What is written of an RTD sample. -/
def storedRtdSample : Option AdcCalibrationSample :=
  ((storedSample sample).map (withRtdReference (rtdReferenceWire sample))).map
    (withTarget (rtdTargetWire sample))

/-- What is written of a VIN sample. -/
def storedVinSample : Option AdcCalibrationSample :=
  (storedSample sample).map (withVinReference (vinReferenceWire sample))

theorem getElem_ofFn_decode {β : Type*} {n : ℕ} {decoded : Fin n → β} {items : Vector β n}
    (h : Vector.ofFn decoded = items) (index : Fin n) : decoded index = items[index] := by
  rw [← h]
  exact (Vector.getElem_ofFn (f := decoded) index.isLt).symm

theorem decodeAdcCalibrationReferences_encode (decoded : AdcCalibrationConfig) :
    decodeAdcCalibrationReferences (encodeAdcCalibrationReferences config) decoded =
      { rtd := { decoded.rtd with
          samples := Vector.ofFn fun index => (getElem decoded.rtd.samples index index.isLt).map
            (withRtdReference (rtdReferenceWire (getElem config.rtd.samples index index.isLt))) }
        vin := { decoded.vin with
          samples := Vector.ofFn fun index => (getElem decoded.vin.samples index index.isLt).map
            (withVinReference (vinReferenceWire
              (getElem config.vin.samples index index.isLt))) } } := by
  have hrtd := ofFn_decode_eq_map readI16 rtdReferenceWire readI16_drop_zero
    length_encodeRtdReference (fun item rest => readI16_i16Le _ rest) config.rtd.samples
    [] 0 rfl (config.vin.samples.toList.flatMap encodeVinReference)
  have hvin := ofFn_decode_eq_map readI16 vinReferenceWire readI16_drop_zero
    length_encodeVinReference (fun item rest => readI16_i16Le _ rest) config.vin.samples
    (config.rtd.samples.toList.flatMap encodeRtdReference) (2 * adcCalibrationMaxSamples)
    (by rw [length_flatMap_chunk length_encodeRtdReference, Vector.length_toList]) []
  rw [List.append_nil] at hvin
  simp only [List.nil_append, Nat.zero_add] at hrtd
  have hrtdAt := getElem_ofFn_decode hrtd
  have hvinAt := getElem_ofFn_decode hvin
  simp only [decodeAdcCalibrationReferences, encodeAdcCalibrationReferences]
  simp only [hrtdAt, hvinAt, Fin.getElem_fin, Vector.getElem_map]

theorem decodeAdcCalibrationTargets_encode (decoded : AdcCalibrationConfig) :
    decodeAdcCalibrationTargets (encodeAdcCalibrationTargets config) decoded =
      { decoded with
        rtd := { decoded.rtd with
          samples := Vector.ofFn fun index => (getElem decoded.rtd.samples index index.isLt).map
            (withTarget (rtdTargetWire (getElem config.rtd.samples index index.isLt))) } } := by
  have hrtd := ofFn_decode_eq_map readU16 rtdTargetWire readU16_drop_zero
    length_encodeRtdTarget (fun item rest => readU16_u16Le _ rest) config.rtd.samples
    [] 0 rfl []
  simp only [List.nil_append, Nat.zero_add, List.append_nil] at hrtd
  have hrtdAt := getElem_ofFn_decode hrtd
  simp only [decodeAdcCalibrationTargets, encodeAdcCalibrationTargets]
  simp only [hrtdAt, Fin.getElem_fin, Vector.getElem_map]

structure RtdSampleStorable (sample : AdcCalibrationSample) : Prop where
  observedMv : sample.observedMv ≠ 65535
  expectedMv : sample.expectedMv ≠ 65535
  referenceTempDeciC : sample.referenceTempDeciC ≠ some (-32768)
  targetAdcMv : sample.targetAdcMv ≠ some 65535
  referenceVinMv : sample.referenceVinMv = none

structure VinSampleStorable (sample : AdcCalibrationSample) : Prop where
  observedMv : sample.observedMv ≠ 65535
  expectedMv : sample.expectedMv ≠ 65535
  referenceTempDeciC : sample.referenceTempDeciC = none
  targetAdcMv : sample.targetAdcMv = none
  referenceVinMv : ∀ reference ∈ sample.referenceVinMv, reference ≤ 32767

theorem storedRtdSample_eq_self_iff {sample : AdcCalibrationSample} :
    storedRtdSample (some sample) = some sample ↔ RtdSampleStorable sample := by
  obtain ⟨observed, expected, temp, target, vin⟩ := sample
  simp only [storedRtdSample, storedSample, rtdReferenceWire, rtdTargetWire, Option.bind_some]
  constructor
  · intro h
    split at h
    · cases h
    · rename_i hmarked
      obtain ⟨hobserved, hexpected⟩ := not_or.mp hmarked
      simp only [Option.map_some, withRtdReference, withTarget, Option.some.injEq,
        AdcCalibrationSample.mk.injEq, true_and] at h
      obtain ⟨htemp, htarget, hvin⟩ := h
      refine ⟨hobserved, hexpected, ?_, ?_, hvin.symm⟩
      · rintro rfl
        simp at htemp
      · rintro rfl
        simp at htarget
  · rintro ⟨hobserved, hexpected, htemp, htarget, rfl⟩
    simp only at hobserved hexpected htemp htarget
    rw [if_neg (not_or.mpr ⟨hobserved, hexpected⟩)]
    simp only [Option.map_some, withRtdReference, withTarget, Option.some.injEq,
      AdcCalibrationSample.mk.injEq, true_and, and_true]
    constructor
    · cases temp with
      | none => simp
      | some temp => simpa using htemp
    · cases target with
      | none => simp
      | some target => simpa using htarget

theorem vinReference_eq_self_iff {reference : Option UInt16} :
    (if (reference.bind tryI16).getD calibrationReferenceNoneWireValue =
        calibrationReferenceNoneWireValue then none
      else some ((reference.bind tryI16).getD calibrationReferenceNoneWireValue).toUInt16) =
      reference ↔ ∀ value ∈ reference, value ≤ 32767 := by
  cases reference with
  | none => simp
  | some value =>
    by_cases hvalue : value ≤ 32767
    · have hpositive : value.toInt16 ≠ -32768 := by
        intro h
        have hback := congrArg Int16.toUInt16 h
        rw [UInt16.toUInt16_toInt16] at hback
        rw [hback] at hvalue
        exact absurd hvalue (by decide)
      simp [tryI16, hvalue, hpositive]
    · simp [tryI16, hvalue]

theorem storedVinSample_eq_self_iff {sample : AdcCalibrationSample} :
    storedVinSample (some sample) = some sample ↔ VinSampleStorable sample := by
  obtain ⟨observed, expected, temp, target, vin⟩ := sample
  simp only [storedVinSample, storedSample, vinReferenceWire, Option.bind_some]
  constructor
  · intro h
    split at h
    · cases h
    · rename_i hmarked
      obtain ⟨hobserved, hexpected⟩ := not_or.mp hmarked
      simp only [Option.map_some, withVinReference, Option.some.injEq,
        AdcCalibrationSample.mk.injEq, true_and] at h
      obtain ⟨htemp, htarget, hvin⟩ := h
      exact ⟨hobserved, hexpected, htemp.symm, htarget.symm, vinReference_eq_self_iff.mp hvin⟩
  · rintro ⟨hobserved, hexpected, rfl, rfl, hvin⟩
    simp only at hobserved hexpected hvin
    rw [if_neg (not_or.mpr ⟨hobserved, hexpected⟩)]
    simp only [Option.map_some, withVinReference, Option.some.injEq,
      AdcCalibrationSample.mk.injEq, true_and]
    exact vinReference_eq_self_iff.mpr hvin

/-! ## Slot fits -/

@[simp] theorem length_encodeSlotFit (fit : AdcCalibrationSlotFit) :
    (encodeSlotFit fit).length = 8 := by
  rw [encodeSlotFit, List.length_append, length_u32Le, length_u32Le]

theorem length_encodeAdcCalibrationSlots :
    (encodeAdcCalibrationSlots config).length = adcCalibrationSlotPayloadLen := by
  rw [encodeAdcCalibrationSlots, length_flatMap_chunk length_encodeSlotFit]
  rfl

theorem decodeSlotFit_drop : decodeSlotFit bytes cursor = decodeSlotFit (bytes.drop cursor) 0 := by
  simp only [decodeSlotFit, readU32_drop, Nat.add_zero, Nat.zero_add]

theorem decodeSlotFit_encode (fit : AdcCalibrationSlotFit) (rest : List UInt8) :
    decodeSlotFit (encodeSlotFit fit ++ rest) 0 = fit := by
  have hoffset : readU32 (encodeSlotFit fit ++ rest) 4 = fit.offsetMv.bits := by
    rw [encodeSlotFit, List.append_assoc, readU32_append_right (by simp), length_u32Le,
      Nat.sub_self, readU32_u32Le]
  simp only [decodeSlotFit, Nat.zero_add, hoffset]
  rw [encodeSlotFit, List.append_assoc, readU32_u32Le]

theorem decodeAdcCalibrationSlots_encode (config decoded : AdcCalibrationConfig) :
    decodeAdcCalibrationSlots (encodeAdcCalibrationSlots config) decoded =
      { rtd := { decoded.rtd with slots := config.rtd.slots }
        vin := { decoded.vin with slots := config.vin.slots } } := by
  have hfit : ∀ index (hindex : index < 4),
      decodeSlotFit (encodeAdcCalibrationSlots config) (8 * index) =
        [config.rtd.slots.a, config.rtd.slots.b,
          config.vin.slots.a, config.vin.slots.b][index] := by
    intro index hindex
    have hchunk := decode_flatMap_chunk decodeSlotFit id decodeSlotFit_drop
      length_encodeSlotFit decodeSlotFit_encode
      [config.rtd.slots.a, config.rtd.slots.b, config.vin.slots.a, config.vin.slots.b] hindex []
    rwa [List.append_nil] at hchunk
  have h0 := hfit 0 (by decide)
  have h1 := hfit 1 (by decide)
  have h2 := hfit 2 (by decide)
  have h3 := hfit 3 (by decide)
  simp only [Nat.mul_zero, Nat.reduceMul, List.getElem_cons_zero, List.getElem_cons_succ]
    at h0 h1 h2 h3
  rw [decodeAdcCalibrationSlots, h0, h1, h2, h3]

theorem decodeSlotId_encode (slot : AdcCalibrationSlotId) :
    decodeSlotId (encodeSlotId slot) = slot := by
  cases slot <;> rfl

theorem decodeAdcCalibrationActiveSlots_encode (config decoded : AdcCalibrationConfig) :
    decodeAdcCalibrationActiveSlots (encodeAdcCalibrationActiveSlots config) decoded =
      { rtd := { decoded.rtd with activeSlot := config.rtd.activeSlot }
        vin := { decoded.vin with activeSlot := config.vin.activeSlot } } := by
  simp only [decodeAdcCalibrationActiveSlots, encodeAdcCalibrationActiveSlots, byteAt,
    List.getD_cons_zero, List.getD_cons_succ, decodeSlotId_encode]

/-- The calibration after its five elements were read, in the order in which they
are written. -/
def storedAdcCalibration : AdcCalibrationConfig :=
  { rtd := { config.rtd with samples := config.rtd.samples.map storedRtdSample }
    vin := { config.vin with samples := config.vin.samples.map storedVinSample } }

theorem decodeAdcCalibration_encode :
    decodeAdcCalibrationActiveSlots (encodeAdcCalibrationActiveSlots config)
      (decodeAdcCalibrationSlots (encodeAdcCalibrationSlots config)
        (decodeAdcCalibrationTargets (encodeAdcCalibrationTargets config)
          (decodeAdcCalibrationReferences (encodeAdcCalibrationReferences config)
            (decodeAdcCalibrationSamples (encodeAdcCalibrationSamples config))))) =
      storedAdcCalibration config := by
  have hrtd : (Vector.ofFn fun index : Fin adcCalibrationMaxSamples =>
      ((storedSample config.rtd.samples[index]).map
        (withRtdReference (rtdReferenceWire config.rtd.samples[index]))).map
        (withTarget (rtdTargetWire config.rtd.samples[index]))) =
      config.rtd.samples.map storedRtdSample := by
    apply Vector.ext
    intro index hindex
    rw [Vector.getElem_ofFn, Vector.getElem_map]
    rfl
  have hvin : (Vector.ofFn fun index : Fin adcCalibrationMaxSamples =>
      (storedSample config.vin.samples[index]).map
        (withVinReference (vinReferenceWire config.vin.samples[index]))) =
      config.vin.samples.map storedVinSample := by
    apply Vector.ext
    intro index hindex
    rw [Vector.getElem_ofFn, Vector.getElem_map]
    rfl
  rw [decodeAdcCalibrationSamples_encode, decodeAdcCalibrationReferences_encode,
    decodeAdcCalibrationTargets_encode, decodeAdcCalibrationSlots_encode,
    decodeAdcCalibrationActiveSlots_encode]
  simp only [Fin.getElem_fin, Vector.getElem_ofFn, Vector.getElem_map] at hrtd hvin ⊢
  rw [hrtd, hvin, storedAdcCalibration]

structure AdcCalibrationStorable (config : AdcCalibrationConfig) : Prop where
  rtd : ∀ sample ∈ present config.rtd.samples, RtdSampleStorable sample
  vin : ∀ sample ∈ present config.vin.samples, VinSampleStorable sample

theorem storedAdcCalibration_eq_self_iff {config : AdcCalibrationConfig} :
    storedAdcCalibration config = config ↔ AdcCalibrationStorable config := by
  have hrtd := map_slots_eq_self_iff storedRtdSample rfl config.rtd.samples
  have hvin := map_slots_eq_self_iff storedVinSample rfl config.vin.samples
  simp only [storedRtdSample_eq_self_iff, storedVinSample_eq_self_iff] at hrtd hvin
  constructor
  · intro h
    have hrtdSlots := congrArg (fun config => config.rtd.samples) h
    have hvinSlots := congrArg (fun config => config.vin.samples) h
    exact ⟨hrtd.mp hrtdSlots, hvin.mp hvinSlots⟩
  · intro h
    rw [storedAdcCalibration, hrtd.mpr h.rtd, hvin.mpr h.vin]

/-! ## Heater curve -/

@[simp] theorem length_encodeHeaterCurvePoint (point : Option HeaterCurvePoint) :
    (encodeHeaterCurvePoint point).length = 4 := by
  rw [encodeHeaterCurvePoint, List.length_append, length_i16Le, length_u16Le]

theorem length_encodeHeaterCurve (config : HeaterCurveConfig) :
    (encodeHeaterCurve config).length = heaterCurvePayloadLen := by
  rw [encodeHeaterCurve, length_flatMap_chunk length_encodeHeaterCurvePoint, Vector.length_toList]
  rfl

def HeaterCurvePointStorable (point : HeaterCurvePoint) : Prop :=
  point.tempCentiC ≠ -32768 ∧ point.resistanceMilliohms ≠ 65535

def storedHeaterCurvePoint (point : Option HeaterCurvePoint) : Option HeaterCurvePoint :=
  point.bind fun point =>
    if point.tempCentiC = presetNoneWireValue ∨
        point.resistanceMilliohms = calibrationNoneWireValue then none
    else some point

theorem decodeHeaterCurvePoint_drop :
    decodeHeaterCurvePoint bytes cursor = decodeHeaterCurvePoint (bytes.drop cursor) 0 := by
  simp only [decodeHeaterCurvePoint, readU16_drop, readI16_drop, Nat.add_zero, Nat.zero_add]

theorem decodeHeaterCurvePoint_encode (point : Option HeaterCurvePoint) (rest : List UInt8) :
    decodeHeaterCurvePoint (encodeHeaterCurvePoint point ++ rest) 0 =
      storedHeaterCurvePoint point := by
  have hresistance : readU16 (encodeHeaterCurvePoint point ++ rest) 2 =
      (point.map (·.resistanceMilliohms)).getD calibrationNoneWireValue := by
    rw [encodeHeaterCurvePoint, List.append_assoc, readU16_append_right (by simp), length_i16Le,
      Nat.sub_self, readU16_u16Le]
  simp only [decodeHeaterCurvePoint, Nat.zero_add, hresistance]
  rw [encodeHeaterCurvePoint, List.append_assoc, readI16_i16Le]
  cases point <;> simp [storedHeaterCurvePoint]

theorem decodeHeaterCurve_encode (config : HeaterCurveConfig) :
    decodeHeaterCurve (encodeHeaterCurve config) =
      { points := config.points.map storedHeaterCurvePoint } := by
  have hpoints := ofFn_decode_eq_map _ _ decodeHeaterCurvePoint_drop length_encodeHeaterCurvePoint
    decodeHeaterCurvePoint_encode config.points [] 0 rfl []
  simp only [List.nil_append, Nat.zero_add, List.append_nil] at hpoints
  rw [decodeHeaterCurve, encodeHeaterCurve, hpoints]

theorem storedHeaterCurve_eq_self_iff {config : HeaterCurveConfig} :
    ({ points := config.points.map storedHeaterCurvePoint } : HeaterCurveConfig) = config ↔
      ∀ point ∈ present config.points, HeaterCurvePointStorable point := by
  have hslots := map_slots_eq_self_iff storedHeaterCurvePoint rfl config.points
  have hpoint : ∀ point, storedHeaterCurvePoint (some point) = some point ↔
      HeaterCurvePointStorable point := by
    intro point
    simp [storedHeaterCurvePoint, HeaterCurvePointStorable]
  simp only [hpoint] at hslots
  obtain ⟨points⟩ := config
  rw [HeaterCurveConfig.mk.injEq]
  exact hslots

@[simp] theorem length_encodeRawObservation : (encodeRawObservation point).length = 8 := by
  cases point <;> simp [encodeRawObservation]

theorem length_encodeHeaterCurveRawObservations (config : HeaterCurveRawObservations) :
    (encodeHeaterCurveRawObservations config).length = heaterCurveRawObservationsPayloadLen := by
  rw [encodeHeaterCurveRawObservations, length_flatMap_chunk length_encodeRawObservation,
    Vector.length_toList]

def storedRawObservation : Option HeaterCurveRawObservation :=
  point.filter fun point => point.rawRtdAdcMv ≠ 65535

theorem decodeRawObservation_drop :
    decodeRawObservation bytes cursor = decodeRawObservation (bytes.drop cursor) 0 := by
  simp only [decodeRawObservation, readU16_drop, Nat.add_zero, Nat.zero_add]

theorem decodeRawObservation_encode (rest : List UInt8) :
    decodeRawObservation (encodeRawObservation point ++ rest) 0 = storedRawObservation point := by
  cases point with
  | none =>
    have hword := (readU16_words 65535 65535 65535 65535 rest).1
    simp only [encodeRawObservation, List.append_assoc, decodeRawObservation, hword, if_true]
    rfl
  | some point =>
    obtain ⟨h0, h2, h4, h6⟩ := readU16_words point.rawRtdAdcMv point.heaterVoltageMv
      point.heaterCurrentMa point.resistanceMilliohms rest
    simp only [encodeRawObservation, List.append_assoc, decodeRawObservation, Nat.zero_add,
      h0, h2, h4, h6, storedRawObservation, Option.filter]
    by_cases hmarked : point.rawRtdAdcMv = 65535 <;> simp [hmarked]

theorem decodeHeaterCurveRawObservations_encode (config : HeaterCurveRawObservations) :
    decodeHeaterCurveRawObservations (encodeHeaterCurveRawObservations config) =
      { points := config.points.map storedRawObservation } := by
  have hpoints := ofFn_decode_eq_map _ _ decodeRawObservation_drop length_encodeRawObservation
    decodeRawObservation_encode config.points [] 0 rfl []
  simp only [List.nil_append, Nat.zero_add, List.append_nil] at hpoints
  rw [decodeHeaterCurveRawObservations, encodeHeaterCurveRawObservations, hpoints]

theorem storedRawObservations_eq_self_iff {config : HeaterCurveRawObservations} :
    ({ points := config.points.map storedRawObservation } : HeaterCurveRawObservations) =
      config ↔ ∀ point ∈ present config.points, point.rawRtdAdcMv ≠ 65535 := by
  have hslots := map_slots_eq_self_iff storedRawObservation rfl config.points
  have hpoint : ∀ point, storedRawObservation (some point) = some point ↔
      point.rawRtdAdcMv ≠ 65535 := by
    intro point
    simp [storedRawObservation]
  simp only [hpoint] at hslots
  obtain ⟨points⟩ := config
  rw [HeaterCurveRawObservations.mk.injEq]
  exact hslots

/-! ## Presets and network values -/

@[simp] theorem length_encodePreset (preset : Option Int16) : (encodePreset preset).length = 2 :=
  length_i16Le _

/-- A clamped temperature is never the mark of an absent preset. -/
theorem decodePresetWireValue_encode (preset : Option Int16) :
    decodePresetWireValue ((preset.map clampTempC).getD presetNoneWireValue) =
      preset.map clampTempC := by
  cases preset with
  | none => rfl
  | some temp =>
    have hmarked : clampTempC temp ≠ presetNoneWireValue := by grind [clampTempC]
    rw [Option.map_some, Option.getD_some, decodePresetWireValue, if_neg hmarked]

theorem decodePresets_encode (presets : Vector (Option Int16) frontpanelPresetCount) :
    decodePresets (presets.toList.flatMap encodePreset) = presets.map (Option.map clampTempC) := by
  have hdrop : ∀ (bytes : List UInt8) (cursor : ℕ),
      decodePresetWireValue (readI16 bytes cursor) =
        decodePresetWireValue (readI16 (bytes.drop cursor) 0) := by
    intro bytes cursor
    rw [readI16_drop_zero]
  have hitem : ∀ (preset : Option Int16) (rest : List UInt8),
      decodePresetWireValue (readI16 (encodePreset preset ++ rest) 0) =
        preset.map clampTempC := by
    intro preset rest
    rw [encodePreset, readI16_i16Le, decodePresetWireValue_encode]
  have hpresets := ofFn_decode_eq_map
    (fun bytes cursor => decodePresetWireValue (readI16 bytes cursor)) _ hdrop
    length_encodePreset hitem presets [] 0 rfl []
  simp only [List.nil_append, Nat.zero_add, List.append_nil] at hpresets
  exact hpresets

theorem readArray_append {n : ℕ} (left : List UInt8) (start : ℕ) (hleft : left.length = start)
    (array : Vector UInt8 n) (right : List UInt8) :
    readArray (left ++ (array.toList ++ right)) start n = array := by
  apply Vector.ext
  intro index hindex
  rw [readArray, Vector.getElem_ofFn, byteAt, List.getD_append_right _ _ _ _ (by omega), hleft,
    Nat.add_sub_cancel_left, List.getD_append _ _ _ _ (by simpa using hindex),
    List.getD_eq_getElem _ _ (by simpa using hindex), Vector.getElem_toList]

theorem length_encodeStaticIpv4 (config : WifiStaticIpv4Config) :
    (encodeStaticIpv4 config).length = 13 := by
  simp [encodeStaticIpv4]

theorem decodeStaticIpv4_encode (config : WifiStaticIpv4Config) :
    decodeStaticIpv4 (encodeStaticIpv4 config) = config := by
  obtain ⟨address, prefixLen, gateway, dns⟩ := config
  have haddress := readArray_append [] 0 rfl address
    (prefixLen :: (gateway.toList ++ dns.toList))
  have hprefix : byteAt (address.toList ++ (prefixLen :: (gateway.toList ++ dns.toList))) 4 =
      prefixLen := by
    rw [byteAt, List.getD_append_right _ _ _ _ (by simp), Vector.length_toList]
    rfl
  have hgateway := readArray_append (address.toList ++ [prefixLen]) 5 (by simp)
    gateway dns.toList
  have hdns := readArray_append (address.toList ++ (prefixLen :: gateway.toList)) 9 (by simp) dns []
  simp only [List.append_assoc, List.cons_append, List.nil_append, List.append_nil]
    at haddress hgateway hdns
  simp only [decodeStaticIpv4, encodeStaticIpv4, haddress, hprefix, hgateway, hdns]

theorem decodePostHeatCoolingMode_encode (mode : PostHeatCoolingMode) :
    decodePostHeatCoolingMode (encodePostHeatCoolingMode mode) = mode := by
  cases mode <;> rfl

theorem decodeHeatingFanGuardMode_encode (mode : HeatingFanGuardMode) :
    decodeHeatingFanGuardMode (encodeHeatingFanGuardMode mode) = mode := by
  cases mode <;> rfl

end FluxPurr.Memory
