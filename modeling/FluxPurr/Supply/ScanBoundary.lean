import FluxPurr.Supply.BoundaryCodec
import FluxPurr.Supply.ScanEnvelope

/-!
# A completed scan can be stored

The points of a completed scan pass `IsValid`: each was retained at an operational request or
by a terminal probe (`SupplyBoundary.Records`), from a sample that passed the checks of
`update`.  The exception is a scan whose terminal probe timed out: it goes on at the current
of the probe, and an observation at that current is refused when the boundary is stored
(`late_probe_is_not_storable`).
-/

namespace FluxPurr.Supply

open SupplyBoundary Runs

/-- The conditions of `IsValid` on the header, with voltages on the grid of the requests. -/
structure StorableHeader (boundary : SupplyBoundary) : Prop where
  dividerSupply : 3000 ≤ boundary.adc.dividerSupplyMv ∧ boundary.adc.dividerSupplyMv ≤ 3600
  sourceMin : 5500 ≤ boundary.sourceMinMv
  sourceMax : boundary.sourceMaxMv ≤ 21000
  sourceRange : boundary.sourceMinMv ≤ boundary.sourceMaxMv
  advertisedMinPos : 0 < boundary.advertisedMinMv
  advertisedMin : boundary.advertisedMinMv ≤ boundary.sourceMinMv
  advertisedMax : boundary.sourceMaxMv ≤ boundary.advertisedMaxMv
  sourceMaxMa : boundary.sourceMaxMa = 3000
  powerLimit : boundary.sourcePowerLimitMw = 0 ∨
    (16500 ≤ boundary.sourcePowerLimitMw ∧ boundary.sourcePowerLimitMw ≤ 105000) ∧
      boundary.sourcePowerLimitMw % 10 = 0
  leastStep : boundary.sourceMinMv % 100 = 0
  mostStep : boundary.sourceMaxMv % 100 = 0
  power : boundary.sourcePowerLimitMw = 0 ∨
    boundary.sourceMaxMv.toNat * 3000 ≤ boundary.sourcePowerLimitMw.toNat * 1000

/-- The clock ticks in steps of 50 ms for at most seven hours, and the readings are those of a
12-bit converter. -/
@[mk_iff]
structure AdcSample (input : ScanInput) : Prop where
  clockStep : input.nowMs % 50 = 0
  clock : input.nowMs < 50 * 524288
  rtdMv : input.rtdMv ≤ 4095
  vinMv : input.vinMv ≤ 4095

instance (input : ScanInput) : Decidable (AdcSample input) :=
  decidable_of_iff _ (adcSample_iff input).symm

/-- The part of `PointValid` that is about the sample. -/
structure ReadingValid (reading : Reading) : Prop where
  rtdCode : reading.rtdCode ≤ 4095
  vinCode : reading.vinCode ≤ 4095
  rtdMvPos : 0 < reading.rtdMv
  vinMvPos : 0 < reading.vinMv
  rtdMv : reading.rtdMv ≤ 4095
  vinMv : reading.vinMv ≤ 4095
  elapsed : reading.elapsedMs / 50 < 524288
  elapsedStep : reading.elapsedMs % 50 = 0

theorem readingValid_of_sample {input : ScanInput} (h : AdcSample input)
    (hvalid : SupplyScan.sampleIsInvalid input = false) : ReadingValid input.reading := by
  simp only [SupplyScan.sampleIsInvalid, Bool.or_eq_false_iff, beq_eq_false_iff_ne,
    decide_eq_false_iff_not, UInt16.not_lt] at hvalid
  obtain ⟨⟨⟨hrtd, hvin⟩, hrtdCode⟩, hvinCode⟩ := hvalid
  have hclock : input.nowMs / 50 < 524288 := by
    have hlt := UInt32.lt_iff_toNat_lt.mp h.clock
    rw [UInt32.lt_iff_toNat_lt, UInt32.toNat_div]
    exact Nat.div_lt_of_lt_mul hlt
  exact
    { h with
      rtdCode := hrtdCode
      vinCode := hvinCode
      rtdMvPos := UInt16.pos_iff_ne_zero.mpr hrtd
      vinMvPos := UInt16.pos_iff_ne_zero.mpr hvin
      elapsed := hclock
      elapsedStep := h.clockStep }

namespace SupplyBoundary

variable {boundary : SupplyBoundary} {point : BoundaryPoint}

theorem step_of_toNat {value : UInt16} (h : value.toNat % 100 = 0) : value % 100 = 0 := by
  rw [← UInt16.toNat_inj, UInt16.toNat_mod]
  exact h

theorem OperationalPoint.pointValid (h : boundary.OperationalPoint point)
    (hreading : ReadingValid point.reading) : boundary.PointValid point := by
  have hflat : point.flatRequestMv = 0 ∨ point.trackingRequestMv < point.flatRequestMv ∧
      point.flatRequestMv ≤ boundary.sourceMaxMv := by
    rcases h.flat with hzero | ⟨habove, hmost⟩
    · exact .inl (UInt16.toNat_inj.mp hzero)
    · exact .inr ⟨UInt16.lt_iff_toNat_lt.mpr habove, UInt16.le_iff_toNat_le.mpr hmost⟩
  have hcurrent : point.trackingOnly = false ∨ point.requestCurrentMa = 3000 := by
    cases htracking : point.trackingOnly with
    | false => exact .inl rfl
    | true => exact .inr (h.trackingCurrent htracking)
  exact
    { hreading with
      voltage := .inr ⟨⟨⟨UInt16.le_iff_toNat_le.mpr h.currentLeast,
        UInt16.le_iff_toNat_le.mpr h.currentMost⟩, step_of_toNat h.currentStep⟩,
        UInt16.le_iff_toNat_le.mpr h.least, UInt16.le_iff_toNat_le.mpr h.most⟩
      trackingStep := step_of_toNat h.step
      flat := hflat
      trackingCurrent := hcurrent.imp_right .inl }

theorem TerminalPoint.pointValid (h : boundary.TerminalPoint point)
    (hreading : ReadingValid point.reading) : boundary.PointValid point :=
  { hreading with
    voltage := .inl h.terminal
    trackingStep := step_of_toNat h.step
    flat := .inl h.flat
    trackingCurrent := .inr (.inr h.terminal) }

theorem Records.pointValid (h : boundary.Records ReadingValid)
    (hpoint : point ∈ boundary.recorded) : boundary.PointValid point := by
  obtain ⟨hretained, hreading⟩ := h.retained point hpoint
  rcases hretained with hoperational | hterminal
  · exact hoperational.pointValid hreading
  · exact hterminal.pointValid hreading

end SupplyBoundary

theorem StorableHeader.isValid {source boundary : SupplyBoundary} (hheader : StorableHeader source)
    (hsame : source.SameHeader boundary) (hrecords : boundary.Records ReadingValid)
    (hpoints : 1 ≤ boundary.pointCount) : boundary.IsValid := by
  have hcount : boundary.pointCount ≤ 41 := UInt8.le_iff_toNat_le.mpr hrecords.pointCount
  have hvalid : ∀ point ∈ boundary.recorded, boundary.PointValid point :=
    fun point hpoint => hrecords.pointValid hpoint
  obtain ⟨_, _, _, rfl⟩ := hsame
  exact
    { hheader with
      pointCountPos := hpoints
      pointCountLe := hcount
      points := hvalid }

namespace SupplyScan

theorem scanHeader_of_storable {boundary : SupplyBoundary} {mode : ScanMode} {start : SupplyScan}
    (h : StorableHeader boundary) (hnew : newWithMode boundary mode = some start) :
    ScanHeader boundary := by
  have hrange : boundary.sourceMinMv < boundary.sourceMaxMv := by
    unfold newWithMode at hnew
    split at hnew
    · cases hnew
    case isFalse hguard =>
      obtain ⟨_, hrest⟩ := not_or.mp hguard
      exact UInt16.not_le.mp (not_or.mp hrest).1
  exact
    { range := hrange
      most := h.sourceMax
      leastStep := h.leastStep
      mostStep := h.mostStep
      current := h.sourceMaxMa
      advertised := h.advertisedMax
      power := h.power }

/-- In both modes, and whatever the order of the samples, as long as no terminal probe times
out. -/
theorem completed_scan_is_storable {boundary : SupplyBoundary} {mode : ScanMode}
    {start scan : SupplyScan} {inputs : List ScanInput} (hheader : StorableHeader boundary)
    (hnew : newWithMode boundary mode = some start)
    (hrun : Reaches (Sampled AdcSample) start inputs scan) :
    scan.phase = .complete → 1 ≤ scan.boundary.pointCount →
      scan.boundary.IsValid ∧ (encode scan.boundary boundaryMaxBytes).isSome = true := by
  intro _ hpoints
  have hcoherent : scan.Coherent ⟨ReadingValid, boundary, mode⟩ :=
    coherent_of_reaches (scanHeader_of_storable hheader hnew) hnew
      (fun _ hsample hvalid => readingValid_of_sample hsample hvalid) hrun
  have hvalid := hheader.isValid hcoherent.header hcoherent.records hpoints
  obtain ⟨_, _, hencode⟩ := encode_eq hvalid
  exact ⟨hvalid, by rw [hencode]; rfl⟩

/-- The probe stalls for fifteen minutes, and the plate cools meanwhile. -/
def samplesPastProbe : List ScanInput :=
  samplesToProbe ++
    [sampleAt 910000 2500 100 2000, sampleAt 911000 2500 100 2000, sampleAt 912000 22000 100 2000]

theorem storableHeader_narrowSource : StorableHeader narrowSource := by
  constructor <;> decide

/-- A step of a run of samples, with the side conditions in a form that evaluates. -/
theorem sampled_adc {scan : SupplyScan} {input : ScanInput}
    (htimeout : scan.stageTimedOut input = false) (hadc : AdcSample input) :
    Sampled AdcSample scan input (scan.update input) :=
  ⟨(sampled_update htimeout).1, hadc, rfl⟩

/-- A scan of the narrow source that the 220 °C cutoff ends before its probe. -/
def samplesToCutoff : List ScanInput :=
  [sampleAt 1000 2500 0 2000, sampleAt 2000 2500 0 2000, sampleAt 3000 2500 0 2000,
    sampleAt 4000 2500 100 2000, sampleAt 5000 22000 100 2000]

theorem completed_scan_is_storable_narrow :
    (samplesToCutoff.foldl update narrowStart).boundary.IsValid ∧
      (encode (samplesToCutoff.foldl update narrowStart).boundary boundaryMaxBytes).isSome = true :=
  completed_scan_is_storable storableHeader_narrowSource rfl
    (((((Reaches.refl.step (sampled_adc (by decide +kernel) (by decide))).step
      (sampled_adc (by decide +kernel) (by decide))).step
      (sampled_adc (by decide +kernel) (by decide))).step
      (sampled_adc (by decide +kernel) (by decide))).step
      (sampled_adc (by decide +kernel) (by decide)) : Reaches _ narrowStart samplesToCutoff _)
    (by decide +kernel) (by decide +kernel)

theorem late_probe_is_not_storable :
    ¬ ∀ (boundary : SupplyBoundary) (mode : ScanMode) (start : SupplyScan)
      (inputs : List ScanInput), StorableHeader boundary →
        newWithMode boundary mode = some start → (∀ input ∈ inputs, AdcSample input) →
        (inputs.foldl update start).phase = .complete →
        1 ≤ (inputs.foldl update start).boundary.pointCount →
        (inputs.foldl update start).boundary.IsValid := by
  intro h
  have hvalid := h narrowSource .rapid narrowStart samplesPastProbe storableHeader_narrowSource rfl
    (by decide) (by decide +kernel) (by decide +kernel)
  exact absurd hvalid (by decide +kernel)

end SupplyScan

end FluxPurr.Supply
