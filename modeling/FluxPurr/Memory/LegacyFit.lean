import FluxPurr.Memory.LegacyCodec

/-!
# Legacy fits and the comparison of calibrations

A legacy record holds calibration samples where a present one holds slot fits, and
migration fits the samples.  The fit uses the measured points of the samples only
(`legacyFits_congr`), so annotating samples with references and targets does not
change it.

Calibrations are compared as the language compares them, with slot fits as floating
point numbers (`SameAdc`).  After `sanitize` no fit holds a NaN, and whether a blank
fit was backfilled before is not visible (`SlotPair.same_sanitize_backfill`).
-/

namespace FluxPurr.Memory

open FluxPurr.Wire

/-! ## Parts of a calibration -/

abbrev SlotPair := AdcCalibrationSlots × AdcCalibrationSlots

namespace AdcCalibrationConfig

variable (config : AdcCalibrationConfig)

def samplePair : AdcSamples × AdcSamples := (config.rtd.samples, config.vin.samples)

def slotPair : SlotPair := (config.rtd.slots, config.vin.slots)

def activeSlotPair : AdcCalibrationSlotId × AdcCalibrationSlotId :=
  (config.rtd.activeSlot, config.vin.activeSlot)

/-- The samples that are there. -/
def presentPair : List AdcCalibrationSample × List AdcCalibrationSample :=
  (present config.rtd.samples, present config.vin.samples)

end AdcCalibrationConfig

/-- `==` of slot fits: equal as floating point numbers. -/
def AdcCalibrationSlotFit.Same (left right : AdcCalibrationSlotFit) : Prop :=
  left.gain.eq right.gain ∧ left.offsetMv.eq right.offsetMv

def SlotPair.Same (left right : SlotPair) : Prop :=
  (left.1.a.Same right.1.a ∧ left.1.b.Same right.1.b) ∧
    left.2.a.Same right.2.a ∧ left.2.b.Same right.2.b

def SlotPair.sanitize (slots : SlotPair) : SlotPair :=
  (sanitizeSlots slots.1, sanitizeSlots slots.2)

/-- `==` of calibrations. -/
def SameAdc (left right : AdcCalibrationConfig) : Prop :=
  left.samplePair = right.samplePair ∧ left.slotPair.Same right.slotPair ∧
    left.activeSlotPair = right.activeSlotPair

/-! ## Fits -/

def samplePoint (sample : AdcCalibrationSample) : UInt16 × UInt16 :=
  (sample.observedMv, sample.expectedMv)

/-- What a fit uses of the samples. -/
def samplePoints (samples : AdcSamples) : List (UInt16 × UInt16) :=
  (present samples).map samplePoint

def AdcCalibrationConfig.points (config : AdcCalibrationConfig) :
    List (UInt16 × UInt16) × List (UInt16 × UInt16) :=
  (samplePoints config.rtd.samples, samplePoints config.vin.samples)

theorem samplePoints_eq_reduceOption (samples : AdcSamples) :
    samplePoints samples = (samples.toList.map (Option.map samplePoint)).reduceOption := by
  rw [samplePoints, present, List.reduceOption_map]

theorem samplePoints_ofFn_map (samples : AdcSamples)
    (annotate : Fin adcCalibrationMaxSamples → AdcCalibrationSample → AdcCalibrationSample)
    (h : ∀ index sample, samplePoint (annotate index sample) = samplePoint sample) :
    samplePoints (Vector.ofFn fun index =>
        (getElem samples index index.isLt).map (annotate index)) =
      samplePoints samples := by
  rw [samplePoints_eq_reduceOption, samplePoints_eq_reduceOption]
  congr 1
  apply List.ext_getElem
  · simp
  · intro i hi _
    simp only [List.getElem_map, Vector.getElem_toList, Vector.getElem_ofFn, Option.map_map]
    congr 1
    funext sample
    exact h _ sample

theorem points_references (value : List UInt8) (config : AdcCalibrationConfig) :
    (decodeAdcCalibrationReferences value config).points = config.points :=
  Prod.ext
    (samplePoints_ofFn_map _ (fun index => withRtdReference (readI16 value (2 * index)))
      fun _ _ => rfl)
    (samplePoints_ofFn_map _
      (fun index => withVinReference (readI16 value (2 * adcCalibrationMaxSamples + 2 * index)))
      fun _ _ => rfl)

theorem points_targets (value : List UInt8) (config : AdcCalibrationConfig) :
    (decodeAdcCalibrationTargets value config).points = config.points :=
  Prod.ext
    (samplePoints_ofFn_map _ (fun index => withTarget (readU16 value (2 * index)))
      fun _ _ => rfl)
    rfl

/-- `accumulate_fit_point` on the point of a sample. -/
def accumulatePoint (sums : FitSums) (point : UInt16 × UInt16) : FitSums :=
  accumulateFitPoint sums { observedMv := point.1, expectedMv := point.2 }

theorem legacyFitChannel_eq_points (channel : AdcCalibrationChannelConfig)
    (defaults : List AdcCalibrationSample) :
    legacyFitChannel channel defaults =
      let points := samplePoints channel.samples
      let count := points.length + if points.length < 2 then 2 else 0
      if count < 2 then {}
      else fitLine (points.foldl accumulatePoint
        (if points.length < 2 then defaults.foldl accumulateFitPoint {} else {})) count := by
  have hlength : (samplePoints channel.samples).length = (present channel.samples).length :=
    List.length_map _
  have hfold : ∀ start : FitSums, (samplePoints channel.samples).foldl accumulatePoint start =
      (present channel.samples).foldl accumulateFitPoint start := by
    intro start
    rw [samplePoints, List.foldl_map]
    rfl
  simp only [legacyFitChannel, hlength, hfold]

theorem legacyFitChannel_congr {left right : AdcCalibrationChannelConfig}
    (h : samplePoints left.samples = samplePoints right.samples)
    (defaults : List AdcCalibrationSample) :
    legacyFitChannel left defaults = legacyFitChannel right defaults := by
  rw [legacyFitChannel_eq_points, legacyFitChannel_eq_points, h]

/-- The fits of both channels. -/
def legacyFits (config : AdcCalibrationConfig) : AdcCalibrationSlotFit × AdcCalibrationSlotFit :=
  (legacyFitChannel config.rtd (legacyDefaultPoints .rtd),
    legacyFitChannel config.vin (legacyDefaultPoints .vin))

theorem legacyFits_congr {left right : AdcCalibrationConfig} (h : left.points = right.points) :
    legacyFits left = legacyFits right := by
  have hrtd := congrArg Prod.fst h
  have hvin := congrArg Prod.snd h
  rw [legacyFits, legacyFits, legacyFitChannel_congr hrtd, legacyFitChannel_congr hvin]

/-- Slots made of fits for `A` and for `B`. -/
def slotsOfFits (a b : AdcCalibrationSlotFit × AdcCalibrationSlotFit) : SlotPair :=
  (⟨a.1, b.1⟩, ⟨a.2, b.2⟩)

/-- The slots a legacy element that comes alone leaves behind. -/
def migratedSlots (config : AdcCalibrationConfig) : SlotPair :=
  slotsOfFits (legacyFits config) ({}, {})

/-! ## Comparing sanitized slots -/

theorem eq_one_of_gain_isZero {gain : F32} (h : gain.isZero) (finite : Bool) :
    (if !finite || gain.isZero then F32.one else gain) = F32.one := by
  rw [h, Bool.or_true, if_pos rfl]

/-- A fit that backfilling replaces is sanitized to the same fit, up to the sign of a
zero offset. -/
theorem same_sanitize_backfillFit (left fit : AdcCalibrationSlotFit) :
    left.Same (sanitizeChannelSlotFit (backfillFit fit)) ↔
      left.Same (sanitizeChannelSlotFit fit) := by
  unfold backfillFit
  split_ifs with hblank
  · have hexponent : fit.offsetMv.exponentField = 0 := by
      have hzero := hblank.2
      simp only [F32.isZero, Bool.decide_and, Bool.and_eq_true, decide_eq_true_eq] at hzero
      exact hzero.1
    have hfinite : fit.offsetMv.isFinite = true := by simp [F32.isFinite, hexponent]
    have hnan : fit.offsetMv.isNan = false := by simp [F32.isNan, hexponent]
    have hgain : (sanitizeChannelSlotFit fit).gain = F32.one := eq_one_of_gain_isZero hblank.1 _
    have hoffset : (sanitizeChannelSlotFit fit).offsetMv = fit.offsetMv := by
      simp [sanitizeChannelSlotFit, hfinite]
    have hzeros : left.offsetMv.eq F32.zero = left.offsetMv.eq fit.offsetMv := by
      have hleft : ∀ zero : F32, zero.isZero = true → zero.isNan = false →
          left.offsetMv.eq zero = (!left.offsetMv.isNan && left.offsetMv.isZero) := by
        intro zero hzero hnumber
        by_cases heq : left.offsetMv = zero
        · simp [F32.eq, heq, hzero, hnumber]
        · simp [F32.eq, heq, hzero, hnumber]
      rw [hleft F32.zero (by decide) (by decide), hleft fit.offsetMv hblank.2 hnan]
    have hblankFit : sanitizeChannelSlotFit {} = {} := by decide
    rw [AdcCalibrationSlotFit.Same, AdcCalibrationSlotFit.Same, hgain, hoffset, hblankFit, ← hzeros]
  · exact Iff.rfl

theorem same_refl_of_finite {fit : AdcCalibrationSlotFit} (hgain : fit.gain.isFinite)
    (hoffset : fit.offsetMv.isFinite) : fit.Same fit := by
  have hnumber : ∀ value : F32, value.isFinite = true → value.eq value = true := by
    intro value hfinite
    have hnan : value.isNan = false := by
      simp only [F32.isFinite, ne_eq, decide_not, Bool.not_eq_true', decide_eq_false_iff_not]
        at hfinite
      simp [F32.isNan, hfinite]
    simp [F32.eq, hnan]
  exact ⟨hnumber _ hgain, hnumber _ hoffset⟩

theorem same_sanitize_self (fit : AdcCalibrationSlotFit) :
    (sanitizeChannelSlotFit fit).Same (sanitizeChannelSlotFit fit) := by
  apply same_refl_of_finite
  · unfold sanitizeChannelSlotFit
    by_cases h : (!fit.gain.isFinite || fit.gain.isZero) = true
    · simp only [h, if_true]
      decide
    · simp only [h]
      simp only [Bool.or_eq_true, Bool.not_eq_true', not_or, Bool.not_eq_false] at h
      exact h.1
  · unfold sanitizeChannelSlotFit
    by_cases h : fit.offsetMv.isFinite = true
    · simp [h]
    · simp only [h, Bool.not_false, if_true]
      decide

namespace SlotPair

theorem same_sanitize_self (slots : SlotPair) : slots.sanitize.Same slots.sanitize :=
  ⟨⟨Memory.same_sanitize_self _, Memory.same_sanitize_self _⟩,
    Memory.same_sanitize_self _, Memory.same_sanitize_self _⟩

theorem same_sanitize_backfill (left slots : SlotPair) :
    left.Same (sanitize (backfillSlots slots.1, backfillSlots slots.2)) ↔
      left.Same slots.sanitize :=
  and_congr
    (and_congr (same_sanitize_backfillFit left.1.a slots.1.a)
      (same_sanitize_backfillFit left.1.b slots.1.b))
    (and_congr (same_sanitize_backfillFit left.2.a slots.2.a)
      (same_sanitize_backfillFit left.2.b slots.2.b))

end SlotPair

end FluxPurr.Memory
