import FluxPurr.Arith.PiecewiseLinear
import FluxPurr.Memory.Config

/-!
# The mean of the delayed power

The fit of a thermal plant compares the plate with the power it got a transport delay before.
`transientMeanDelayedPowerMw` is the mean of that power over a window.  It looks up the first
segment of the trace that ends after the window has begun, and walks from there to its end.

Between two samples the power is a `Piece`: a line while the duty stays, for the voltage drifts
under a fixed request, and a step where the duty changes.  The mean is the exact integral of
all pieces (`meanDelayedPower_eq_integral`).  Single precision numbers are rationals here.
-/

namespace FluxPurr.Thermal

open FluxPurr.Arith FluxPurr.Memory
open Piece

/-! ## The walk -/

section

variable (samples : List ThermalPlantTransientSample) (powersMw : List ℚ) (index : ℕ)

def sampleAt : ThermalPlantTransientSample := samples.getD index {}

def tickAt : ℚ := (sampleAt samples index).elapsedTicks.toNat

def powerAt : ℚ := powersMw.getD index 0

/-- The first segment from `first` on, and before `high`, whose end is after `start`. -/
def firstOverlap (start : ℚ) (first high : ℕ) : ℕ :=
  if first < high then
    let middle := first + (high - first) / 2
    if tickAt samples middle ≤ start then firstOverlap start (middle + 1) high
    else firstOverlap start first middle
  else first
termination_by high - first

/-- The mean power of the segment that ends at `index`, over a part of it. -/
def overlapPowerMw (overlapStart overlapEnd : ℚ) : ℚ :=
  let before := sampleAt samples (index - 1)
  let after := sampleAt samples index
  let left := tickAt samples (index - 1)
  let right := tickAt samples index
  if before.dutyPercent = after.dutyPercent then
    -- the voltage drifts under a fixed request
    let meanFraction := ((overlapStart + overlapEnd) * (1 / 2) - left) / (right - left)
    powerAt powersMw (index - 1) +
      (powerAt powersMw index - powerAt powersMw (index - 1)) * meanFraction
  else if before.dutyPercent = 0 ∧ 0 < after.dutyPercent then powerAt powersMw index
  else powerAt powersMw (index - 1)

/-- The walk over the segments that end at these samples. -/
def addSegments (start stop : ℚ) : List ℕ → ℚ → Option ℚ
  | [], energy => some energy
  | index :: rest, energy =>
      let left := tickAt samples (index - 1)
      let right := tickAt samples index
      if right ≤ left then none
      else if stop ≤ left then some energy
      else
        let overlapStart := max start left
        let overlapEnd := min stop right
        if overlapEnd ≤ overlapStart then addSegments start stop rest energy
        else
          addSegments start stop rest
            (energy + overlapPowerMw samples powersMw index overlapStart overlapEnd *
              (overlapEnd - overlapStart))

def transientMeanDelayedPowerMw (startTicks endTicks : ℚ) (delayTicks : UInt16) : Option ℚ :=
  if endTicks ≤ startTicks ∨ samples.length ≠ powersMw.length then none
  else
    let start := startTicks - delayTicks.toNat
    let stop := endTicks - delayTicks.toNat
    let first := firstOverlap samples start 1 samples.length
    (addSegments samples powersMw start stop (List.range' first (samples.length - first)) 0).map
      fun energy => energy / (endTicks - startTicks)

/-! ## The power between the samples -/

/-- The power over the segment that ends at a sample.  A rising edge from zero belongs to the
power it leads to. -/
def segment : Piece ℚ where
  left := tickAt samples (index - 1)
  right := tickAt samples index
  atLeft :=
    if (sampleAt samples (index - 1)).dutyPercent = 0 ∧
        0 < (sampleAt samples index).dutyPercent then powerAt powersMw index
    else powerAt powersMw (index - 1)
  atRight :=
    if (sampleAt samples (index - 1)).dutyPercent = (sampleAt samples index).dutyPercent ∨
        (sampleAt samples (index - 1)).dutyPercent = 0 ∧
          0 < (sampleAt samples index).dutyPercent then powerAt powersMw index
    else powerAt powersMw (index - 1)

/-- The segments that end at the samples after the first one. -/
def segments : List (Piece ℚ) := (List.range' 1 (samples.length - 1)).map (segment samples powersMw)

/-- The power that reaches the plate at a time, a transport delay after it was drawn. -/
noncomputable def delayedPowerMw (delayTicks : UInt16) (ticks : ℝ) : ℝ :=
  sumOf ((segments samples powersMw).map toReal) (ticks - delayTicks.toNat)

end

/-- The ticks of a trace increase. -/
def Increasing (samples : List ThermalPlantTransientSample) : Prop :=
  samples.Pairwise fun earlier later => earlier.elapsedTicks < later.elapsedTicks

variable {samples : List ThermalPlantTransientSample} {powersMw : List ℚ}

/-! ## The search -/

theorem tickAt_lt (h : Increasing samples) {earlier later : ℕ} (hlt : earlier < later)
    (hlater : later < samples.length) : tickAt samples earlier < tickAt samples later := by
  have hearlier : earlier < samples.length := hlt.trans hlater
  unfold tickAt sampleAt
  rw [List.getD_eq_getElem _ _ hearlier, List.getD_eq_getElem _ _ hlater]
  exact Nat.cast_lt.mpr
    (UInt32.lt_iff_toNat_lt.mp (List.pairwise_iff_getElem.mp h _ _ hearlier hlater hlt))

theorem tickAt_le (h : Increasing samples) {earlier later : ℕ} (hle : earlier ≤ later)
    (hlater : later < samples.length) : tickAt samples earlier ≤ tickAt samples later := by
  rcases hle.eq_or_lt with rfl | hlt
  · exact le_rfl
  · exact (tickAt_lt h hlt hlater).le

/-- The segments before the result have ended when the window begins. -/
theorem firstOverlap_spec (h : Increasing samples) (start : ℚ) (first high : ℕ)
    (hle : first ≤ high) (hhigh : high ≤ samples.length) :
    first ≤ firstOverlap samples start first high ∧
      firstOverlap samples start first high ≤ high ∧
      ∀ index, first ≤ index → index < firstOverlap samples start first high →
        tickAt samples index ≤ start := by
  induction first, high using firstOverlap.induct samples start with
  | case1 first high hlt middle hearly ih =>
    have hmiddle : middle < high := by omega
    obtain ⟨hfirst, hlast, hbefore⟩ := ih (by omega) hhigh
    have hnext : firstOverlap samples start first high =
        firstOverlap samples start (middle + 1) high := by
      rw [firstOverlap, if_pos hlt]
      exact if_pos hearly
    rw [hnext]
    refine ⟨by omega, hlast, fun index hindex hindex' => ?_⟩
    rcases Nat.lt_or_ge middle index with hafter | hbefore'
    · exact hbefore index hafter hindex'
    · exact (tickAt_le h hbefore' (by omega)).trans hearly
  | case2 first high hlt middle hlate ih =>
    obtain ⟨hfirst, hlast, hbefore⟩ := ih (by omega) (by omega)
    have hnext : firstOverlap samples start first high =
        firstOverlap samples start first middle := by
      rw [firstOverlap, if_pos hlt]
      exact if_neg hlate
    rw [hnext]
    exact ⟨hfirst, by omega, hbefore⟩
  | case3 first high hend =>
    rw [firstOverlap, if_neg hend]
    exact ⟨le_rfl, hle, fun index hindex hindex' => by omega⟩

/-! ## The walk is the sum over all segments -/

/-- The power of an overlap is the value of the piece in its middle. -/
theorem overlapPowerMw_eq (index : ℕ) (overlapStart overlapEnd : ℚ) :
    overlapPowerMw samples powersMw index overlapStart overlapEnd =
      (segment samples powersMw index).valueAt ((overlapStart + overlapEnd) / 2) := by
  unfold overlapPowerMw valueAt segment
  dsimp only
  by_cases hsame : (sampleAt samples (index - 1)).dutyPercent =
      (sampleAt samples index).dutyPercent
  · have hnot : ¬((sampleAt samples (index - 1)).dutyPercent = 0 ∧
        0 < (sampleAt samples index).dutyPercent) := by
      rintro ⟨hzero, hpositive⟩
      rw [← hsame, hzero] at hpositive
      exact absurd hpositive (by decide)
    rw [if_pos hsame, if_neg hnot, if_pos (.inl hsame)]
    ring
  · rw [if_neg hsame]
    by_cases hrising : (sampleAt samples (index - 1)).dutyPercent = 0 ∧
        0 < (sampleAt samples index).dutyPercent
    · rw [if_pos hrising, if_pos (.inr hrising)]
      ring
    · rw [if_neg hrising, if_neg (not_or.mpr ⟨hsame, hrising⟩)]
      ring

/-- The areas of these segments within the window. -/
def areasWithin (samples : List ThermalPlantTransientSample) (powersMw : List ℚ)
    (start stop : ℚ) (indices : List ℕ) : ℚ :=
  (indices.map fun index => (segment samples powersMw index).areaWithin start stop).sum

theorem areasWithin_eq_zero {start stop : ℚ} {indices : List ℕ}
    (h : ∀ index ∈ indices, (segment samples powersMw index).areaWithin start stop = 0) :
    areasWithin samples powersMw start stop indices = 0 := by
  unfold areasWithin
  apply List.sum_eq_zero
  intro area harea
  obtain ⟨index, hindex, rfl⟩ := List.mem_map.mp harea
  exact h index hindex

/-- The walk adds up the areas of its segments, also where it stops early. -/
theorem addSegments_eq (h : Increasing samples) (start stop : ℚ) (first count : ℕ)
    (hfirst : 1 ≤ first) (hcount : first + count ≤ samples.length) (energy : ℚ) :
    addSegments samples powersMw start stop (List.range' first count) energy =
      some (energy + areasWithin samples powersMw start stop (List.range' first count)) := by
  induction count generalizing first energy with
  | zero => exact congrArg some (add_zero energy).symm
  | succ count ih =>
    have hincreases : tickAt samples (first - 1) < tickAt samples first :=
      tickAt_lt h (by omega) (by omega)
    have harea : areasWithin samples powersMw start stop (List.range' first (count + 1)) =
        (segment samples powersMw first).areaWithin start stop +
          areasWithin samples powersMw start stop (List.range' (first + 1) count) := by
      unfold areasWithin
      rw [List.range'_succ, List.map_cons, List.sum_cons]
    rw [harea, List.range'_succ]
    unfold addSegments
    dsimp only
    rw [if_neg (not_le.mpr hincreases)]
    by_cases hend : stop ≤ tickAt samples (first - 1)
    · -- the window has ended, and no later segment reaches into it
      have hrest : areasWithin samples powersMw start stop
          (List.range' (first + 1) count) = 0 := by
        refine areasWithin_eq_zero fun index hindex => ?_
        obtain ⟨hlow, hhigh⟩ := List.mem_range'_1.mp hindex
        exact areaWithin_of_le_left (hend.trans (tickAt_le h (by omega) (by omega)))
      have hfirstArea : (segment samples powersMw first).areaWithin start stop = 0 :=
        areaWithin_of_le_left hend
      rw [if_pos hend, hfirstArea, hrest, add_zero, add_zero]
    · rw [if_neg hend]
      by_cases hempty : min stop (tickAt samples first) ≤ max start (tickAt samples (first - 1))
      · have hfirstArea : (segment samples powersMw first).areaWithin start stop = 0 :=
          if_pos hempty
        rw [if_pos hempty, ih (first + 1) (by omega) (by omega), hfirstArea, zero_add]
      · have hfirstArea : (segment samples powersMw first).areaWithin start stop =
            (segment samples powersMw first).valueAt
              ((max start (tickAt samples (first - 1)) + min stop (tickAt samples first)) / 2) *
              (min stop (tickAt samples first) - max start (tickAt samples (first - 1))) :=
          if_neg hempty
        rw [if_neg hempty, ih (first + 1) (by omega) (by omega), overlapPowerMw_eq, hfirstArea,
          add_assoc]

/-- The mean is the area of all segments over the length of the window. -/
theorem transientMeanDelayedPowerMw_eq (h : Increasing samples)
    (hlengths : samples.length = powersMw.length) {startTicks endTicks : ℚ}
    (hwindow : startTicks < endTicks) (delayTicks : UInt16) :
    transientMeanDelayedPowerMw samples powersMw startTicks endTicks delayTicks =
      some (areasWithin samples powersMw (startTicks - delayTicks.toNat)
        (endTicks - delayTicks.toNat) (List.range' 1 (samples.length - 1)) /
          (endTicks - startTicks)) := by
  unfold transientMeanDelayedPowerMw
  rw [if_neg (not_or.mpr ⟨not_le.mpr hwindow, not_not.mpr hlengths⟩)]
  dsimp only
  generalize startTicks - (delayTicks.toNat : ℚ) = start
  generalize endTicks - (delayTicks.toNat : ℚ) = stop
  rcases Nat.eq_zero_or_pos samples.length with hempty | hpositive
  · rw [hempty, firstOverlap, if_neg (by omega)]
    rfl
  · obtain ⟨hfirst, hlast, hbefore⟩ := firstOverlap_spec h start 1 samples.length hpositive le_rfl
    generalize firstOverlap samples start 1 samples.length = first at hfirst hlast hbefore
    rw [addSegments_eq h start stop first _ hfirst (by omega), Option.map_some, zero_add]
    have hsplit : List.range' 1 (samples.length - 1) =
        List.range' 1 (first - 1) ++ List.range' first (samples.length - first) := by
      have hsum : samples.length - 1 = (first - 1) + (samples.length - first) := by omega
      have hnext : 1 + (first - 1) = first := by omega
      rw [hsum, ← List.range'_append_1, hnext]
    have hskipped : areasWithin samples powersMw start stop (List.range' 1 (first - 1)) = 0 := by
      refine areasWithin_eq_zero fun index hindex => ?_
      obtain ⟨hlow, hhigh⟩ := List.mem_range'_1.mp hindex
      exact areaWithin_of_right_le (hbefore index hlow (by omega))
    have hall : areasWithin samples powersMw start stop (List.range' 1 (samples.length - 1)) =
        areasWithin samples powersMw start stop (List.range' first (samples.length - first)) := by
      rw [hsplit]
      unfold areasWithin at hskipped ⊢
      rw [List.map_append, List.sum_append, hskipped, zero_add]
    rw [hall]

/-! ## The exact integral -/

theorem intervalIntegrable_delayedPowerMw (samples : List ThermalPlantTransientSample)
    (powersMw : List ℚ) (delayTicks : UInt16) (start stop : ℝ) :
    IntervalIntegrable (delayedPowerMw samples powersMw delayTicks) MeasureTheory.volume start
      stop := by
  have hpieces := intervalIntegrable_sumOf ((segments samples powersMw).map toReal)
    (start - delayTicks.toNat) (stop - delayTicks.toNat)
  have hshifted := hpieces.comp_sub_right (delayTicks.toNat : ℝ)
  rw [sub_add_cancel, sub_add_cancel] at hshifted
  exact hshifted

theorem integral_delayedPowerMw (delayTicks : UInt16) {startTicks endTicks : ℚ}
    (hwindow : startTicks ≤ endTicks) :
    ∫ ticks in (startTicks : ℝ)..endTicks, delayedPowerMw samples powersMw delayTicks ticks =
      (areasWithin samples powersMw (startTicks - delayTicks.toNat)
        (endTicks - delayTicks.toNat) (List.range' 1 (samples.length - 1)) : ℝ) := by
  have hle : (startTicks : ℝ) - delayTicks.toNat ≤ endTicks - delayTicks.toNat :=
    sub_le_sub_right (Rat.cast_le.mpr hwindow) _
  have hstart : (startTicks : ℝ) - delayTicks.toNat =
      ((startTicks - delayTicks.toNat : ℚ) : ℝ) := by push_cast; rfl
  have hend : (endTicks : ℝ) - delayTicks.toNat =
      ((endTicks - delayTicks.toNat : ℚ) : ℝ) := by push_cast; rfl
  calc ∫ ticks in (startTicks : ℝ)..endTicks, delayedPowerMw samples powersMw delayTicks ticks
      = ∫ ticks in (startTicks : ℝ) - delayTicks.toNat..endTicks - delayTicks.toNat,
          sumOf ((segments samples powersMw).map toReal) ticks :=
        intervalIntegral.integral_comp_sub_right _ _
    _ = (((segments samples powersMw).map toReal).map fun piece =>
          piece.areaWithin ((startTicks : ℝ) - delayTicks.toNat)
            (endTicks - delayTicks.toNat)).sum := integral_sumOf _ hle
    _ = _ := by
        unfold areasWithin segments
        rw [Rat.cast_list_sum, hstart, hend]
        simp only [List.map_map, Function.comp_def, areaWithin_toReal]

/-- The mean of a trace is the exact mean of its delayed power, and it is additive. -/
theorem meanDelayedPower_eq_integral (samples : List ThermalPlantTransientSample)
    (powersMw : List ℚ) (hincreasing : Increasing samples) (delayTicks : UInt16) :
    (∀ startTicks endTicks, endTicks ≤ startTicks ∨ samples.length ≠ powersMw.length →
      transientMeanDelayedPowerMw samples powersMw startTicks endTicks delayTicks = none) ∧
    (samples.length = powersMw.length → ∀ startTicks endTicks, startTicks < endTicks →
      ∃ mean, transientMeanDelayedPowerMw samples powersMw startTicks endTicks delayTicks =
          some mean ∧
        (mean : ℝ) = (∫ ticks in (startTicks : ℝ)..endTicks,
          delayedPowerMw samples powersMw delayTicks ticks) / (endTicks - startTicks)) ∧
    (samples.length = powersMw.length → ∀ a b c, a < b → b < c →
      ∃ whole front rest,
        transientMeanDelayedPowerMw samples powersMw a c delayTicks = some whole ∧
        transientMeanDelayedPowerMw samples powersMw a b delayTicks = some front ∧
        transientMeanDelayedPowerMw samples powersMw b c delayTicks = some rest ∧
        (c - a) * whole = (b - a) * front + (c - b) * rest) := by
  refine ⟨fun startTicks endTicks hnone => if_pos hnone, ?_, ?_⟩
  · intro hlengths startTicks endTicks hwindow
    refine ⟨_, transientMeanDelayedPowerMw_eq hincreasing hlengths hwindow delayTicks, ?_⟩
    rw [integral_delayedPowerMw delayTicks hwindow.le]
    push_cast
    rfl
  · intro hlengths a b c hab hbc
    refine ⟨_, _, _, transientMeanDelayedPowerMw_eq hincreasing hlengths (hab.trans hbc) delayTicks,
      transientMeanDelayedPowerMw_eq hincreasing hlengths hab delayTicks,
      transientMeanDelayedPowerMw_eq hincreasing hlengths hbc delayTicks, ?_⟩
    rw [mul_div_cancel₀ _ (sub_pos.mpr (hab.trans hbc)).ne',
      mul_div_cancel₀ _ (sub_pos.mpr hab).ne', mul_div_cancel₀ _ (sub_pos.mpr hbc).ne']
    -- the integral is additive, and so are the areas
    have hadjacent := intervalIntegral.integral_add_adjacent_intervals
      (intervalIntegrable_delayedPowerMw samples powersMw delayTicks (a : ℝ) b)
      (intervalIntegrable_delayedPowerMw samples powersMw delayTicks (b : ℝ) c)
    rw [integral_delayedPowerMw delayTicks hab.le, integral_delayedPowerMw delayTicks hbc.le,
      integral_delayedPowerMw delayTicks (hab.trans hbc).le, ← Rat.cast_add] at hadjacent
    exact (Rat.cast_injective hadjacent).symm

/-- Half a second at full duty, in which the power doubles. -/
def driftingSamples : List ThermalPlantTransientSample :=
  [{ elapsedTicks := 0, rawRtdAdcMv := 1000, heaterVoltage125mv := 96, dutyPercent := 100 },
    { elapsedTicks := 10, rawRtdAdcMv := 1000, heaterVoltage125mv := 160, dutyPercent := 100 }]

theorem meanDelayedPower_drifting :
    ∃ mean, transientMeanDelayedPowerMw driftingSamples [1000, 2000] 0 10 0 = some mean ∧
      (mean : ℝ) = (∫ ticks in ((0 : ℚ) : ℝ)..((10 : ℚ) : ℝ),
        delayedPowerMw driftingSamples [1000, 2000] 0 ticks) / (((10 : ℚ) : ℝ) - ((0 : ℚ) : ℝ)) :=
  (meanDelayedPower_eq_integral driftingSamples [1000, 2000] (by unfold Increasing; decide) 0).2.1
    rfl 0 10 (by decide)

/-- The mean of a power that is constant over every segment. -/
def stepMeanMw (samples : List ThermalPlantTransientSample) (constantsMw : ℕ → ℚ)
    (startTicks endTicks : ℚ) (delayTicks : UInt16) : ℚ :=
  ((List.range' 1 (samples.length - 1)).map fun index =>
    areaWithin
      ⟨tickAt samples (index - 1), tickAt samples index, constantsMw index, constantsMw index⟩
      (startTicks - delayTicks.toNat) (endTicks - delayTicks.toNat)).sum / (endTicks - startTicks)

theorem stepMeanMw_drifting (constantsMw : ℕ → ℚ) (startTicks endTicks : ℚ)
    (hstart : 0 ≤ startTicks) (hwindow : startTicks < endTicks) (hend : endTicks ≤ 10) :
    stepMeanMw driftingSamples constantsMw startTicks endTicks 0 = constantsMw 1 := by
  have hleft : tickAt driftingSamples (1 - 1) = 0 := by decide +kernel
  have hright : tickAt driftingSamples 1 = 10 := by decide +kernel
  have hsegments : List.range' 1 (driftingSamples.length - 1) = [1] := rfl
  have hdelay : ∀ ticks : ℚ, ticks - ((0 : UInt16).toNat : ℚ) = ticks := fun ticks => sub_zero ticks
  unfold stepMeanMw areaWithin valueAt
  rw [hsegments, List.map_singleton, List.sum_singleton, hleft, hright, hdelay, hdelay,
    max_eq_left hstart, min_eq_left hend, if_neg (not_le.mpr hwindow), sub_self, zero_mul, add_zero,
    mul_div_cancel_right₀ _ (sub_pos.mpr hwindow).ne']

/-- No constant power gives the means of both halves of a segment over which the voltage
drifts. -/
theorem not_mean_of_steps :
    ¬∀ (samples : List ThermalPlantTransientSample) (powersMw : List ℚ), Increasing samples →
      samples.length = powersMw.length →
        ∃ constantsMw : ℕ → ℚ, ∀ (delayTicks : UInt16) startTicks endTicks,
          startTicks < endTicks →
            transientMeanDelayedPowerMw samples powersMw startTicks endTicks delayTicks =
              some (stepMeanMw samples constantsMw startTicks endTicks delayTicks) := by
  intro h
  have hincreasing : Increasing driftingSamples := by
    unfold Increasing
    decide
  obtain ⟨constantsMw, hconstants⟩ := h driftingSamples [1000, 2000] hincreasing rfl
  have hfront := hconstants 0 0 5 (by decide)
  have hrest := hconstants 0 5 10 (by decide)
  rw [transientMeanDelayedPowerMw_eq hincreasing rfl (by decide) 0] at hfront hrest
  have hfrontArea : areasWithin driftingSamples [1000, 2000] (0 - (0 : UInt16).toNat)
      (5 - (0 : UInt16).toNat) (List.range' 1 (driftingSamples.length - 1)) = 6250 := by
    decide +kernel
  have hrestArea : areasWithin driftingSamples [1000, 2000] (5 - (0 : UInt16).toNat)
      (10 - (0 : UInt16).toNat) (List.range' 1 (driftingSamples.length - 1)) = 8750 := by
    decide +kernel
  have hfrontStep := stepMeanMw_drifting constantsMw 0 5 le_rfl (by decide) (by decide)
  have hrestStep := stepMeanMw_drifting constantsMw 5 10 (by decide) (by decide) le_rfl
  rw [hfrontArea, hfrontStep] at hfront
  rw [hrestArea, hrestStep, ← Option.some.inj hfront] at hrest
  exact absurd (Option.some.inj hrest) (by decide +kernel)

end FluxPurr.Thermal
