import FluxPurr.Arith.F32
import Mathlib.Data.List.Sort

/-!
# The thermal runtime of a mock device

A profile package gives control points for some target temperatures.  `mockThermalRuntime` is what
the controller would use at the current target: the control point for it, one interpolated
between its neighbours in single precision, or the default.
-/

namespace FluxPurr.Devd.Mock

/-! ## Profiles -/

/-- The values of a control point, beside its temperature. -/
structure MockThermalRuntimePointValues where
  brakeDistanceCentiC : UInt16
  warmupPowerPermille : UInt16
  approachPowerPermille : UInt16
  approachFloorPowerPermille : UInt16
  approachDampingExponentPermille : UInt16
  approachTailWindowCentiC : UInt16
  holdPowerPermille : UInt16
  holdReheatPowerPermille : UInt16
  warmupReenterCentiC : UInt16
  holdEntryCentiC : UInt16
  holdExitCentiC : UInt16
  holdOnCentiC : UInt16
  holdOffCentiC : UInt16
  overshootCutoffCentiC : UInt16
  holdKpPermillePerC : UInt16
  holdKiPermillePerCTick : UInt16
  holdBlendTicks : UInt16
  approachLeadTicks : UInt16
  holdLeadTicks : UInt16
deriving DecidableEq

/-- Also the candidate point of the mock, which has the same fields. -/
structure ThermalControlProfilePoint extends MockThermalRuntimePointValues where
  targetTempC : Int16
deriving DecidableEq

/-- Also the candidate settings of the mock. -/
structure ThermalControlProfileSettings where
  tempFilterAlphaPermille : UInt16
  warmupReenterCentiC : UInt16
  holdEntryCentiC : UInt16
  holdExitCentiC : UInt16
  holdOnCentiC : UInt16
  holdOffCentiC : UInt16
  overshootCutoffCentiC : UInt16
  approachMaxTicks : UInt16
  approachMinPowerRatioPermille : UInt16
  holdKpPermillePerC : UInt16
  holdKiPermillePerCTick : UInt16
  holdBlendTicks : UInt16
  holdReheatPowerPermille : UInt16
  approachLeadTicks : UInt16
  holdLeadTicks : UInt16
  autoAdjustableWorkingFloorMv : UInt16
  heaterCurrentReserveMa : UInt16
deriving DecidableEq

structure ThermalControlProfilePackage where
  settings : Option ThermalControlProfileSettings
  points : List (Option ThermalControlProfilePoint)
deriving DecidableEq

structure MockThermalCandidateProfile where
  settings : ThermalControlProfileSettings
  points : List ThermalControlProfilePoint

structure ThermalControlRuntime extends MockThermalRuntimePointValues where
  profileActive : Bool
  profileCoversTarget : Bool
  profileSource : String
  targetTempC : Int16
  tempFilterAlphaPermille : UInt16
  approachMaxTicks : UInt16
  approachMinPowerRatioPermille : UInt16
  autoAdjustableWorkingFloorMv : UInt16
  heaterCurrentReserveMa : UInt16
deriving DecidableEq

/-! ## Defaults -/

def mockThermalDefaultSettings : ThermalControlProfileSettings where
  tempFilterAlphaPermille := 750
  warmupReenterCentiC := 1000
  holdEntryCentiC := 20
  holdExitCentiC := 80
  holdOnCentiC := 15
  holdOffCentiC := 80
  overshootCutoffCentiC := 120
  approachMaxTicks := 250
  approachMinPowerRatioPermille := 500
  holdKpPermillePerC := 35
  holdKiPermillePerCTick := 1
  holdBlendTicks := 12
  holdReheatPowerPermille := 0
  approachLeadTicks := 0
  holdLeadTicks := 0
  autoAdjustableWorkingFloorMv := 5000
  heaterCurrentReserveMa := 200

/-- The 17 values in the order of the source; the tail window and the warm-up threshold are the
same for every target. -/
def defaultPointValues (brake warmup approach approachFloor damping hold reheat entry exit on off
    cutoff kp ki blend approachLead holdLead : UInt16) : MockThermalRuntimePointValues where
  brakeDistanceCentiC := brake
  warmupPowerPermille := warmup
  approachPowerPermille := approach
  approachFloorPowerPermille := approachFloor
  approachDampingExponentPermille := damping
  approachTailWindowCentiC := 0
  holdPowerPermille := hold
  holdReheatPowerPermille := reheat
  warmupReenterCentiC := 1000
  holdEntryCentiC := entry
  holdExitCentiC := exit
  holdOnCentiC := on
  holdOffCentiC := off
  overshootCutoffCentiC := cutoff
  holdKpPermillePerC := kp
  holdKiPermillePerCTick := ki
  holdBlendTicks := blend
  approachLeadTicks := approachLead
  holdLeadTicks := holdLead

def mockThermalDefaultTargetValues (targetTempC : Int16) : MockThermalRuntimePointValues :=
  if targetTempC ≤ 60 then
    defaultPointValues 1310 1000 590 510 1320 60 60 200 540 30 120 150 8 2 1 4 2
  else if targetTempC ≤ 100 then
    defaultPointValues 1100 1000 420 220 1400 170 260 12 60 30 180 230 55 2 6 9 0
  else if targetTempC ≤ 140 then
    defaultPointValues 1000 1000 420 200 1000 280 340 10 55 30 160 220 22 1 1 4 0
  else if targetTempC ≤ 180 then
    defaultPointValues 650 1000 760 460 800 450 620 15 70 25 240 300 20 1 3 4 0
  else if targetTempC ≤ 220 then
    defaultPointValues 520 1000 760 600 550 620 700 8 50 14 240 320 22 1 2 2 0
  else
    defaultPointValues 500 1000 960 860 350 850 930 10 55 14 320 420 12 1 1 1 0

def thermalProfileAnchorTargetsC : List Int16 := [60, 100, 140, 180, 220, 250]

/-! ## From a package -/

variable (package : ThermalControlProfilePackage)

def thermalProfileTargets : List Int16 :=
  let explicit := package.points.reduceOption.map (·.targetTempC)
  if explicit = [] then thermalProfileAnchorTargetsC else explicit

def mockThermalPointFromPackage (targetTempC : Int16) : ThermalControlProfilePoint where
  toMockThermalRuntimePointValues :=
    match package.points.reduceOption.find? (·.targetTempC = targetTempC) with
    | some point => point.toMockThermalRuntimePointValues
    | none => mockThermalDefaultTargetValues targetTempC
  targetTempC := targetTempC

def mockThermalProfileFromPackage : MockThermalCandidateProfile where
  settings := package.settings.getD mockThermalDefaultSettings
  points := (thermalProfileTargets package).map (mockThermalPointFromPackage package)

/-! ## Interpolation -/

def half : F32 := ⟨0x3f000000⟩

/-- The nearest number to the value between the two, rounded as `as u16` rounds it. -/
def lerp (ratio : F32) (left right upperBound : UInt16) : UInt16 :=
  let value := ((F32.ofNat left.toNat).add
    (((F32.ofNat right.toNat).sub (F32.ofNat left.toNat)).mul ratio)).add half
  (value.clamp .zero (F32.ofNat upperBound.toNat)).toU16

variable (lower upper : ThermalControlProfilePoint)

def thermalBrakeAdjustment : F32 :=
  if 60 ≤ lower.targetTempC ∧ upper.targetTempC ≤ 100 then ⟨0xbe4ccccd⟩
  else if 100 ≤ lower.targetTempC ∧ upper.targetTempC ≤ 180 then
    if upper.targetTempC ≤ 140 then ⟨0x3f0ccccd⟩ else ⟨0x3e4ccccd⟩
  else .zero

def thermalLowTempHoldScale (midpointWeight : F32) : F32 :=
  if 60 ≤ lower.targetTempC ∧ upper.targetTempC ≤ 100 then
    F32.one.sub (F32.mul ⟨0x3e4ccccd⟩ midpointWeight)
  else .one

def thermalLowTempReheatScale (midpointWeight : F32) : F32 :=
  if 60 ≤ lower.targetTempC ∧ upper.targetTempC ≤ 100 then
    F32.one.sub (F32.mul ⟨0x3dcccccd⟩ midpointWeight)
  else .one

def interpolatedThermalPointValues (ratio : F32) : MockThermalRuntimePointValues :=
  let between (field : MockThermalRuntimePointValues → UInt16) (upperBound : UInt16) : UInt16 :=
    lerp ratio (field lower.toMockThermalRuntimePointValues)
      (field upper.toMockThermalRuntimePointValues) upperBound
  let linearBrakeDistance := between (·.brakeDistanceCentiC) 5000
  let midpointWeight := (F32.mul ⟨0x40800000⟩ ratio).mul (F32.one.sub ratio)
  let brakeScale := F32.one.sub ((thermalBrakeAdjustment lower upper).mul midpointWeight)
  let scaleLowTempHold (value : UInt16) : UInt16 :=
    ((((F32.ofNat value.toNat).mul (thermalLowTempHoldScale lower upper midpointWeight)).add
      half).clamp .zero (F32.ofNat 1000)).toU16
  { brakeDistanceCentiC := (((F32.ofNat linearBrakeDistance.toNat).mul brakeScale).add half).toU16
    warmupPowerPermille := between (·.warmupPowerPermille) 1000
    approachPowerPermille := between (·.approachPowerPermille) 1000
    approachFloorPowerPermille := between (·.approachFloorPowerPermille) 1000
    approachDampingExponentPermille := between (·.approachDampingExponentPermille) 4000
    approachTailWindowCentiC := between (·.approachTailWindowCentiC) 375
    holdPowerPermille := scaleLowTempHold (between (·.holdPowerPermille) 1000)
    holdReheatPowerPermille :=
      (((F32.ofNat (between (·.holdReheatPowerPermille) 1000).toNat).mul
        (thermalLowTempReheatScale lower upper midpointWeight)).add half).toU16
    warmupReenterCentiC := between (·.warmupReenterCentiC) 5000
    holdEntryCentiC := between (·.holdEntryCentiC) 5000
    holdExitCentiC := between (·.holdExitCentiC) 5000
    holdOnCentiC := between (·.holdOnCentiC) 5000
    holdOffCentiC := between (·.holdOffCentiC) 5000
    overshootCutoffCentiC := between (·.overshootCutoffCentiC) 5000
    holdKpPermillePerC := between (·.holdKpPermillePerC) 10000
    holdKiPermillePerCTick := max (between (·.holdKiPermillePerCTick) 10000) 1
    holdBlendTicks := min (max (between (·.holdBlendTicks) 255) 1) 255
    approachLeadTicks := between (·.approachLeadTicks) 255
    holdLeadTicks := between (·.holdLeadTicks) 255 }

def interpolationBounds (profile : MockThermalCandidateProfile) (targetTempC : Int16) :
    Option (ThermalControlProfilePoint × ThermalControlProfilePoint) := do
  let points := profile.points.mergeSort (·.targetTempC ≤ ·.targetTempC)
  let lower ← points.reverse.find? (·.targetTempC < targetTempC)
  let upper ← points.find? (targetTempC < ·.targetTempC)
  pure (lower, upper)

def mockThermalInterpolatedCandidatePoint (profile : MockThermalCandidateProfile)
    (targetTempC : Int16) : Option MockThermalRuntimePointValues :=
  match profile.points.find? (·.targetTempC = targetTempC) with
  | some point => some point.toMockThermalRuntimePointValues
  | none => (interpolationBounds profile targetTempC).map fun (lower, upper) =>
      let ratio := (F32.ofInt (targetTempC - lower.targetTempC).toInt).div
        (F32.ofInt (upper.targetTempC - lower.targetTempC).toInt)
      interpolatedThermalPointValues lower upper ratio

/-! ## The runtime -/

def thermalProfileSource (previewActive profileActive : Bool) : String :=
  if previewActive = true then "preview" else if profileActive = true then "saved" else "default"

def thermalRuntimePointValues (point : Option MockThermalRuntimePointValues)
    (targetTempC : Int16) : MockThermalRuntimePointValues :=
  let point := point.getD (mockThermalDefaultTargetValues targetTempC)
  { point with warmupPowerPermille := max point.warmupPowerPermille point.approachPowerPermille }

def mockThermalRuntime (targetTempC : Int16) (package : Option ThermalControlProfilePackage)
    (previewActive : Bool) : ThermalControlRuntime :=
  let targetTempC := min (max targetTempC 0) 400
  let profile := package.map mockThermalProfileFromPackage
  let point := profile.bind (mockThermalInterpolatedCandidatePoint · targetTempC)
  let settings := (profile.map (·.settings)).getD mockThermalDefaultSettings
  { toMockThermalRuntimePointValues := thermalRuntimePointValues point targetTempC
    profileActive := profile.isSome
    profileCoversTarget := point.isSome
    profileSource := thermalProfileSource previewActive profile.isSome
    targetTempC := targetTempC
    tempFilterAlphaPermille := settings.tempFilterAlphaPermille
    approachMaxTicks := settings.approachMaxTicks
    approachMinPowerRatioPermille := settings.approachMinPowerRatioPermille
    autoAdjustableWorkingFloorMv := settings.autoAdjustableWorkingFloorMv
    heaterCurrentReserveMa := min settings.heaterCurrentReserveMa 1000 }

@[simp] theorem mockThermalRuntime_profileSource (targetTempC : Int16)
    (package : Option ThermalControlProfilePackage) (previewActive : Bool) :
    (mockThermalRuntime targetTempC package previewActive).profileSource =
      thermalProfileSource previewActive package.isSome := by
  show thermalProfileSource previewActive (package.map mockThermalProfileFromPackage).isSome = _
  rw [Option.isSome_map]

end FluxPurr.Devd.Mock
