import FluxPurr.Wire.Slots
import Mathlib.Data.List.Sort

/-!
# Thermal control profiles

A thermal control profile holds the settings of the heater controller and up to
`profileMaxPoints` control points, one for each preset temperature.  A zero in
most point fields means "take the profile's setting": `sanitizeThermalProfilePoint`
replaces it by the inherited value and clamps everything else into its range.

The stored form keeps only the five settings that are truly global
(`ThermalControlProfileSettingsConfig.globalsOnly`); the inherited values are
stored with each point.
-/

namespace FluxPurr.Memory

open FluxPurr.Wire

abbrev profileMaxPoints : ℕ := 10
abbrev targetTempMinC : Int16 := 0
abbrev targetTempMaxC : Int16 := 400
abbrev brakeDistanceMinCentiC : UInt16 := 60
abbrev approachMaxTicksMax : UInt16 := 255
abbrev approachDampingExponentPermilleDefault : UInt16 := 1000
abbrev approachDampingExponentPermilleMax : UInt16 := 4000
abbrev approachTailWindowCentiCMax : UInt16 := 375
abbrev approachTailWindowStepCentiC : UInt16 := 25
abbrev approachDampingValueMask : UInt16 := 0x0fff
abbrev autoAdjustableWorkingFloorMvMin : UInt16 := 5000
abbrev autoAdjustableWorkingFloorMvMax : UInt16 := 28000
abbrev heaterCurrentReserveMaMax : UInt16 := 1000

/-- `Ord::clamp`. -/
def clamp (value lo hi : UInt16) : UInt16 :=
  if value < lo then lo else if hi < value then hi else value

/-- `Ord::min`, as `u16::min`. -/
def atMost (value hi : UInt16) : UInt16 := if value ≤ hi then value else hi

def clampTempC (value : Int16) : Int16 :=
  if value < targetTempMinC then targetTempMinC
  else if targetTempMaxC < value then targetTempMaxC
  else value

structure ThermalControlProfileSettingsConfig where
  tempFilterAlphaPermille : UInt16 := 750
  warmupReenterCentiC : UInt16 := 400
  holdEntryCentiC : UInt16 := 90
  holdExitCentiC : UInt16 := 200
  holdOnCentiC : UInt16 := 30
  holdOffCentiC : UInt16 := 5
  overshootCutoffCentiC : UInt16 := 25
  approachMaxTicks : UInt16 := 5
  approachMinPowerRatioPermille : UInt16 := 0
  holdKpPermillePerC : UInt16 := 120
  holdKiPermillePerCTick : UInt16 := 12
  holdBlendTicks : UInt16 := 12
  holdReheatPowerPermille : UInt16 := 0
  approachLeadTicks : UInt16 := 0
  holdLeadTicks : UInt16 := 0
  autoAdjustableWorkingFloorMv : UInt16 := 5000
  heaterCurrentReserveMa : UInt16 := 200
deriving DecidableEq, Repr

structure ThermalControlProfilePointConfig where
  targetTempC : Int16
  brakeDistanceCentiC : UInt16
  warmupPowerPermille : UInt16
  warmupReenterCentiC : UInt16
  approachPowerPermille : UInt16
  approachFloorPowerPermille : UInt16
  approachDampingExponentPermille : UInt16
  approachTailWindowCentiC : UInt16
  holdPowerPermille : UInt16
  holdReheatPowerPermille : UInt16
  holdEntryCentiC : UInt16
  holdExitCentiC : UInt16
  holdOnCentiC : UInt16
  holdOffCentiC : UInt16
  overshootCutoffCentiC : UInt16
  holdKpPermillePerC : UInt16
  holdKiPermillePerCTick : UInt16
  holdBlendTicks : UInt16
  approachLeadTicks : UInt16
  holdLeadTicks : UInt16
deriving DecidableEq, Repr

structure ThermalControlProfileConfig where
  settings : ThermalControlProfileSettingsConfig := {}
  points : Vector (Option ThermalControlProfilePointConfig) profileMaxPoints :=
    Vector.replicate profileMaxPoints none
deriving DecidableEq, Repr

namespace ThermalControlProfileSettingsConfig

/-- The settings that remain when the twelve inherited ones are set back to
their defaults. -/
def globalsOnly (settings : ThermalControlProfileSettingsConfig) :
    ThermalControlProfileSettingsConfig :=
  { tempFilterAlphaPermille := settings.tempFilterAlphaPermille
    approachMaxTicks := settings.approachMaxTicks
    approachMinPowerRatioPermille := settings.approachMinPowerRatioPermille
    autoAdjustableWorkingFloorMv := settings.autoAdjustableWorkingFloorMv
    heaterCurrentReserveMa := settings.heaterCurrentReserveMa }

end ThermalControlProfileSettingsConfig

/-! ## Sanitizing -/

def sanitizeThermalProfileSettings (settings : ThermalControlProfileSettingsConfig) :
    ThermalControlProfileSettingsConfig :=
  { tempFilterAlphaPermille := clamp settings.tempFilterAlphaPermille 1 1000
    warmupReenterCentiC := clamp settings.warmupReenterCentiC 50 5000
    holdEntryCentiC := clamp settings.holdEntryCentiC 1 5000
    holdExitCentiC := clamp settings.holdExitCentiC 1 5000
    holdOnCentiC := clamp settings.holdOnCentiC 1 5000
    holdOffCentiC := clamp settings.holdOffCentiC 0 5000
    overshootCutoffCentiC := clamp settings.overshootCutoffCentiC 1 5000
    approachMaxTicks := clamp settings.approachMaxTicks 1 approachMaxTicksMax
    approachMinPowerRatioPermille := atMost settings.approachMinPowerRatioPermille 1000
    holdKpPermillePerC := atMost settings.holdKpPermillePerC 10000
    holdKiPermillePerCTick := atMost settings.holdKiPermillePerCTick 10000
    holdBlendTicks := clamp settings.holdBlendTicks 1 approachMaxTicksMax
    holdReheatPowerPermille := atMost settings.holdReheatPowerPermille 1000
    approachLeadTicks := atMost settings.approachLeadTicks approachMaxTicksMax
    holdLeadTicks := atMost settings.holdLeadTicks approachMaxTicksMax
    autoAdjustableWorkingFloorMv := clamp settings.autoAdjustableWorkingFloorMv
      autoAdjustableWorkingFloorMvMin autoAdjustableWorkingFloorMvMax
    heaterCurrentReserveMa := atMost settings.heaterCurrentReserveMa heaterCurrentReserveMaMax }

def defaultOrMin (value default hi : UInt16) : UInt16 :=
  if value = 0 then default else atMost value hi

def sanitizeThermalProfilePoint (point : ThermalControlProfilePointConfig)
    (settings : ThermalControlProfileSettingsConfig) : ThermalControlProfilePointConfig :=
  { targetTempC := clampTempC point.targetTempC
    brakeDistanceCentiC := clamp point.brakeDistanceCentiC brakeDistanceMinCentiC 5000
    warmupPowerPermille := atMost point.warmupPowerPermille 1000
    warmupReenterCentiC :=
      if point.warmupReenterCentiC = 0 then settings.warmupReenterCentiC
      else clamp point.warmupReenterCentiC 50 5000
    approachPowerPermille := atMost point.approachPowerPermille 1000
    approachFloorPowerPermille := atMost point.approachFloorPowerPermille 1000
    approachDampingExponentPermille :=
      if point.approachDampingExponentPermille = 0 then approachDampingExponentPermilleDefault
      else clamp point.approachDampingExponentPermille 100 approachDampingExponentPermilleMax
    approachTailWindowCentiC := atMost point.approachTailWindowCentiC approachTailWindowCentiCMax
    holdPowerPermille := atMost point.holdPowerPermille 1000
    holdReheatPowerPermille :=
      if point.holdReheatPowerPermille = 0 then settings.holdReheatPowerPermille
      else atMost point.holdReheatPowerPermille 1000
    holdEntryCentiC := defaultOrMin point.holdEntryCentiC settings.holdEntryCentiC 5000
    holdExitCentiC := defaultOrMin point.holdExitCentiC settings.holdExitCentiC 5000
    holdOnCentiC := defaultOrMin point.holdOnCentiC settings.holdOnCentiC 5000
    holdOffCentiC := defaultOrMin point.holdOffCentiC settings.holdOffCentiC 5000
    overshootCutoffCentiC :=
      defaultOrMin point.overshootCutoffCentiC settings.overshootCutoffCentiC 5000
    holdKpPermillePerC := defaultOrMin point.holdKpPermillePerC settings.holdKpPermillePerC 10000
    holdKiPermillePerCTick :=
      defaultOrMin point.holdKiPermillePerCTick settings.holdKiPermillePerCTick 10000
    holdBlendTicks := defaultOrMin point.holdBlendTicks settings.holdBlendTicks approachMaxTicksMax
    approachLeadTicks := atMost point.approachLeadTicks approachMaxTicksMax
    holdLeadTicks := atMost point.holdLeadTicks approachMaxTicksMax }

/-- `points.sort_unstable_by_key(|point| point.target_temp_c)`: on at most ten
points the library sort is an insertion sort. -/
def sortByTarget (points : List ThermalControlProfilePointConfig) :
    List ThermalControlProfilePointConfig :=
  points.insertionSort fun a b => a.targetTempC ≤ b.targetTempC

def sanitizeThermalControlProfile (config : ThermalControlProfileConfig) :
    ThermalControlProfileConfig :=
  let settings := sanitizeThermalProfileSettings config.settings
  let points := (present config.points).map fun point => sanitizeThermalProfilePoint point settings
  { settings := settings
    points := packSlots profileMaxPoints ((sortByTarget points).take profileMaxPoints) }

end FluxPurr.Memory
