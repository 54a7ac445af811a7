import FluxPurr.Memory.ProfileSanitized
import Mathlib.Algebra.Order.Floor.Semifield
import Mathlib.Data.Rat.Floor

/-!
# The control target of a thermal profile

The heater controller reads a thermal profile through `ThermalControlProfile.controlTarget`: the
parameters for one target temperature, interpolated between the neighbouring control points, or
the defaults where the profile has none.  Temperatures and ratios are rational numbers; a cast
to a machine integer truncates and saturates as `as` does.

Whatever the profile, full power is asked for while warming up, and the cut-off of an overshoot
lies above zero (`Qualified`): the settings are clamped to at least one
hundredth of a degree, and a point with a zero takes the setting.
-/

namespace FluxPurr.Thermal

open Memory (clamp atMost ThermalControlProfileSettingsConfig)

abbrev heaterPidTargetMinC : ℤ := 0
abbrev heaterPidTargetMaxC : ℤ := 400

/-! ## Rational arithmetic for `f32` -/

/-- `f32::clamp`. -/
def clampQ (value lo hi : ℚ) : ℚ := max lo (min value hi)

variable (value : ℚ) (targetTempC : ℤ)

/-- `as u16` of an `f32`: truncation, saturating at both ends. -/
def asU16 : ℕ := min ⌊value⌋.toNat 65535

/-- `as u8` of an `f32`. -/
def asU8 : ℕ := min ⌊value⌋.toNat 255

/-- `f32::round`: to the nearest integer, halves away from zero. -/
def roundQ : ℚ := if 0 ≤ value then ⌊value + 1 / 2⌋ else -⌊-value + 1 / 2⌋

theorem clampQ_le {value lo hi : ℚ} (h : lo ≤ hi) : clampQ value lo hi ≤ hi :=
  max_le h (min_le_right _ _)

theorem le_clampQ (value lo hi : ℚ) : lo ≤ clampQ value lo hi := le_max_left _ _

/-- `as u8` and `as u16` between two sizes of integers. -/
def ofNatU16 (value : ℕ) : UInt16 := UInt16.ofNat (min value 65535)

/-! ## The profile -/

structure ThermalControlProfileSettings where
  tempFilterAlpha : ℚ
  warmupReenterErrorC : ℚ
  holdEntryErrorC : ℚ
  holdExitErrorC : ℚ
  holdOnErrorC : ℚ
  holdOffErrorC : ℚ
  overshootCutoffC : ℚ
  approachMaxTicks : UInt16
  approachMinPowerRatio : ℚ
  holdKpPermillePerC : ℚ
  holdKiPermillePerCTick : ℚ
  holdBlendTicks : UInt16
  holdReheatPowerPermille : UInt16
  approachLeadTicks : UInt16
  holdLeadTicks : UInt16
  autoAdjustableWorkingFloorMv : UInt16
  heaterCurrentReserveMa : UInt16
deriving DecidableEq

/-- A stored setting as the fraction it stands for. -/
def hundredths (centi : UInt16) : ℚ := centi.toNat / 100

def thousandths (permille : UInt16) : ℚ := permille.toNat / 1000

def toCenti : UInt16 := ofNatU16 (asU16 (value * 100))

def toPermille : UInt16 := ofNatU16 (asU16 (value * 1000))

/-- `ThermalControlProfileSettings::from`. -/
def ThermalControlProfileSettings.ofConfig (value : ThermalControlProfileSettingsConfig) :
    ThermalControlProfileSettings :=
  { tempFilterAlpha := thousandths (clamp value.tempFilterAlphaPermille 1 1000)
    warmupReenterErrorC := hundredths (clamp value.warmupReenterCentiC 50 5000)
    holdEntryErrorC := hundredths (clamp value.holdEntryCentiC 1 5000)
    holdExitErrorC := hundredths (clamp value.holdExitCentiC 1 5000)
    holdOnErrorC := hundredths (clamp value.holdOnCentiC 1 5000)
    holdOffErrorC := hundredths (atMost value.holdOffCentiC 5000)
    overshootCutoffC := hundredths (clamp value.overshootCutoffCentiC 1 5000)
    approachMaxTicks := clamp value.approachMaxTicks 1 255
    approachMinPowerRatio := thousandths (atMost value.approachMinPowerRatioPermille 1000)
    holdKpPermillePerC := (atMost value.holdKpPermillePerC 10000).toNat
    holdKiPermillePerCTick := (atMost value.holdKiPermillePerCTick 10000).toNat
    holdBlendTicks := clamp value.holdBlendTicks 1 255
    holdReheatPowerPermille := atMost value.holdReheatPowerPermille 1000
    approachLeadTicks := atMost value.approachLeadTicks 255
    holdLeadTicks := atMost value.holdLeadTicks 255
    autoAdjustableWorkingFloorMv := clamp value.autoAdjustableWorkingFloorMv
      Memory.autoAdjustableWorkingFloorMvMin Memory.autoAdjustableWorkingFloorMvMax
    heaterCurrentReserveMa := atMost value.heaterCurrentReserveMa
      Memory.heaterCurrentReserveMaMax }

/-- `ThermalControlProfileSettings::default`. -/
def ThermalControlProfileSettings.default : ThermalControlProfileSettings := .ofConfig {}

/-- Back to the stored form and through its clamps again. -/
def ThermalControlProfileSettings.sanitized (settings : ThermalControlProfileSettings) :
    ThermalControlProfileSettings :=
  .ofConfig
    { tempFilterAlphaPermille := toPermille settings.tempFilterAlpha
      warmupReenterCentiC := toCenti settings.warmupReenterErrorC
      holdEntryCentiC := toCenti settings.holdEntryErrorC
      holdExitCentiC := toCenti settings.holdExitErrorC
      holdOnCentiC := toCenti settings.holdOnErrorC
      holdOffCentiC := toCenti settings.holdOffErrorC
      overshootCutoffCentiC := toCenti settings.overshootCutoffC
      approachMaxTicks := settings.approachMaxTicks
      approachMinPowerRatioPermille := toPermille settings.approachMinPowerRatio
      holdKpPermillePerC := ofNatU16 (asU16 settings.holdKpPermillePerC)
      holdKiPermillePerCTick := ofNatU16 (asU16 settings.holdKiPermillePerCTick)
      holdBlendTicks := settings.holdBlendTicks
      holdReheatPowerPermille := settings.holdReheatPowerPermille
      approachLeadTicks := settings.approachLeadTicks
      holdLeadTicks := settings.holdLeadTicks
      autoAdjustableWorkingFloorMv := settings.autoAdjustableWorkingFloorMv
      heaterCurrentReserveMa := settings.heaterCurrentReserveMa }

/-- The control point of the front panel has the fields of the stored one. -/
abbrev ThermalControlProfilePoint := Memory.ThermalControlProfilePointConfig

/-- `sanitize_inherited`: a zero stands for the profile's setting and stays. -/
def sanitizeInherited (value hi : UInt16) : UInt16 := if value = 0 then 0 else atMost value hi

/-- `ThermalControlProfilePoint::sanitized`. -/
def sanitizedPoint (point : ThermalControlProfilePoint) : ThermalControlProfilePoint :=
  { targetTempC := point.targetTempC
    brakeDistanceCentiC := clamp point.brakeDistanceCentiC 100 5000
    warmupPowerPermille := atMost point.warmupPowerPermille 1000
    warmupReenterCentiC := sanitizeInherited point.warmupReenterCentiC 5000
    approachPowerPermille := atMost point.approachPowerPermille 1000
    approachFloorPowerPermille := atMost point.approachFloorPowerPermille 1000
    approachDampingExponentPermille :=
      if point.approachDampingExponentPermille = 0 then
        Memory.approachDampingExponentPermilleDefault
      else clamp point.approachDampingExponentPermille 100
        Memory.approachDampingExponentPermilleMax
    approachTailWindowCentiC := atMost point.approachTailWindowCentiC
      Memory.approachTailWindowCentiCMax
    holdPowerPermille := atMost point.holdPowerPermille 1000
    holdReheatPowerPermille := atMost point.holdReheatPowerPermille 1000
    holdEntryCentiC := sanitizeInherited point.holdEntryCentiC 5000
    holdExitCentiC := sanitizeInherited point.holdExitCentiC 5000
    holdOnCentiC := sanitizeInherited point.holdOnCentiC 5000
    holdOffCentiC := sanitizeInherited point.holdOffCentiC 5000
    overshootCutoffCentiC := sanitizeInherited point.overshootCutoffCentiC 5000
    holdKpPermillePerC := sanitizeInherited point.holdKpPermillePerC 10000
    holdKiPermillePerCTick := sanitizeInherited point.holdKiPermillePerCTick 10000
    holdBlendTicks := sanitizeInherited point.holdBlendTicks 255
    approachLeadTicks := sanitizeInherited point.approachLeadTicks 255
    holdLeadTicks := sanitizeInherited point.holdLeadTicks 255 }

structure ThermalControlProfile where
  settings : ThermalControlProfileSettings
  points : Vector (Option ThermalControlProfilePoint) Memory.profileMaxPoints

/-- A zero takes the profile's setting. -/
def inherit (value setting : UInt16) : UInt16 := if value = 0 then setting else value

/-- What `ThermalControlProfile::sanitized` makes of one point. -/
def completedPoint (settings : ThermalControlProfileSettings)
    (point : ThermalControlProfilePoint) : ThermalControlProfilePoint :=
  let sanitized := sanitizedPoint point
  sanitizedPoint
    { sanitized with
      warmupReenterCentiC := inherit sanitized.warmupReenterCentiC
        (toCenti settings.warmupReenterErrorC)
      holdEntryCentiC := inherit sanitized.holdEntryCentiC (toCenti settings.holdEntryErrorC)
      holdExitCentiC := inherit sanitized.holdExitCentiC (toCenti settings.holdExitErrorC)
      holdOnCentiC := inherit sanitized.holdOnCentiC (toCenti settings.holdOnErrorC)
      holdOffCentiC := inherit sanitized.holdOffCentiC (toCenti settings.holdOffErrorC)
      overshootCutoffCentiC := inherit sanitized.overshootCutoffCentiC
        (toCenti settings.overshootCutoffC)
      holdKpPermillePerC := inherit sanitized.holdKpPermillePerC
        (ofNatU16 (asU16 settings.holdKpPermillePerC))
      holdKiPermillePerCTick := inherit sanitized.holdKiPermillePerCTick
        (ofNatU16 (asU16 settings.holdKiPermillePerCTick))
      holdBlendTicks := inherit sanitized.holdBlendTicks settings.holdBlendTicks
      holdReheatPowerPermille :=
        inherit (inherit sanitized.holdReheatPowerPermille settings.holdReheatPowerPermille)
          sanitized.holdPowerPermille
      warmupPowerPermille :=
        atMost (max sanitized.warmupPowerPermille sanitized.approachPowerPermille) 1000 }

/-- `ThermalControlProfile::sanitized`. -/
def ThermalControlProfile.sanitized (profile : ThermalControlProfile) : ThermalControlProfile :=
  let settings := profile.settings.sanitized
  { settings, points := profile.points.map (·.map (completedPoint settings)) }

/-! ## The control target -/

structure ThermalControlTarget where
  brakeDistanceC : ℚ
  warmupPowerPermille : ℕ
  warmupReenterErrorC : ℚ
  approachPowerPermille : ℕ
  approachFloorPowerPermille : ℕ
  approachDampingExponent : ℚ
  approachTailWindowC : ℚ
  holdPowerPermille : ℕ
  holdReheatPowerPermille : ℕ
  holdEntryErrorC : ℚ
  holdExitErrorC : ℚ
  holdOnErrorC : ℚ
  holdOffErrorC : ℚ
  overshootCutoffC : ℚ
  holdKpPermillePerC : ℚ
  holdKiPermillePerCTick : ℚ
  holdBlendTicks : ℕ
  approachLeadTicks : ℕ
  holdLeadTicks : ℕ
  settings : ThermalControlProfileSettings
deriving DecidableEq

/-- `clamp` of a target temperature. -/
def clampTarget : ℤ := max heaterPidTargetMinC (min targetTempC heaterPidTargetMaxC)

structure DefaultPower where
  brakeDistanceCentiC : ℕ
  approachPowerPermille : ℕ
  approachFloorPowerPermille : ℕ
  holdPowerPermille : ℕ
  approachDampingExponentPermille : ℕ

def defaultPowerParameters (target : ℤ) : DefaultPower :=
  { brakeDistanceCentiC :=
      if target ≤ 100 then 450 else if target ≤ 180 then 700
      else if target ≤ 250 then 1000 else 1400
    approachPowerPermille :=
      if target ≤ 100 then 380 else if target ≤ 180 then 320
      else if target ≤ 250 then 260 else 220
    approachFloorPowerPermille :=
      if target ≤ 100 then 120 else if target ≤ 180 then 200
      else if target ≤ 250 then 320 else 380
    holdPowerPermille :=
      if target ≤ 100 then 180 else if target ≤ 180 then 220
      else if target ≤ 250 then 260 else 300
    approachDampingExponentPermille :=
      if target ≤ 100 then 1400 else if target ≤ 140 then 1000 else if target ≤ 180 then 800
      else if target ≤ 220 then 550 else 350 }

structure DefaultHold where
  entryErrorC : ℚ
  exitErrorC : ℚ
  offErrorC : ℚ
  overshootCutoffC : ℚ
  kpPermillePerC : ℚ
  kiPermillePerCTick : ℚ
  blendTicks : ℕ

/-- The value for the range of 60, 100, 140, 180 or 220 °C that the target lies in. -/
def byRange (target : ℤ) (to60 to100 to140 to180 to220 above : ℚ) : ℚ :=
  if target ≤ 60 then to60 else if target ≤ 100 then to100 else if target ≤ 140 then to140
  else if target ≤ 180 then to180 else if target ≤ 220 then to220 else above

def defaultHoldParameters (target : ℤ) : DefaultHold :=
  { entryErrorC := byRange target 0.35 0.25 0.20 0.18 0.15 0.12
    exitErrorC := byRange target 1.6 1.2 1.0 0.9 0.8 0.7
    offErrorC := byRange target 0.7 0.8 0.9 1.0 1.2 1.5
    overshootCutoffC := byRange target 0.8 0.9 1.0 1.2 1.4 1.6
    kpPermillePerC := byRange target 70 55 42 30 22 18
    kiPermillePerCTick := byRange target 3 2 1.5 1 1 1
    blendTicks := if target ≤ 100 then 16 else if target ≤ 180 then 12 else 8 }

def defaultThermalControlTargetWithSettings
    (settings : ThermalControlProfileSettings) : ThermalControlTarget :=
  let target := clampTarget targetTempC
  let power := defaultPowerParameters target
  let hold := defaultHoldParameters target
  { brakeDistanceC := power.brakeDistanceCentiC / 100
    warmupPowerPermille := 1000
    warmupReenterErrorC := settings.warmupReenterErrorC
    approachPowerPermille := power.approachPowerPermille
    approachFloorPowerPermille := power.approachFloorPowerPermille
    approachDampingExponent := power.approachDampingExponentPermille / 1000
    approachTailWindowC := 0
    holdPowerPermille := power.holdPowerPermille
    holdReheatPowerPermille := power.holdPowerPermille
    holdEntryErrorC := hold.entryErrorC
    holdExitErrorC := hold.exitErrorC
    holdOnErrorC := settings.holdOnErrorC
    holdOffErrorC := hold.offErrorC
    overshootCutoffC := hold.overshootCutoffC
    holdKpPermillePerC := hold.kpPermillePerC
    holdKiPermillePerCTick := hold.kiPermillePerCTick
    holdBlendTicks := hold.blendTicks
    approachLeadTicks := 0
    holdLeadTicks := 0
    settings }

def defaultThermalControlTarget : ThermalControlTarget :=
  defaultThermalControlTargetWithSettings targetTempC .default

def directThermalControlTarget (point : ThermalControlProfilePoint)
    (settings : ThermalControlProfileSettings) : ThermalControlTarget :=
  { brakeDistanceC := hundredths point.brakeDistanceCentiC
    warmupPowerPermille := 1000
    warmupReenterErrorC := hundredths point.warmupReenterCentiC
    approachPowerPermille := point.approachPowerPermille.toNat
    approachFloorPowerPermille := point.approachFloorPowerPermille.toNat
    approachDampingExponent := thousandths point.approachDampingExponentPermille
    approachTailWindowC := hundredths point.approachTailWindowCentiC
    holdPowerPermille := point.holdPowerPermille.toNat
    holdReheatPowerPermille := point.holdReheatPowerPermille.toNat
    holdEntryErrorC := hundredths point.holdEntryCentiC
    holdExitErrorC := hundredths point.holdExitCentiC
    holdOnErrorC := hundredths point.holdOnCentiC
    holdOffErrorC := hundredths point.holdOffCentiC
    overshootCutoffC := hundredths point.overshootCutoffCentiC
    holdKpPermillePerC := point.holdKpPermillePerC.toNat
    holdKiPermillePerCTick := point.holdKiPermillePerCTick.toNat
    holdBlendTicks := max 1 (min point.holdBlendTicks.toNat 255)
    approachLeadTicks := min point.approachLeadTicks.toNat 255
    holdLeadTicks := min point.holdLeadTicks.toNat 255
    settings }

def interpolateU16 (left right : UInt16) (ratio : ℚ) (upperBound : ℕ) : ℕ :=
  asU16 (clampQ (left.toNat + (right.toNat - left.toNat) * ratio + 1 / 2) 0 upperBound)

/-- The part of the brake distance, the hold power and the reheat power that the bank of
control points bends between two presets. -/
structure Bending where
  brake : ℚ
  hold : ℚ
  reheat : ℚ

variable (lower upper : ThermalControlProfilePoint)

/-- The factors of `interpolated_power_values`. -/
def bending (ratio : ℚ) : Bending :=
  let midpoint := 4 * ratio * (1 - ratio)
  let low := 60 ≤ lower.targetTempC ∧ upper.targetTempC ≤ 100
  let adjustment : ℚ :=
    if low then -0.20
    else if 100 ≤ lower.targetTempC ∧ upper.targetTempC ≤ 180 then
      if upper.targetTempC ≤ 140 then 0.55 else 0.20
    else 0
  { brake := 1 - adjustment * midpoint
    hold := if low then 1 - 0.20 * midpoint else 1
    reheat := if low then 1 - 0.10 * midpoint else 1 }

/-- `interpolate_thermal_control_target_linear`, with `interpolated_power_values` and
`interpolated_error_values`. -/
def interpolateThermalControlTargetLinear
    (settings : ThermalControlProfileSettings) (ratio : ℚ) : ThermalControlTarget :=
  let bend := bending lower upper ratio
  let between (field : ThermalControlProfilePoint → UInt16) (upperBound : ℕ) : ℕ :=
    interpolateU16 (field lower) (field upper) ratio upperBound
  { brakeDistanceC := asU16 (between (·.brakeDistanceCentiC) 5000 * bend.brake + 1 / 2) / 100
    warmupPowerPermille := 1000
    warmupReenterErrorC := between (·.warmupReenterCentiC) 5000 / 100
    approachPowerPermille := between (·.approachPowerPermille) 1000
    approachFloorPowerPermille := between (·.approachFloorPowerPermille) 1000
    approachDampingExponent := between (·.approachDampingExponentPermille)
      Memory.approachDampingExponentPermilleMax.toNat / 1000
    approachTailWindowC := between (·.approachTailWindowCentiC)
      Memory.approachTailWindowCentiCMax.toNat / 100
    holdPowerPermille :=
      asU16 (clampQ (between (·.holdPowerPermille) 1000 * bend.hold + 1 / 2) 0 1000)
    holdReheatPowerPermille :=
      asU16 (between (·.holdReheatPowerPermille) 1000 * bend.reheat + 1 / 2)
    holdEntryErrorC := between (·.holdEntryCentiC) 5000 / 100
    holdExitErrorC := between (·.holdExitCentiC) 5000 / 100
    holdOnErrorC := between (·.holdOnCentiC) 5000 / 100
    holdOffErrorC := between (·.holdOffCentiC) 5000 / 100
    overshootCutoffC := between (·.overshootCutoffCentiC) 5000 / 100
    holdKpPermillePerC := between (·.holdKpPermillePerC) 10000
    holdKiPermillePerCTick := between (·.holdKiPermillePerCTick) 10000
    holdBlendTicks := max 1 (min (between (·.holdBlendTicks) 255) 255)
    approachLeadTicks := min (between (·.approachLeadTicks) 255) 255
    holdLeadTicks := min (between (·.holdLeadTicks) 255) 255
    settings }

def interpolateThermalControlTarget
    (settings : ThermalControlProfileSettings) : ThermalControlTarget :=
  if upper.targetTempC ≤ lower.targetTempC then directThermalControlTarget lower settings
  else
    let span : ℚ := (upper.targetTempC - lower.targetTempC).toInt
    let ratio := clampQ ((Int16.ofInt targetTempC - lower.targetTempC).toInt / span) 0 1
    interpolateThermalControlTargetLinear lower upper settings ratio

namespace ThermalControlProfile

/-- The points in the order of their target temperatures. -/
def dense (points : List (Option ThermalControlProfilePoint)) : List ThermalControlProfilePoint :=
  (points.filterMap id |>.map sanitizedPoint).mergeSort
    fun a b => decide (a.targetTempC ≤ b.targetTempC)

/-- The last point up to the target and the first from it on.  Between two points that hold
the target these are its neighbours. -/
def bracket (target : ℤ) (lower upper : ThermalControlProfilePoint) :
    List ThermalControlProfilePoint → ThermalControlProfilePoint × ThermalControlProfilePoint
  | [] => (lower, upper)
  | point :: points =>
      let lower := if point.targetTempC.toInt ≤ target then point else lower
      if target ≤ point.targetTempC.toInt then (lower, point)
      else bracket target lower upper points

/-- `ThermalControlProfile::control_target`. -/
def controlTarget (profile : ThermalControlProfile) (targetTempC : ℤ) : ThermalControlTarget :=
  let profile := profile.sanitized
  let points := dense profile.points.toList
  match points.head?, points.getLast? with
  | some first, some last =>
      let target := clampTarget targetTempC
      if target < first.targetTempC.toInt ∨ last.targetTempC.toInt < target then
        defaultThermalControlTargetWithSettings target profile.settings
      else
        let (lower, upper) := bracket target first last points
        interpolateThermalControlTarget target lower upper profile.settings
  | _, _ => defaultThermalControlTargetWithSettings targetTempC profile.settings

end ThermalControlProfile

open ThermalControlProfile

/-- The control target of an update: of its profile, or the default. -/
def controlTargetFor (profile : Option ThermalControlProfile) (targetTempC : ℤ) :
    ThermalControlTarget :=
  (profile.map (·.controlTarget targetTempC)).getD (defaultThermalControlTarget targetTempC)

/-! ## What every control target has -/

/-- Full power while warming up, an overshoot cut-off above zero and a re-entry distance that
is not negative. -/
structure Qualified (target : ThermalControlTarget) : Prop where
  warmupPower : target.warmupPowerPermille = 1000
  overshootCutoff_pos : 0 < target.overshootCutoffC
  warmupReenter_nonneg : 0 ≤ target.warmupReenterErrorC

theorem hundredths_nonneg (centi : UInt16) : 0 ≤ hundredths centi := by
  unfold hundredths
  positivity

theorem hundredths_pos {centi : UInt16} (h : 1 ≤ centi) : 0 < hundredths centi := by
  have hpos : 0 < centi.toNat := UInt16.le_iff_toNat_le.mp h
  unfold hundredths
  positivity

/-- A stored number of hundredths survives the way through the fraction. -/
theorem toCenti_hundredths (centi : UInt16) : toCenti (hundredths centi) = centi := by
  have hlt : centi.toNat < 65536 := centi.toNat_lt
  have hexact : hundredths centi * 100 = (centi.toNat : ℚ) := by
    unfold hundredths
    ring
  have hfloor : asU16 (centi.toNat : ℚ) = centi.toNat := by
    simp only [asU16, Int.floor_natCast, Int.toNat_natCast]
    omega
  rw [toCenti, hexact, hfloor, ofNatU16, min_eq_left (by omega)]
  exact UInt16.ofNat_toNat

theorem sanitizedSettings_cutoff (settings : ThermalControlProfileSettings) :
    1 ≤ toCenti settings.sanitized.overshootCutoffC := by
  simp only [ThermalControlProfileSettings.sanitized, ThermalControlProfileSettings.ofConfig,
    toCenti_hundredths]
  exact Memory.le_clamp (by decide)

theorem one_le_sanitizeInherited {value hi : UInt16} (hvalue : 1 ≤ value) (hhi : 1 ≤ hi) :
    1 ≤ sanitizeInherited value hi := by
  have hne : value ≠ 0 := by rintro rfl; exact absurd hvalue (by decide)
  rw [sanitizeInherited, if_neg hne, atMost]
  split_ifs
  · exact hvalue
  · exact hhi

theorem one_le_inherit {value setting : UInt16} (h : 1 ≤ setting) : 1 ≤ inherit value setting := by
  unfold inherit
  split_ifs with hzero
  · exact h
  · rw [UInt16.le_iff_toNat_le]
    have : value.toNat ≠ 0 := fun heq => hzero (UInt16.toNat_inj.mp (by simpa using heq))
    change 1 ≤ value.toNat
    omega

variable {settings : ThermalControlProfileSettings}

theorem completedPoint_cutoff
    (hsettings : 1 ≤ toCenti settings.overshootCutoffC) (point : ThermalControlProfilePoint) :
    1 ≤ (completedPoint settings point).overshootCutoffCentiC :=
  one_le_sanitizeInherited (one_le_inherit hsettings) (by decide)

theorem dense_cutoff (profile : ThermalControlProfile) {point : ThermalControlProfilePoint}
    (h : point ∈ dense profile.sanitized.points.toList) :
    1 ≤ point.overshootCutoffCentiC := by
  rw [dense, List.mem_mergeSort, List.mem_map] at h
  obtain ⟨before, hbefore, rfl⟩ := h
  refine one_le_sanitizeInherited ?_ (by decide)
  rw [List.mem_filterMap] at hbefore
  obtain ⟨slot, hslot, hid⟩ := hbefore
  obtain rfl : slot = some before := hid
  simp only [sanitized, Vector.toList_map, List.mem_map] at hslot
  obtain ⟨stored, -, hstored⟩ := hslot
  obtain ⟨kept, rfl, rfl⟩ := Option.map_eq_some_iff.mp hstored
  exact completedPoint_cutoff (sanitizedSettings_cutoff profile.settings) kept

theorem bracket_mem {target : ℤ} {lower upper : ThermalControlProfilePoint}
    {points all : List ThermalControlProfilePoint} (hlower : lower ∈ all) (hupper : upper ∈ all)
    (hpoints : points ⊆ all) :
    (bracket target lower upper points).1 ∈ all ∧
      (bracket target lower upper points).2 ∈ all := by
  induction points generalizing lower with
  | nil => exact ⟨hlower, hupper⟩
  | cons point points ih =>
    rw [List.cons_subset] at hpoints
    have hnext : (if point.targetTempC.toInt ≤ target then point else lower) ∈ all := by
      split_ifs
      · exact hpoints.1
      · exact hlower
    unfold bracket
    by_cases hreached : target ≤ point.targetTempC.toInt
    · simp only [hreached, if_true]
      exact ⟨hnext, hpoints.1⟩
    · simp only [hreached, if_false]
      exact ih hnext hpoints.2

/-- A value between two positive numbers of hundredths is positive, rounding included. -/
theorem interpolateU16_pos {left right : UInt16} {ratio : ℚ} {upperBound : ℕ}
    (hleft : 1 ≤ left) (hright : 1 ≤ right) (hlo : 0 ≤ ratio) (hhi : ratio ≤ 1)
    (hbound : 1 ≤ upperBound) : 0 < interpolateU16 left right ratio upperBound := by
  have hleft' : (1 : ℚ) ≤ left.toNat := by exact_mod_cast UInt16.le_iff_toNat_le.mp hleft
  have hright' : (1 : ℚ) ≤ right.toNat := by exact_mod_cast UInt16.le_iff_toNat_le.mp hright
  have hvalue : 1 ≤ (left.toNat : ℚ) + (right.toNat - left.toNat) * ratio + 1 / 2 := by
    nlinarith
  have hclamped : (1 : ℚ) ≤ clampQ (left.toNat + (right.toNat - left.toNat) * ratio + 1 / 2) 0
      upperBound :=
    le_max_of_le_right (le_min hvalue (by exact_mod_cast hbound))
  have hfloor : 1 ≤ ⌊clampQ ((left.toNat : ℚ) + (right.toNat - left.toNat) * ratio + 1 / 2) 0
      upperBound⌋ := Int.le_floor.mpr (by exact_mod_cast hclamped)
  unfold interpolateU16 asU16
  omega

theorem qualified_default {targetTempC : ℤ} (hreenter : 0 ≤ settings.warmupReenterErrorC) :
    Qualified (defaultThermalControlTargetWithSettings targetTempC settings) where
  warmupPower := rfl
  overshootCutoff_pos := by
    simp only [defaultThermalControlTargetWithSettings, defaultHoldParameters, byRange]
    split_ifs <;> norm_num
  warmupReenter_nonneg := hreenter

theorem qualified_direct {point : ThermalControlProfilePoint}
    (h : 1 ≤ point.overshootCutoffCentiC) :
    Qualified (directThermalControlTarget point settings) where
  warmupPower := rfl
  overshootCutoff_pos := hundredths_pos h
  warmupReenter_nonneg := hundredths_nonneg _

theorem qualified_interpolate {target : ℤ} {lower upper : ThermalControlProfilePoint}
    (hlower : 1 ≤ lower.overshootCutoffCentiC)
    (hupper : 1 ≤ upper.overshootCutoffCentiC) :
    Qualified (interpolateThermalControlTarget target lower upper settings) := by
  unfold interpolateThermalControlTarget
  split_ifs
  · exact qualified_direct hlower
  · refine ⟨rfl, ?_, ?_⟩
    · exact div_pos (Nat.cast_pos.mpr (interpolateU16_pos hlower hupper (le_clampQ _ 0 1)
        (clampQ_le zero_le_one) (by norm_num))) (by norm_num)
    · exact div_nonneg (Nat.cast_nonneg _) (by norm_num)

/-- Every profile gives a qualified control target, at every temperature. -/
theorem qualified_controlTarget (profile : ThermalControlProfile) (targetTempC : ℤ) :
    Qualified (profile.controlTarget targetTempC) := by
  have hreenter : 0 ≤ profile.sanitized.settings.warmupReenterErrorC := hundredths_nonneg _
  unfold controlTarget
  simp only
  split
  · rename_i first last hfirst hlast
    have hfirst' := List.mem_of_head? hfirst
    have hlast' := List.mem_of_getLast? hlast
    by_cases hout : clampTarget targetTempC < first.targetTempC.toInt ∨
        last.targetTempC.toInt < clampTarget targetTempC
    · rw [if_pos hout]
      exact qualified_default hreenter
    · rw [if_neg hout]
      obtain ⟨hlower, hupper⟩ := bracket_mem hfirst' hlast'
        (List.Subset.refl _)
      exact qualified_interpolate (dense_cutoff profile hlower) (dense_cutoff profile hupper)
  · exact qualified_default hreenter

theorem qualified_controlTargetFor (profile : Option ThermalControlProfile) (targetTempC : ℤ) :
    Qualified (controlTargetFor profile targetTempC) := by
  cases profile with
  | none => exact qualified_default (hundredths_nonneg _)
  | some profile => exact qualified_controlTarget profile targetTempC

end FluxPurr.Thermal
