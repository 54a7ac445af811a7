import FluxPurr.Memory.Profile
import FluxPurr.Wire.Bytes
import FluxPurr.Wire.BitStream

/-!
# The stored form of a thermal control profile

Profiles are written in one layout, `TCP3`: a marker, seven global settings and
28 bytes for each point, whose twenty fields are packed bit by bit.  They are
read in every layout that ever was written: `TCP3`, the marked `TCP2` layout, the
unmarked layouts of `thermalProfileLegacyLayouts`, each a settings length and a
point length, and the point-only layouts, which always hold ten points.

Unmarked layouts are told apart by the length of the record alone
(`profileSizeMatches`), in the order of the lists.
-/

namespace FluxPurr.Memory

open FluxPurr.Wire

abbrev presetNoneWireValue : Int16 := -32768
abbrev calibrationNoneWireValue : UInt16 := 65535

/-- `*b"TCP2"`. -/
def layoutMarker : List UInt8 := [0x54, 0x43, 0x50, 0x32]

/-- `*b"TCP3"`. -/
def packedLayoutMarker : List UInt8 := [0x54, 0x43, 0x50, 0x33]

abbrev layoutMarkerLen : ℕ := 4
abbrev packedPointPayloadLen : ℕ := 28

abbrev settingsPayloadLenLegacy : ℕ := 20
abbrev settingsPayloadLenWithApproachMinRatio : ℕ := 22
abbrev settingsPayloadLenWithLeadTicks : ℕ := 28
abbrev settingsPayloadLenWithHoldReheat : ℕ := 30
abbrev settingsPayloadLenPrevious : ℕ := 36
abbrev settingsPayloadLen : ℕ := 34
abbrev settingsPayloadLenWithGlobalsOnly : ℕ := 14

abbrev pointPayloadLenLegacy : ℕ := 8
abbrev pointPayloadLenWithLeadTicks : ℕ := 28
abbrev pointPayloadLenWithHoldReheat : ℕ := 30
abbrev pointPayloadLenWithWarmup : ℕ := 32
abbrev pointPayloadLen : ℕ := 34
abbrev pointPayloadLenWithPointHoldOn : ℕ := 36
abbrev pointPayloadLenWithPointWarmupReenter : ℕ := 38

/-- Where the points of a marked layout start. -/
abbrev markedSettingsEnd : ℕ := layoutMarkerLen + settingsPayloadLenWithGlobalsOnly

/-! ## Writing -/

def encodeThermalControlProfileSettings (settings : ThermalControlProfileSettingsConfig) :
    List UInt8 :=
  [settings.tempFilterAlphaPermille, settings.approachMaxTicks,
    settings.approachMinPowerRatioPermille, settings.autoAdjustableWorkingFloorMv,
    settings.heaterCurrentReserveMa, 0, 0].flatMap u16Le

def packedPointValues (point : ThermalControlProfilePointConfig) : List UInt16 :=
  [(clampTempC point.targetTempC).toUInt16,
   clamp point.brakeDistanceCentiC brakeDistanceMinCentiC 5000,
   atMost point.warmupPowerPermille 1000,
   atMost point.approachPowerPermille 1000,
   atMost point.approachFloorPowerPermille 1000,
   clamp point.approachDampingExponentPermille 100 approachDampingExponentPermilleMax,
   atMost point.approachTailWindowCentiC approachTailWindowCentiCMax,
   atMost point.holdPowerPermille 1000,
   atMost point.holdReheatPowerPermille 1000,
   atMost point.holdEntryCentiC 5000,
   atMost point.holdExitCentiC 5000,
   atMost point.holdOnCentiC 5000,
   atMost point.holdOffCentiC 5000,
   atMost point.overshootCutoffCentiC 5000,
   atMost point.holdKpPermillePerC 10000,
   atMost point.holdKiPermillePerCTick 10000,
   atMost point.holdBlendTicks approachMaxTicksMax,
   atMost point.approachLeadTicks approachMaxTicksMax,
   atMost point.holdLeadTicks approachMaxTicksMax,
   clamp point.warmupReenterCentiC 50 5000]

def packedPointWidths : List ℕ :=
  [9, 13, 10, 10, 10, 12, 9, 10, 10, 13, 13, 13, 13, 13, 14, 14, 8, 8, 8, 13]

def encodePackedProfilePoint (point : ThermalControlProfilePointConfig) : List UInt8 :=
  writeFields (List.replicate packedPointPayloadLen 0) 0
    (((packedPointValues point).map UInt16.toNat).zip packedPointWidths)

def encodeThermalControlProfile (config : ThermalControlProfileConfig) : List UInt8 :=
  packedLayoutMarker ++ (encodeThermalControlProfileSettings config.settings ++
    ((present config.points).take profileMaxPoints).flatMap encodePackedProfilePoint)

/-! ## Reading the settings -/

variable (bytes : List UInt8)

/-- The first eighteen numbers of the settings; the ones that are not there are
zero. -/
def profileSettingsValue (index : ℕ) : UInt16 :=
  if index * 2 + 1 < bytes.length then readU16 bytes (index * 2) else 0

/-- Only the five global settings are stored; the others keep their defaults. -/
def decodeGlobalProfileSettings (value : ℕ → UInt16) : ThermalControlProfileSettingsConfig :=
  { tempFilterAlphaPermille := value 0
    approachMaxTicks := value 1
    approachMinPowerRatioPermille := value 2
    autoAdjustableWorkingFloorMv :=
      clamp (value 3) autoAdjustableWorkingFloorMvMin autoAdjustableWorkingFloorMvMax
    heaterCurrentReserveMa := atMost (value 4) heaterCurrentReserveMaMax }

def decodeExtendedProfileSettings (len : ℕ) (value : ℕ → UInt16)
    (previousLayoutWithExtraField : Bool) : ThermalControlProfileSettingsConfig :=
  let default : ThermalControlProfileSettingsConfig := {}
  let hasApproachMinRatio : Bool := settingsPayloadLenWithApproachMinRatio ≤ len
  { tempFilterAlphaPermille := value 0
    warmupReenterCentiC := value 1
    holdEntryCentiC := value 2
    holdExitCentiC := value 3
    holdOnCentiC := value 4
    holdOffCentiC := value 5
    overshootCutoffCentiC := value 6
    approachMaxTicks := value 7
    approachMinPowerRatioPermille :=
      if hasApproachMinRatio then value 8 else default.approachMinPowerRatioPermille
    holdKpPermillePerC := if hasApproachMinRatio then value 9 else value 8
    holdKiPermillePerCTick := if hasApproachMinRatio then value 10 else value 9
    holdBlendTicks :=
      if settingsPayloadLenWithLeadTicks ≤ len then value 11 else default.holdBlendTicks
    holdReheatPowerPermille :=
      if settingsPayloadLenWithHoldReheat ≤ len then atMost (value 12) 1000
      else default.holdReheatPowerPermille
    approachLeadTicks :=
      if settingsPayloadLenWithHoldReheat ≤ len then atMost (value 13) approachMaxTicksMax
      else if settingsPayloadLenWithLeadTicks ≤ len then atMost (value 12) approachMaxTicksMax
      else default.approachLeadTicks
    holdLeadTicks :=
      if settingsPayloadLenWithHoldReheat ≤ len then atMost (value 14) approachMaxTicksMax
      else if settingsPayloadLenWithLeadTicks ≤ len then atMost (value 13) approachMaxTicksMax
      else default.holdLeadTicks
    autoAdjustableWorkingFloorMv :=
      if settingsPayloadLenPrevious ≤ len ∨ previousLayoutWithExtraField then
        clamp (value 16) autoAdjustableWorkingFloorMvMin autoAdjustableWorkingFloorMvMax
      else if settingsPayloadLen ≤ len then
        clamp (value 15) autoAdjustableWorkingFloorMvMin autoAdjustableWorkingFloorMvMax
      else default.autoAdjustableWorkingFloorMv
    heaterCurrentReserveMa :=
      if settingsPayloadLenPrevious ≤ len then atMost (value 17) heaterCurrentReserveMaMax
      else if settingsPayloadLen ≤ len ∧ ¬ previousLayoutWithExtraField then
        atMost (value 16) heaterCurrentReserveMaMax
      else default.heaterCurrentReserveMa }

def decodeThermalControlProfileSettings : ThermalControlProfileSettingsConfig :=
  let value := profileSettingsValue bytes
  if bytes.length = settingsPayloadLenWithGlobalsOnly then
    decodeGlobalProfileSettings value
  else
    let previousLayoutWithExtraField : Bool := bytes.length = settingsPayloadLen ∧
      (value 15 < autoAdjustableWorkingFloorMvMin ∨
        value 15 < 6100 ∧ heaterCurrentReserveMaMax < value 16)
    decodeExtendedProfileSettings bytes.length value previousLayoutWithExtraField

/-! ## Reading a point -/

def decodePackedProfilePoint (packed : List UInt8) : ThermalControlProfilePointConfig :=
  let value := fun index => UInt16.ofNat ((readFields packed 0 packedPointWidths).getD index 0)
  { targetTempC := (value 0).toInt16
    brakeDistanceCentiC := value 1
    warmupPowerPermille := value 2
    approachPowerPermille := value 3
    approachFloorPowerPermille := value 4
    approachDampingExponentPermille := value 5
    approachTailWindowCentiC := value 6
    holdPowerPermille := value 7
    holdReheatPowerPermille := value 8
    holdEntryCentiC := value 9
    holdExitCentiC := value 10
    holdOnCentiC := value 11
    holdOffCentiC := value 12
    overshootCutoffCentiC := value 13
    holdKpPermillePerC := value 14
    holdKiPermillePerCTick := value 15
    holdBlendTicks := value 16
    approachLeadTicks := value 17
    holdLeadTicks := value 18
    warmupReenterCentiC := value 19 }

def legacyApproachFloorPower (approachPower holdPower ratioPermille : UInt16) : UInt16 :=
  let scaled :=
    ((atMost approachPower 1000).toUInt32 * (atMost ratioPermille 1000).toUInt32 + 500) / 1000
  let scaled : UInt16 := if scaled ≤ 1000 then scaled.toUInt16 else 1000
  if atMost holdPower 1000 ≤ scaled then scaled else atMost holdPower 1000

/-- `read_profile_u16`. -/
def readProfileU16 (cursor offset : ℕ) : UInt16 := readU16 bytes (cursor + offset)

/-- The point lengths that store the approach power and the approach damping. -/
def hasPointApproach (pointLen : ℕ) : Bool :=
  pointLen = pointPayloadLenWithPointWarmupReenter ∨ pointLen = pointPayloadLenWithPointHoldOn ∨
    pointLen = pointPayloadLen

variable (cursor pointLen : ℕ)

/-- Warm-up power and approach power. -/
def decodeProfileApproach : UInt16 × UInt16 :=
  if hasPointApproach pointLen then
    (readProfileU16 bytes cursor 4, readProfileU16 bytes cursor 6)
  else
    (readProfileU16 bytes cursor 4, readProfileU16 bytes cursor 4)

/-- Approach floor, damping and hold power. -/
def decodeProfilePower (approachPower : UInt16)
    (settings : ThermalControlProfileSettingsConfig) : UInt16 × UInt16 × UInt16 :=
  if hasPointApproach pointLen then
    (readProfileU16 bytes cursor 8,
      clamp (readProfileU16 bytes cursor 10 &&& approachDampingValueMask) 100
        approachDampingExponentPermilleMax,
      readProfileU16 bytes cursor 12)
  else if pointLen = pointPayloadLenWithWarmup then
    (readProfileU16 bytes cursor 8, approachDampingExponentPermilleDefault,
      readProfileU16 bytes cursor 10)
  else if pointLen = pointPayloadLenWithHoldReheat then
    (readProfileU16 bytes cursor 6, approachDampingExponentPermilleDefault,
      readProfileU16 bytes cursor 8)
  else
    (legacyApproachFloorPower approachPower (readProfileU16 bytes cursor 6)
        settings.approachMinPowerRatioPermille,
      approachDampingExponentPermilleDefault, readProfileU16 bytes cursor 6)

/-- Where each point length stores the twelve values that older layouts left to
the settings. -/
def profileHoldOffsets (pointLen : ℕ) : List (Option ℕ) :=
  if pointLen = pointPayloadLenWithPointWarmupReenter then
    [some 14, some 16, some 18, some 20, some 22, some 24, some 26, some 28, some 30, some 32,
      some 34, some 36]
  else if pointLen = pointPayloadLenWithPointHoldOn then
    [some 14, some 16, some 18, some 20, some 22, some 24, some 26, some 28, some 30, some 32,
      some 34, none]
  else if pointLen = pointPayloadLen then
    [some 14, some 16, some 18, none, some 20, some 22, some 24, some 26, some 28, some 30,
      some 32, none]
  else if pointLen = pointPayloadLenWithWarmup then
    [some 12, some 14, some 16, none, some 18, some 20, some 22, some 24, some 26, some 28,
      some 30, none]
  else if pointLen = pointPayloadLenWithHoldReheat then
    [some 10, some 12, some 14, none, some 16, some 18, some 20, some 22, some 24, some 26,
      some 28, none]
  else if pointLen = pointPayloadLenWithLeadTicks then
    [none, some 10, some 12, none, some 14, some 16, some 18, some 20, some 22, some 24, some 26,
      none]
  else
    List.replicate 12 none

def readProfileHold (cursor pointLen index : ℕ) (fallback : UInt16) : UInt16 :=
  match (profileHoldOffsets pointLen).getD index none with
  | some offset => readProfileU16 bytes cursor offset
  | none => fallback

def decodeProfileTailWindow : UInt16 :=
  if pointLen = pointPayloadLenWithPointWarmupReenter ∨
      pointLen = pointPayloadLenWithPointHoldOn then
    (readProfileU16 bytes cursor 10 >>> 12) * approachTailWindowStepCentiC
  else
    0

def decodeLegacyProfilePoint
    (settings : ThermalControlProfileSettingsConfig) : Option ThermalControlProfilePointConfig :=
  let target := readI16 bytes cursor
  let brakeDistance := readU16 bytes (cursor + 2)
  let (warmupPower, approachPower) := decodeProfileApproach bytes cursor pointLen
  let (approachFloor, damping, holdPower) :=
    decodeProfilePower bytes cursor pointLen approachPower settings
  let hold := readProfileHold bytes cursor pointLen
  if target = presetNoneWireValue ∨ brakeDistance = calibrationNoneWireValue ∨
      approachPower = calibrationNoneWireValue ∨ approachFloor = calibrationNoneWireValue ∨
      holdPower = calibrationNoneWireValue then
    none
  else
    some
      { targetTempC := target
        brakeDistanceCentiC := brakeDistance
        warmupPowerPermille := warmupPower
        warmupReenterCentiC := hold 11 settings.warmupReenterCentiC
        approachPowerPermille := approachPower
        approachFloorPowerPermille := approachFloor
        approachDampingExponentPermille := damping
        approachTailWindowCentiC := decodeProfileTailWindow bytes cursor pointLen
        holdPowerPermille := holdPower
        holdReheatPowerPermille := hold 0 settings.holdReheatPowerPermille
        holdEntryCentiC := hold 1 settings.holdEntryCentiC
        holdExitCentiC := hold 2 settings.holdExitCentiC
        holdOnCentiC := hold 3 settings.holdOnCentiC
        holdOffCentiC := hold 4 settings.holdOffCentiC
        overshootCutoffCentiC := hold 5 settings.overshootCutoffCentiC
        holdKpPermillePerC := hold 6 settings.holdKpPermillePerC
        holdKiPermillePerCTick := hold 7 settings.holdKiPermillePerCTick
        holdBlendTicks := hold 8 settings.holdBlendTicks
        approachLeadTicks := hold 9 settings.approachLeadTicks
        holdLeadTicks := hold 10 settings.holdLeadTicks }

/-! ## Telling the layouts apart -/

/-- Settings length and point length of the unmarked layouts, in the order in
which they are tried. -/
def thermalProfileLegacyLayouts : List (ℕ × ℕ) :=
  [(settingsPayloadLenPrevious, pointPayloadLenWithPointHoldOn),
   (settingsPayloadLen, pointPayloadLenWithPointHoldOn),
   (settingsPayloadLen, pointPayloadLen),
   (settingsPayloadLen, pointPayloadLenWithWarmup),
   (settingsPayloadLenWithHoldReheat, pointPayloadLenWithHoldReheat),
   (settingsPayloadLenWithHoldReheat, pointPayloadLenWithWarmup),
   (settingsPayloadLenWithLeadTicks, pointPayloadLenWithLeadTicks),
   (settingsPayloadLenWithLeadTicks, pointPayloadLenWithWarmup),
   (settingsPayloadLenWithHoldReheat, pointPayloadLenLegacy),
   (settingsPayloadLen, pointPayloadLenLegacy),
   (settingsPayloadLenWithLeadTicks, pointPayloadLenLegacy),
   (settingsPayloadLenLegacy, pointPayloadLenLegacy),
   (settingsPayloadLenWithGlobalsOnly, pointPayloadLenWithPointWarmupReenter)]

/-- The point lengths of the layouts that hold ten points and nothing else. -/
def thermalProfilePointOnlyLayouts : List ℕ :=
  [pointPayloadLenWithPointWarmupReenter, pointPayloadLenWithPointHoldOn, pointPayloadLen,
    pointPayloadLenWithWarmup, pointPayloadLenWithHoldReheat, pointPayloadLenWithLeadTicks]

def profileSizeMatches (len settingsLen pointLen : ℕ) : Prop :=
  settingsLen ≤ len ∧ (len - settingsLen) % pointLen = 0 ∧
    (len - settingsLen) / pointLen ≤ profileMaxPoints

instance (len settingsLen pointLen : ℕ) : Decidable (profileSizeMatches len settingsLen pointLen) :=
  inferInstanceAs (Decidable (_ ∧ _))

/-- The settings of a marked layout. -/
def decodeMarkedSettings : ThermalControlProfileSettingsConfig :=
  decodeThermalControlProfileSettings
    ((bytes.drop layoutMarkerLen).take settingsPayloadLenWithGlobalsOnly)

def decodePackedThermalProfile : Option ThermalControlProfileConfig :=
  if ¬ profileSizeMatches bytes.length markedSettingsEnd packedPointPayloadLen then
    none
  else
    let count := (bytes.length - markedSettingsEnd) / packedPointPayloadLen
    some
      { settings := decodeMarkedSettings bytes
        points := fillSlots none profileMaxPoints ((List.range count).map fun index =>
          some (decodePackedProfilePoint
            ((bytes.drop (markedSettingsEnd + packedPointPayloadLen * index)).take
              packedPointPayloadLen))) }

/-- `bytes.starts_with(marker)`. -/
def startsWith (bytes marker : List UInt8) : Prop := bytes.take marker.length = marker

instance (bytes marker : List UInt8) : Decidable (startsWith bytes marker) :=
  inferInstanceAs (Decidable (_ = _))

/-- The settings, the start of the points and the length of a point. -/
def decodeLegacyProfileLayout : ThermalControlProfileSettingsConfig × ℕ × ℕ :=
  if startsWith bytes layoutMarker ∧
      profileSizeMatches bytes.length markedSettingsEnd pointPayloadLenWithPointWarmupReenter then
    (decodeMarkedSettings bytes, markedSettingsEnd, pointPayloadLenWithPointWarmupReenter)
  else
    match thermalProfileLegacyLayouts.find? fun layout =>
      profileSizeMatches bytes.length layout.1 layout.2 with
    | some (settingsLen, pointLen) =>
        (decodeThermalControlProfileSettings (bytes.take settingsLen), settingsLen, pointLen)
    | none =>
        match thermalProfilePointOnlyLayouts.find? fun pointLen =>
          bytes.length = profileMaxPoints * pointLen with
        | some pointLen => ({}, 0, pointLen)
        | none => ({}, 0, pointPayloadLenLegacy)

/-- The points of a legacy layout. -/
def decodeLegacyProfilePoints
    (settings : ThermalControlProfileSettingsConfig) (cursor pointLen count : ℕ) :
    Vector (Option ThermalControlProfilePointConfig) profileMaxPoints :=
  fillSlots none profileMaxPoints ((List.range count).map fun index =>
    decodeLegacyProfilePoint bytes (cursor + pointLen * index) pointLen settings)

def decodeThermalControlProfile : ThermalControlProfileConfig :=
  match decodePackedThermalProfile bytes with
  | some config => config
  | none =>
      let (settings, cursor, pointLen) := decodeLegacyProfileLayout bytes
      let count := min ((bytes.length - cursor) / pointLen) profileMaxPoints
      { settings := settings
        points := decodeLegacyProfilePoints bytes settings cursor pointLen count }

/-- The layouts a record may have to be accepted by the configuration decoder.
Here, unlike in `decodePackedThermalProfile`, a packed profile needs its marker. -/
def isSupportedThermalControlProfile : Prop :=
  startsWith bytes packedLayoutMarker ∧
      profileSizeMatches bytes.length markedSettingsEnd packedPointPayloadLen ∨
    startsWith bytes layoutMarker ∧
      profileSizeMatches bytes.length markedSettingsEnd pointPayloadLenWithPointWarmupReenter ∨
    (∃ layout ∈ thermalProfileLegacyLayouts, profileSizeMatches bytes.length layout.1 layout.2) ∨
    ∃ pointLen ∈ thermalProfilePointOnlyLayouts, bytes.length = profileMaxPoints * pointLen

instance (bytes : List UInt8) : Decidable (isSupportedThermalControlProfile bytes) :=
  inferInstanceAs (Decidable (_ ∨ _))

end FluxPurr.Memory
