import FluxPurr.Wire.BitField
import FluxPurr.Wire.Bytes
import FluxPurr.Wire.Slots

/-!
# Supply boundaries

A supply boundary is the record of a PPS supply scan: the identity of the source
and up to `maxBoundaryPoints` observed operating points.  `SupplyBoundary.IsValid`
is the check every boundary passes before it is stored and after it is read, and
`encode`/`decode` are its compact form: a header of `boundaryHeaderBytes` bytes,
then `boundaryPointBytes` bytes for each point, eight fields ored into one
88-bit word.

The current of a point has three codes.  Regular points store their current in
steps of 100 mA; a 3 A tracking point and a terminal tracking point have a code
each, and the current of the latter is computed again from the power limit of
the header (`terminalTrackingCurrentMa`).
-/

namespace FluxPurr.Supply

open FluxPurr.Wire

def maxBoundaryPoints : ℕ := 41
def minHeatedCurrentMa : UInt16 := 2000
def boundaryFormatVersion : UInt8 := 6
def boundaryPointBytes : ℕ := 11
def boundaryHeaderBytes : ℕ := 26
def boundaryMaxBytes : ℕ := boundaryHeaderBytes + maxBoundaryPoints * boundaryPointBytes
def terminalTrackingCurrentCode : UInt16 := 30
def threeAmpTrackingCurrentCode : UInt16 := 31

def terminalTrackingCurrentMa (sourcePowerLimitMw : UInt32) (requestMv : UInt16) : Option UInt16 :=
  if sourcePowerLimitMw = 0 ∨ requestMv = 0 then
    none
  else
    let currentMa := (sourcePowerLimitMw * 1000 / requestMv.toUInt32).toUInt16 / 50 * 50
    if 1000 ≤ currentMa then some currentMa else none

structure BoundaryAdcMetadata where
  dividerSupplyMv : UInt16 := 0
  referenceMv : UInt16 := 0
  referenceCode : UInt16 := 0
  initCode : UInt16 := 0
  efuseVersion : UInt8 := 0
  attenuationDb : UInt8 := 0
deriving DecidableEq, Repr

structure BoundaryPoint where
  elapsedMs : UInt32 := 0
  rtdCode : UInt16 := 0
  rtdMv : UInt16 := 0
  vinCode : UInt16 := 0
  vinMv : UInt16 := 0
  requestCurrentMa : UInt16 := 0
  trackingRequestMv : UInt16 := 0
  /-- Zero means no flat response was observed before the probe ended. -/
  flatRequestMv : UInt16 := 0
  /-- A transient 3 A tracking observation, distinct from a thermal equilibrium. -/
  trackingOnly : Bool := false
deriving DecidableEq, Repr

structure SupplyBoundary where
  adc : BoundaryAdcMetadata := {}
  wifiStarted : Bool := false
  cutoffReached : Bool := false
  sourceMinMv : UInt16 := 0
  sourceMaxMv : UInt16 := 0
  sourceMaxMa : UInt16 := 0
  /-- Zero means that the source advertised no usable Fixed PDO. -/
  sourcePowerLimitMw : UInt32 := 0
  advertisedMinMv : UInt16 := 0
  advertisedMaxMv : UInt16 := 0
  pointCount : UInt8 := 0
  points : Vector BoundaryPoint maxBoundaryPoints := Vector.replicate maxBoundaryPoints {}
deriving DecidableEq, Repr

namespace SupplyBoundary

variable (boundary : SupplyBoundary)

/-- `points[..point_count]`. -/
def recorded : List BoundaryPoint := boundary.points.toList.take boundary.pointCount.toNat

/-- The slots past the point count hold the default point. -/
def TailIsDefault : Prop :=
  ∀ point ∈ boundary.points.toList.drop boundary.pointCount.toNat, point = {}

instance (boundary : SupplyBoundary) : Decidable boundary.TailIsDefault :=
  inferInstanceAs (Decidable (∀ point ∈ List.drop _ _, _))

def TerminalTracking (point : BoundaryPoint) : Prop :=
  point.trackingOnly = true ∧ boundary.sourceMaxMv < point.trackingRequestMv ∧
    point.trackingRequestMv ≤ boundary.advertisedMaxMv ∧
    terminalTrackingCurrentMa boundary.sourcePowerLimitMw point.trackingRequestMv =
      some point.requestCurrentMa

instance (boundary : SupplyBoundary) (point : BoundaryPoint) :
    Decidable (boundary.TerminalTracking point) :=
  inferInstanceAs (Decidable (_ ∧ _))

/-- The check `is_valid` makes of each recorded point. -/
@[mk_iff]
structure PointValid (boundary : SupplyBoundary) (point : BoundaryPoint) : Prop where
  voltage : boundary.TerminalTracking point ∨
    ((minHeatedCurrentMa ≤ point.requestCurrentMa ∧ point.requestCurrentMa ≤ 3000) ∧
      point.requestCurrentMa % 100 = 0) ∧
    boundary.sourceMinMv ≤ point.trackingRequestMv ∧
    point.trackingRequestMv ≤ boundary.sourceMaxMv
  trackingStep : point.trackingRequestMv % 100 = 0
  flat : point.flatRequestMv = 0 ∨
    point.trackingRequestMv < point.flatRequestMv ∧ point.flatRequestMv ≤ boundary.sourceMaxMv
  rtdCode : point.rtdCode ≤ 4095
  vinCode : point.vinCode ≤ 4095
  rtdMvPos : 0 < point.rtdMv
  vinMvPos : 0 < point.vinMv
  rtdMv : point.rtdMv ≤ 4095
  vinMv : point.vinMv ≤ 4095
  elapsed : point.elapsedMs / 50 < 524288
  elapsedStep : point.elapsedMs % 50 = 0
  trackingCurrent : point.trackingOnly = false ∨ point.requestCurrentMa = 3000 ∨
    boundary.TerminalTracking point

instance (boundary : SupplyBoundary) (point : BoundaryPoint) :
    Decidable (boundary.PointValid point) :=
  decidable_of_iff _ (pointValid_iff boundary point).symm

/-- `is_valid`: the header describes a plausible source and every recorded point
was observed within it. -/
@[mk_iff]
structure IsValid (boundary : SupplyBoundary) : Prop where
  pointCountPos : 1 ≤ boundary.pointCount
  pointCountLe : boundary.pointCount ≤ 41
  dividerSupply : 3000 ≤ boundary.adc.dividerSupplyMv ∧ boundary.adc.dividerSupplyMv ≤ 3600
  sourceMin : 5500 ≤ boundary.sourceMinMv
  sourceMax : boundary.sourceMaxMv ≤ 21000
  sourceRange : boundary.sourceMinMv ≤ boundary.sourceMaxMv
  advertisedMinPos : 0 < boundary.advertisedMinMv
  advertisedMin : boundary.advertisedMinMv ≤ boundary.sourceMinMv
  advertisedMax : boundary.sourceMaxMv ≤ boundary.advertisedMaxMv
  sourceMaxMa : boundary.sourceMaxMa = 3000
  powerLimit : boundary.sourcePowerLimitMw = 0 ∨
    (16500 ≤ boundary.sourcePowerLimitMw ∧ boundary.sourcePowerLimitMw ≤ 105000) ∧
      boundary.sourcePowerLimitMw % 10 = 0
  points : ∀ point ∈ boundary.recorded, boundary.PointValid point

instance (boundary : SupplyBoundary) : Decidable boundary.IsValid :=
  decidable_of_iff _ (isValid_iff boundary).symm

end SupplyBoundary

/-! ## The compact form -/

/-- The current code of a point: which of the three kinds of current it has. -/
def currentCode (point : BoundaryPoint) : UInt16 :=
  if point.trackingOnly then
    if point.requestCurrentMa = 3000 then threeAmpTrackingCurrentCode
    else terminalTrackingCurrentCode
  else (point.requestCurrentMa - 1000) / 100

/-- The fields of a point with their places in the word. -/
def pointFields (point : BoundaryPoint) : List PlacedField :=
  [⟨(point.elapsedMs / 50).toNat, 0, 19⟩,
   ⟨point.rtdCode.toNat, 19, 12⟩,
   ⟨point.rtdMv.toNat, 31, 12⟩,
   ⟨point.vinCode.toNat, 43, 12⟩,
   ⟨point.vinMv.toNat, 55, 12⟩,
   ⟨(point.trackingRequestMv / 100).toNat, 67, 8⟩,
   ⟨(point.flatRequestMv / 100).toNat, 75, 8⟩,
   ⟨(currentCode point).toNat, 83, 5⟩]

def encodePoint (point : BoundaryPoint) : List UInt8 :=
  leBytes boundaryPointBytes (orFields (pointFields point))

def encodeHeader (boundary : SupplyBoundary) (powerUnits : UInt16) : List UInt8 :=
  [boundaryFormatVersion, boundary.wifiStarted.toUInt8, boundary.pointCount,
    boundary.adc.efuseVersion, boundary.adc.attenuationDb, boundary.cutoffReached.toUInt8] ++
  (u16Le boundary.adc.dividerSupplyMv ++ (u16Le boundary.adc.referenceMv ++
  (u16Le boundary.adc.referenceCode ++ (u16Le boundary.adc.initCode ++
  (u16Le boundary.sourceMinMv ++ (u16Le boundary.sourceMaxMv ++
  (u16Le boundary.sourceMaxMa ++ (u16Le boundary.advertisedMinMv ++
  (u16Le boundary.advertisedMaxMv ++ u16Le powerUnits)))))))))

/-- `u16::try_from`. -/
def tryU16 (value : UInt32) : Option UInt16 := if value ≤ 65535 then some value.toUInt16 else none

/-- The bytes written into a buffer of `capacity` bytes. -/
def encode (boundary : SupplyBoundary) (capacity : ℕ) : Option (List UInt8) :=
  if ¬ boundary.IsValid then
    none
  else if capacity < boundaryHeaderBytes + boundary.pointCount.toNat * boundaryPointBytes then
    none
  else
    (tryU16 (boundary.sourcePowerLimitMw / 10)).map fun powerUnits =>
      encodeHeader boundary powerUnits ++ boundary.recorded.flatMap encodePoint

def decodePoint (sourcePowerLimitMw : UInt32) (packed : ℕ) : Option BoundaryPoint :=
  let current := UInt16.ofNat (bitField packed 83 5)
  if 20 < current ∧ current ≠ terminalTrackingCurrentCode ∧
      current ≠ threeAmpTrackingCurrentCode then
    none
  else
    let trackingRequestMv := UInt16.ofNat (bitField packed 67 8) * 100
    let requestCurrentMa :=
      if current = threeAmpTrackingCurrentCode then some 3000
      else if current = terminalTrackingCurrentCode then
        terminalTrackingCurrentMa sourcePowerLimitMw trackingRequestMv
      else some (1000 + current * 100)
    requestCurrentMa.map fun requestCurrentMa =>
      { elapsedMs := UInt32.ofNat (bitField packed 0 19) * 50
        rtdCode := UInt16.ofNat (bitField packed 19 12)
        rtdMv := UInt16.ofNat (bitField packed 31 12)
        vinCode := UInt16.ofNat (bitField packed 43 12)
        vinMv := UInt16.ofNat (bitField packed 55 12)
        trackingRequestMv := trackingRequestMv
        flatRequestMv := UInt16.ofNat (bitField packed 75 8) * 100
        requestCurrentMa := requestCurrentMa
        trackingOnly := current = terminalTrackingCurrentCode ∨
          current = threeAmpTrackingCurrentCode }

def decodeHeader (bytes : List UInt8) : SupplyBoundary :=
  { adc :=
      { dividerSupplyMv := readU16 bytes 6
        referenceMv := readU16 bytes 8
        referenceCode := readU16 bytes 10
        initCode := readU16 bytes 12
        efuseVersion := byteAt bytes 3
        attenuationDb := byteAt bytes 4 }
    wifiStarted := byteAt bytes 1 = 1
    cutoffReached := byteAt bytes 5 = 1
    sourceMinMv := readU16 bytes 14
    sourceMaxMv := readU16 bytes 16
    sourceMaxMa := readU16 bytes 18
    advertisedMinMv := readU16 bytes 20
    advertisedMaxMv := readU16 bytes 22
    sourcePowerLimitMw := (readU16 bytes 24).toUInt32 * 10
    pointCount := byteAt bytes 2 }

/-- `result.is_valid().then_some(result)`. -/
def checked (result : SupplyBoundary) : Option SupplyBoundary :=
  if result.IsValid then some result else none

/-- The word of point `index`. -/
def packedPointAt (bytes : List UInt8) (index : ℕ) : ℕ :=
  readLe bytes (boundaryHeaderBytes + boundaryPointBytes * index) boundaryPointBytes

def decode (bytes : List UInt8) : Option SupplyBoundary :=
  if bytes.length < boundaryHeaderBytes ∨ byteAt bytes 0 ≠ boundaryFormatVersion ∨
      1 < byteAt bytes 1 ∨ 1 < byteAt bytes 5 ∨ maxBoundaryPoints < (byteAt bytes 2).toNat ∨
      bytes.length ≠ boundaryHeaderBytes + (byteAt bytes 2).toNat * boundaryPointBytes then
    none
  else
    let header := decodeHeader bytes
    let decoded := (List.range header.pointCount.toNat).mapM fun index =>
      decodePoint header.sourcePowerLimitMw (packedPointAt bytes index)
    decoded.bind fun points =>
      checked { header with points := fillSlots {} maxBoundaryPoints points }

end FluxPurr.Supply
