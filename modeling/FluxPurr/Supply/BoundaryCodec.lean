import FluxPurr.Supply.Boundary

/-!
# The supply boundary codec loses no storable point

`is_valid` bounds every field of a point that the packed word has room for, with
two exceptions.  The flat request is stored in steps of 100 mV, but only the
tracking request is checked to be such a step; and a terminal tracking request is
bounded by the advertised range, not by the 25.5 V its eight bits reach.
`Storable` states what is missing.

## Strategy

`decode_encode_iff` compares a valid boundary with what is read back.  A point
survives if its fields fit their bits (`pointFields_fit`), because then the
packed word is well laid out and `bitField_orFields` reads each field.  The other
direction needs no word at all: whatever is decoded is storable
(`storable_of_decodePoint`).
-/

namespace FluxPurr.Supply

open FluxPurr.Wire

/-- The two conditions on a point that the packed word needs and `is_valid` does
not check. -/
def Storable (point : BoundaryPoint) : Prop :=
  point.flatRequestMv % 100 = 0 ∧ point.trackingRequestMv ≤ 25500

instance (point : BoundaryPoint) : Decidable (Storable point) :=
  inferInstanceAs (Decidable (_ ∧ _))

/-! ## The header -/

@[simp] theorem length_encodePoint (point : BoundaryPoint) :
    (encodePoint point).length = boundaryPointBytes := length_leBytes _ _

@[simp] theorem length_encodeHeader (boundary : SupplyBoundary) (powerUnits : UInt16) :
    (encodeHeader boundary powerUnits).length = boundaryHeaderBytes := by
  simp [encodeHeader, boundaryHeaderBytes]

theorem toUInt8_eq_one (flag : Bool) : decide (flag.toUInt8 = 1) = flag := by
  cases flag <;> decide

theorem decodeHeader_encodeHeader (boundary : SupplyBoundary) (powerUnits : UInt16)
    (rest : List UInt8) :
    decodeHeader (encodeHeader boundary powerUnits ++ rest) =
      { boundary with
        sourcePowerLimitMw := powerUnits.toUInt32 * 10
        points := Vector.replicate maxBoundaryPoints {} } := by
  simp only [decodeHeader, encodeHeader, byteAt, List.cons_append, List.nil_append,
    List.append_assoc]
  simp (disch := simp) [readU16_append_right, toUInt8_eq_one]

variable {boundary : SupplyBoundary}

theorem tryU16_powerUnits (h : boundary.IsValid) :
    ∃ powerUnits, tryU16 (boundary.sourcePowerLimitMw / 10) = some powerUnits ∧
      powerUnits.toUInt32 * 10 = boundary.sourcePowerLimitMw := by
  have hlimit : boundary.sourcePowerLimitMw.toNat ≤ 105000 ∧
      boundary.sourcePowerLimitMw.toNat % 10 = 0 := by
    rcases h.powerLimit with hzero | ⟨⟨-, hle⟩, hstep⟩
    · simp [hzero]
    · have hmod : (boundary.sourcePowerLimitMw % 10).toNat = 0 := by rw [hstep]; rfl
      rw [UInt32.toNat_mod] at hmod
      exact ⟨UInt32.le_iff_toNat_le.mp hle, hmod⟩
  have hunits : (boundary.sourcePowerLimitMw / 10).toNat =
      boundary.sourcePowerLimitMw.toNat / 10 := UInt32.toNat_div _ _
  refine ⟨(boundary.sourcePowerLimitMw / 10).toUInt16, ?_, ?_⟩
  · have hle : boundary.sourcePowerLimitMw / 10 ≤ 65535 := by
      rw [UInt32.le_iff_toNat_le, hunits]
      show _ ≤ 65535
      omega
    rw [tryU16, if_pos hle]
  · apply UInt32.toNat_inj.mp
    have hsmall : boundary.sourcePowerLimitMw.toNat / 10 < 2 ^ 16 := by omega
    rw [UInt32.toNat_mul, UInt16.toNat_toUInt32, UInt32.toNat_toUInt16, hunits,
      Nat.mod_eq_of_lt hsmall]
    show boundary.sourcePowerLimitMw.toNat / 10 * 10 % 2 ^ 32 = _
    omega

/-! ## The points -/

theorem packedPointAt_encode (header : List UInt8) (hheader : header.length = boundaryHeaderBytes)
    (points : List BoundaryPoint) {index : ℕ} (hindex : index < points.length) :
    packedPointAt (header ++ points.flatMap encodePoint) index =
      orFields (pointFields points[index]) % 2 ^ 88 := by
  have hread := readLe_flatMap length_encodePoint points hindex 0 boundaryPointBytes (by simp)
  rw [packedPointAt, readLe_append_right (by omega), hheader, Nat.add_sub_cancel_left]
  rw [Nat.add_zero] at hread
  have hpoint := readLe_leBytes boundaryPointBytes (orFields (pointFields points[index])) []
  rw [List.append_nil] at hpoint
  rw [hread, encodePoint, hpoint]
  rfl

theorem toNat_hundreds {n : ℕ} (h : n < 256) : (UInt16.ofNat n * 100).toNat = n * 100 := by
  have hsmall : n < 2 ^ 16 := by omega
  rw [UInt16.toNat_mul, UInt16.toNat_ofNat', Nat.mod_eq_of_lt hsmall]
  show n * 100 % 2 ^ 16 = n * 100
  omega

theorem hundreds_div_mul {value : UInt16} (h : value % 100 = 0) : value / 100 * 100 = value := by
  have hmod : value.toNat % 100 = 0 := by
    rw [← UInt16.toNat_inj, UInt16.toNat_mod] at h
    exact h
  have hlt : value.toNat < 2 ^ 16 := value.toNat_lt
  apply UInt16.toNat_inj.mp
  rw [UInt16.toNat_mul, UInt16.toNat_div]
  show value.toNat / 100 * 100 % 2 ^ 16 = value.toNat
  omega

theorem fifties_div_mul {value : UInt32} (h : value % 50 = 0) : value / 50 * 50 = value := by
  have hmod : value.toNat % 50 = 0 := by
    rw [← UInt32.toNat_inj, UInt32.toNat_mod] at h
    exact h
  have hlt : value.toNat < 2 ^ 32 := value.toNat_lt
  apply UInt32.toNat_inj.mp
  rw [UInt32.toNat_mul, UInt32.toNat_div]
  show value.toNat / 50 * 50 % 2 ^ 32 = value.toNat
  omega

/-- Whatever the packed word is, a decoded point has requests that fit it. -/
theorem storable_of_decodePoint {limit : UInt32} {packed : ℕ} {point : BoundaryPoint}
    (h : decodePoint limit packed = some point) : Storable point := by
  have hflat := bitField_lt packed 75 8
  have htracking := bitField_lt packed 67 8
  simp only [decodePoint] at h
  split at h
  · simp at h
  · obtain ⟨current, -, rfl⟩ := Option.map_eq_some_iff.mp h
    constructor
    · apply UInt16.toNat_inj.mp
      rw [UInt16.toNat_mod, toNat_hundreds hflat]
      show bitField packed 75 8 * 100 % 100 = 0
      omega
    · rw [UInt16.le_iff_toNat_le, toNat_hundreds htracking]
      show bitField packed 67 8 * 100 ≤ 25500
      omega

section ValidPoint

variable {boundary : SupplyBoundary} {point : BoundaryPoint}

/-- A regular point of a valid boundary has a current between 2 A and 3 A in
steps of 100 mA. -/
theorem regular_current (h : boundary.PointValid point) (hregular : point.trackingOnly = false) :
    2000 ≤ point.requestCurrentMa.toNat ∧ point.requestCurrentMa.toNat ≤ 3000 ∧
      point.requestCurrentMa.toNat % 100 = 0 := by
  rcases h.voltage with hterminal | ⟨⟨⟨hmin, hmax⟩, hstep⟩, -, -⟩
  · rw [hterminal.1] at hregular
    simp at hregular
  · have hmod : (point.requestCurrentMa % 100).toNat = 0 := by rw [hstep]; rfl
    rw [UInt16.toNat_mod] at hmod
    exact ⟨UInt16.le_iff_toNat_le.mp hmin, UInt16.le_iff_toNat_le.mp hmax, hmod⟩

theorem currentCode_regular (h : boundary.PointValid point)
    (hregular : point.trackingOnly = false) :
    (currentCode point).toNat = (point.requestCurrentMa.toNat - 1000) / 100 := by
  obtain ⟨hmin, hmax, -⟩ := regular_current h hregular
  have hle : (1000 : UInt16) ≤ point.requestCurrentMa := by
    rw [UInt16.le_iff_toNat_le]
    show 1000 ≤ _
    omega
  have hcode : currentCode point = (point.requestCurrentMa - 1000) / 100 := by
    simp [currentCode, hregular]
  rw [hcode, UInt16.toNat_div, UInt16.toNat_sub_of_le _ _ hle]
  rfl

theorem currentCode_lt (h : boundary.PointValid point) : (currentCode point).toNat < 32 := by
  cases htracking : point.trackingOnly with
  | false =>
    have hcode := currentCode_regular h htracking
    have hcurrent := regular_current h htracking
    omega
  | true =>
    simp only [currentCode, htracking, if_true]
    split <;> decide

theorem pointFields_fit (h : boundary.PointValid point)
    (hmax : boundary.sourceMaxMv ≤ 21000) (hstorable : Storable point) :
    ∀ field ∈ pointFields point, field.Fits := by
  have helapsed : (point.elapsedMs / 50).toNat < 2 ^ 19 := UInt32.lt_iff_toNat_lt.mp h.elapsed
  have hrtdCode : point.rtdCode.toNat ≤ 4095 := UInt16.le_iff_toNat_le.mp h.rtdCode
  have hrtdMv : point.rtdMv.toNat ≤ 4095 := UInt16.le_iff_toNat_le.mp h.rtdMv
  have hvinCode : point.vinCode.toNat ≤ 4095 := UInt16.le_iff_toNat_le.mp h.vinCode
  have hvinMv : point.vinMv.toNat ≤ 4095 := UInt16.le_iff_toNat_le.mp h.vinMv
  have htracking : point.trackingRequestMv.toNat ≤ 25500 := UInt16.le_iff_toNat_le.mp hstorable.2
  have hflat : point.flatRequestMv.toNat ≤ 25500 := by
    rcases h.flat with hzero | ⟨-, hle⟩
    · simp [hzero]
    · have hflat : point.flatRequestMv.toNat ≤ boundary.sourceMaxMv.toNat :=
        UInt16.le_iff_toNat_le.mp hle
      have hsource : boundary.sourceMaxMv.toNat ≤ 21000 := UInt16.le_iff_toNat_le.mp hmax
      omega
  have hcurrent := currentCode_lt h
  have hdivTracking : (point.trackingRequestMv / 100).toNat =
      point.trackingRequestMv.toNat / 100 := UInt16.toNat_div _ _
  have hdivFlat : (point.flatRequestMv / 100).toNat = point.flatRequestMv.toNat / 100 :=
    UInt16.toNat_div _ _
  simp only [pointFields, List.forall_mem_cons, PlacedField.Fits, hdivTracking, hdivFlat]
  refine ⟨helapsed, ?_, ?_, ?_, ?_, ?_, ?_, hcurrent, by simp⟩ <;> norm_num <;> omega

/-- The packed word of a storable point is read back field by field. -/
theorem bitField_packed (h : boundary.PointValid point)
    (hmax : boundary.sourceMaxMv ≤ 21000) (hstorable : Storable point) {field : PlacedField}
    (hfield : field ∈ pointFields point) (hroom : field.shift + field.width ≤ 88) :
    bitField (orFields (pointFields point) % 2 ^ 88) field.shift field.width = field.value := by
  have hapart : (pointFields point).Pairwise PlacedField.Apart := by
    simp [pointFields, PlacedField.Apart]
  rw [bitField_mod hroom]
  exact bitField_orFields (pointFields_fit h hmax hstorable) hapart hfield

/-- The three kinds of current are told apart by their codes, and each kind gives
the current back. -/
theorem decode_current (h : boundary.PointValid point) :
    ¬ (20 < currentCode point ∧ currentCode point ≠ terminalTrackingCurrentCode ∧
      currentCode point ≠ threeAmpTrackingCurrentCode) ∧
    (if currentCode point = threeAmpTrackingCurrentCode then some 3000
      else if currentCode point = terminalTrackingCurrentCode then
        terminalTrackingCurrentMa boundary.sourcePowerLimitMw point.trackingRequestMv
      else some (1000 + currentCode point * 100)) = some point.requestCurrentMa ∧
    decide (currentCode point = terminalTrackingCurrentCode ∨
      currentCode point = threeAmpTrackingCurrentCode) = point.trackingOnly := by
  cases htracking : point.trackingOnly with
  | false =>
    have hcode := currentCode_regular h htracking
    obtain ⟨hmin, hmax, hstep⟩ := regular_current h htracking
    have hle : (currentCode point).toNat ≤ 20 := by omega
    have hterminal : currentCode point ≠ terminalTrackingCurrentCode := by
      intro heq
      rw [heq] at hle
      simp [terminalTrackingCurrentCode] at hle
    have hthree : currentCode point ≠ threeAmpTrackingCurrentCode := by
      intro heq
      rw [heq] at hle
      simp [threeAmpTrackingCurrentCode] at hle
    refine ⟨?_, ?_, ?_⟩
    · rintro ⟨hlt, -⟩
      have : 20 < (currentCode point).toNat := UInt16.lt_iff_toNat_lt.mp hlt
      omega
    · rw [if_neg hthree, if_neg hterminal, Option.some_inj]
      apply UInt16.toNat_inj.mp
      rw [UInt16.toNat_add, UInt16.toNat_mul, hcode]
      show (1000 + (point.requestCurrentMa.toNat - 1000) / 100 * 100 % 2 ^ 16) % 2 ^ 16 = _
      omega
    · simp [hterminal, hthree]
  | true =>
    by_cases hthree : point.requestCurrentMa = 3000
    · have hcode : currentCode point = threeAmpTrackingCurrentCode := by
        simp [currentCode, htracking, hthree]
      simp [hcode, hthree]
    · have hcode : currentCode point = terminalTrackingCurrentCode := by
        simp [currentCode, htracking, hthree]
      have hterminal : boundary.TerminalTracking point := by
        rcases h.trackingCurrent with hfalse | heq | hterminal
        · rw [htracking] at hfalse
          simp at hfalse
        · exact absurd heq hthree
        · exact hterminal
      rw [hcode]
      refine ⟨by decide, ?_, by decide⟩
      rw [if_neg (by decide), if_pos rfl]
      exact hterminal.2.2.2

theorem decodePoint_packed (h : boundary.PointValid point)
    (hmax : boundary.sourceMaxMv ≤ 21000) (hstorable : Storable point) :
    decodePoint boundary.sourcePowerLimitMw (orFields (pointFields point) % 2 ^ 88) =
      some point := by
  have hfield : ∀ field ∈ pointFields point, field.shift + field.width ≤ 88 →
      bitField (orFields (pointFields point) % 2 ^ 88) field.shift field.width = field.value :=
    fun field hfield hroom => bitField_packed h hmax hstorable hfield hroom
  have helapsed := hfield ⟨(point.elapsedMs / 50).toNat, 0, 19⟩ (by simp [pointFields]) (by simp)
  have hrtdCode := hfield ⟨point.rtdCode.toNat, 19, 12⟩ (by simp [pointFields]) (by simp)
  have hrtdMv := hfield ⟨point.rtdMv.toNat, 31, 12⟩ (by simp [pointFields]) (by simp)
  have hvinCode := hfield ⟨point.vinCode.toNat, 43, 12⟩ (by simp [pointFields]) (by simp)
  have hvinMv := hfield ⟨point.vinMv.toNat, 55, 12⟩ (by simp [pointFields]) (by simp)
  have htracking := hfield ⟨(point.trackingRequestMv / 100).toNat, 67, 8⟩
    (by simp [pointFields]) (by simp)
  have hflat := hfield ⟨(point.flatRequestMv / 100).toNat, 75, 8⟩ (by simp [pointFields]) (by simp)
  have hcurrent := hfield ⟨(currentCode point).toNat, 83, 5⟩ (by simp [pointFields]) (by simp)
  obtain ⟨hknown, hrequest, honly⟩ := decode_current h
  simp only at helapsed hrtdCode hrtdMv hvinCode hvinMv htracking hflat hcurrent
  simp only [decodePoint, helapsed, hrtdCode, hrtdMv, hvinCode, hvinMv, htracking, hflat,
    hcurrent, UInt16.ofNat_toNat, UInt32.ofNat_toNat, hundreds_div_mul h.trackingStep,
    hundreds_div_mul hstorable.1, fifties_div_mul h.elapsedStep]
  rw [if_neg hknown, hrequest, honly, Option.map_some]

end ValidPoint

/-! ## Whole boundaries -/

theorem length_recorded (h : boundary.IsValid) :
    boundary.recorded.length = boundary.pointCount.toNat := by
  have hcount : boundary.pointCount.toNat ≤ 41 := UInt8.le_iff_toNat_le.mp h.pointCountLe
  rw [SupplyBoundary.recorded, List.length_take, Vector.length_toList]
  exact min_eq_left hcount

/-- A valid boundary always encodes; the record is its header and its points. -/
theorem encode_eq (h : boundary.IsValid) :
    ∃ powerUnits, powerUnits.toUInt32 * 10 = boundary.sourcePowerLimitMw ∧
      encode boundary boundaryMaxBytes =
        some (encodeHeader boundary powerUnits ++ boundary.recorded.flatMap encodePoint) := by
  obtain ⟨powerUnits, htry, hlimit⟩ := tryU16_powerUnits h
  have hcount : boundary.pointCount.toNat ≤ 41 := UInt8.le_iff_toNat_le.mp h.pointCountLe
  have hroom : ¬ boundaryMaxBytes <
      boundaryHeaderBytes + boundary.pointCount.toNat * boundaryPointBytes := by
    simp only [boundaryMaxBytes, boundaryHeaderBytes, boundaryPointBytes, maxBoundaryPoints]
    omega
  refine ⟨powerUnits, hlimit, ?_⟩
  rw [encode, if_neg (by simpa using h), if_neg hroom, htry, Option.map_some]

theorem checked_of_isValid (h : boundary.IsValid) :
    checked boundary = some boundary := if_pos h

theorem eq_of_checked {result boundary : SupplyBoundary} (h : checked result = some boundary) :
    result = boundary := by
  unfold checked at h
  by_cases hvalid : result.IsValid
  · rw [if_pos hvalid] at h
    exact Option.some_inj.mp h
  · rw [if_neg hvalid] at h
    cases h

/-- Reading a record back: the header is intact, and the points are decoded from
their words. -/
theorem decode_record (h : boundary.IsValid) {powerUnits : UInt16}
    (hlimit : powerUnits.toUInt32 * 10 = boundary.sourcePowerLimitMw) :
    decode (encodeHeader boundary powerUnits ++ boundary.recorded.flatMap encodePoint) =
      (boundary.recorded.mapM fun point =>
        decodePoint boundary.sourcePowerLimitMw (orFields (pointFields point) % 2 ^ 88)).bind
      fun points => checked { boundary with points := fillSlots {} maxBoundaryPoints points } := by
  have hlen := length_recorded h
  have hcount : boundary.pointCount.toNat ≤ maxBoundaryPoints :=
    UInt8.le_iff_toNat_le.mp h.pointCountLe
  have hheader := decodeHeader_encodeHeader boundary powerUnits
    (boundary.recorded.flatMap encodePoint)
  have hpoints : ∀ index (hindex : index < boundary.recorded.length),
      decodePoint boundary.sourcePowerLimitMw (packedPointAt
        (encodeHeader boundary powerUnits ++ boundary.recorded.flatMap encodePoint) index) =
      decodePoint boundary.sourcePowerLimitMw
        (orFields (pointFields boundary.recorded[index]) % 2 ^ 88) := by
    intro index hindex
    rw [packedPointAt_encode _ (length_encodeHeader _ _) _ hindex]
  rw [decode, if_neg]
  · simp only [hheader, hlimit]
    rw [← hlen, mapM_range (g := fun point => decodePoint boundary.sourcePowerLimitMw
      (orFields (pointFields point) % 2 ^ 88)) hpoints]
  · have hbytes := length_flatMap_chunk length_encodePoint boundary.recorded
    have hflag : ∀ flag : Bool, ¬ (1 : UInt8) < flag.toUInt8 := by decide
    have hbyte : ∀ index, index < 6 → byteAt (encodeHeader boundary powerUnits ++
        boundary.recorded.flatMap encodePoint) index =
        [boundaryFormatVersion, boundary.wifiStarted.toUInt8, boundary.pointCount,
          boundary.adc.efuseVersion, boundary.adc.attenuationDb,
          boundary.cutoffReached.toUInt8].getD index 0 := by
      intro index hindex
      simp only [byteAt, encodeHeader, List.append_assoc]
      exact List.getD_append _ _ _ _ (by simpa using hindex)
    rw [List.length_append, length_encodeHeader, hbytes, hlen, hbyte 0 (by decide),
      hbyte 1 (by decide), hbyte 2 (by decide), hbyte 5 (by decide)]
    simp only [List.getD_cons_zero, List.getD_cons_succ]
    have hpos : ¬ maxBoundaryPoints < boundary.pointCount.toNat := by omega
    simp [hflag, hpos, Nat.mul_comm]

/-- The boundary encodes, and the written bytes decode to it again. -/
def RoundTrips (boundary : SupplyBoundary) : Prop :=
  ∃ bytes, encode boundary boundaryMaxBytes = some bytes ∧ decode bytes = some boundary

theorem storable_of_roundTrips (hvalid : boundary.IsValid) (h : RoundTrips boundary) :
    (∀ point ∈ boundary.recorded, Storable point) ∧ boundary.TailIsDefault := by
  have hcount : boundary.pointCount.toNat ≤ maxBoundaryPoints :=
    UInt8.le_iff_toNat_le.mp hvalid.pointCountLe
  obtain ⟨powerUnits, hlimit, hencode⟩ := encode_eq hvalid
  obtain ⟨bytes, hbytes, hdecode⟩ := h
  rw [hencode] at hbytes
  obtain rfl := Option.some_inj.mp hbytes
  rw [decode_record hvalid hlimit] at hdecode
  obtain ⟨points, hpoints, hresult⟩ := Option.bind_eq_some_iff.mp hdecode
  have hlen : points.length = boundary.pointCount.toNat := by
    rw [length_of_mapM_eq_some hpoints, length_recorded hvalid]
  have hslots := congrArg SupplyBoundary.points (eq_of_checked hresult)
  simp only at hslots
  have htake : boundary.recorded = points := by
    rw [SupplyBoundary.recorded, ← hslots, toList_fillSlots _ (by omega), ← hlen, List.take_left]
  constructor
  · intro point hpoint
    rw [htake] at hpoint
    obtain ⟨source, -, hsource⟩ := exists_of_mapM_eq_some hpoints point hpoint
    exact storable_of_decodePoint hsource
  · refine (fillSlots_take_iff boundary.points hcount).mp ?_
    show fillSlots _ _ boundary.recorded = _
    rw [htake, hslots]

theorem roundTrips_of_storable (hvalid : boundary.IsValid)
    (htail : boundary.TailIsDefault) (hstorable : ∀ point ∈ boundary.recorded, Storable point) :
    RoundTrips boundary := by
  have hcount : boundary.pointCount.toNat ≤ maxBoundaryPoints :=
    UInt8.le_iff_toNat_le.mp hvalid.pointCountLe
  obtain ⟨powerUnits, hlimit, hencode⟩ := encode_eq hvalid
  refine ⟨_, hencode, ?_⟩
  have hpoints : (boundary.recorded.mapM fun point =>
      decodePoint boundary.sourcePowerLimitMw (orFields (pointFields point) % 2 ^ 88)) =
      some (boundary.recorded.map id) := by
    apply mapM_eq_some_map
    intro point hpoint
    exact decodePoint_packed (hvalid.points point hpoint) hvalid.sourceMax
      (hstorable point hpoint)
  have hslots : fillSlots {} maxBoundaryPoints boundary.recorded = boundary.points :=
    (fillSlots_take_iff boundary.points hcount).mpr htail
  rw [decode_record hvalid hlimit, hpoints, List.map_id, Option.bind_some]
  simp only [hslots]
  exact checked_of_isValid hvalid

/-- The codec loses nothing of a valid boundary exactly when every recorded
point is storable. -/
theorem roundTrips_iff_storable {boundary : SupplyBoundary} (hvalid : boundary.IsValid)
    (htail : boundary.TailIsDefault) :
    RoundTrips boundary ↔ ∀ point ∈ boundary.recorded, Storable point := by
  constructor
  · intro h
    exact (storable_of_roundTrips hvalid h).1
  · intro h
    exact roundTrips_of_storable hvalid htail h

/-- A scan of a 5.5 V to 21 V source with one 3 A point at 12 V. -/
def singlePointBoundary (flatRequestMv : UInt16) : SupplyBoundary :=
  { adc := { dividerSupplyMv := 3300 }
    sourceMinMv := 5500
    sourceMaxMv := 21000
    sourceMaxMa := 3000
    advertisedMinMv := 5000
    advertisedMaxMv := 21000
    pointCount := 1
    points := (Vector.replicate maxBoundaryPoints {}).set 0
      { elapsedMs := 1000
        rtdCode := 2000
        rtdMv := 1600
        vinCode := 1500
        vinMv := 1200
        requestCurrentMa := 3000
        trackingRequestMv := 12000
        flatRequestMv := flatRequestMv } }

theorem singlePointBoundary_roundTrips :
    RoundTrips (singlePointBoundary 12500) ↔
      ∀ point ∈ (singlePointBoundary 12500).recorded, Storable point :=
  roundTrips_iff_storable (by decide) (by decide)

/-- A flat request between two steps of 100 mV passes `is_valid` and is rounded
down by the codec. -/
theorem not_all_valid_boundaries_roundTrip :
    ¬ ∀ boundary : SupplyBoundary, boundary.IsValid → boundary.TailIsDefault →
      RoundTrips boundary := by
  intro h
  have hround := h (singlePointBoundary 12550) (by decide) (by decide)
  have hstorable := (storable_of_roundTrips (by decide) hround).1
  exact absurd hstorable (by decide)

end FluxPurr.Supply
