import FluxPurr.Memory.PersistDomain
import FluxPurr.Memory.ProfileDispatch
import FluxPurr.Memory.ProfileSanitized

/-!
# What is read back of a stored profile

A sanitized profile is written in the packed layout and read back with its points
and its five global settings; the twelve settings that are inherited by the points
are set to their defaults (`decodeThermalControlProfile_encode`).
-/

namespace FluxPurr.Memory

open FluxPurr.Wire

theorem globalsOnly_globalsOnly (settings : ThermalControlProfileSettingsConfig) :
    settings.globalsOnly.globalsOnly = settings.globalsOnly := rfl

theorem settingsInRange_default : SettingsInRange {} := by
  constructor <;> decide

variable {settings : ThermalControlProfileSettingsConfig}

theorem settingsInRange_globalsOnly
    (h : SettingsInRange settings) : SettingsInRange settings.globalsOnly where
  __ := h
  warmupReenterCentiC := settingsInRange_default.warmupReenterCentiC
  holdEntryCentiC := settingsInRange_default.holdEntryCentiC
  holdExitCentiC := settingsInRange_default.holdExitCentiC
  holdOnCentiC := settingsInRange_default.holdOnCentiC
  holdOffCentiC := settingsInRange_default.holdOffCentiC
  overshootCutoffCentiC := settingsInRange_default.overshootCutoffCentiC
  holdKpPermillePerC := settingsInRange_default.holdKpPermillePerC
  holdKiPermillePerCTick := settingsInRange_default.holdKiPermillePerCTick
  holdBlendTicks := settingsInRange_default.holdBlendTicks
  holdReheatPowerPermille := settingsInRange_default.holdReheatPowerPermille
  approachLeadTicks := settingsInRange_default.approachLeadTicks
  holdLeadTicks := settingsInRange_default.holdLeadTicks

/-! ## Settings -/

@[simp] theorem length_encodeThermalControlProfileSettings
    (settings : ThermalControlProfileSettingsConfig) :
    (encodeThermalControlProfileSettings settings).length =
      settingsPayloadLenWithGlobalsOnly := by
  rw [encodeThermalControlProfileSettings, length_flatMap_chunk length_u16Le]
  rfl

theorem profileSettingsValue_flatMap (values : List UInt16) {index : ℕ}
    (hindex : index < values.length) :
    profileSettingsValue (values.flatMap u16Le) index = values[index] := by
  have hread := decode_flatMap_chunk readU16 id
    (fun bytes cursor => by rw [readU16_drop, Nat.add_zero]) length_u16Le
    readU16_u16Le values hindex []
  rw [List.append_nil, Nat.mul_comm] at hread
  rw [profileSettingsValue, length_flatMap_chunk length_u16Le, if_pos (by omega), hread]
  rfl

theorem decodeThermalControlProfileSettings_encode (h : SettingsInRange settings) :
    decodeThermalControlProfileSettings (encodeThermalControlProfileSettings settings) =
      settings.globalsOnly := by
  have hvalue := fun index (hindex : index < 7) => profileSettingsValue_flatMap
    [settings.tempFilterAlphaPermille, settings.approachMaxTicks,
      settings.approachMinPowerRatioPermille, settings.autoAdjustableWorkingFloorMv,
      settings.heaterCurrentReserveMa, 0, 0] hindex
  have h0 := hvalue 0 (by simp)
  have h1 := hvalue 1 (by simp)
  have h2 := hvalue 2 (by simp)
  have h3 := hvalue 3 (by simp)
  have h4 := hvalue 4 (by simp)
  rw [← encodeThermalControlProfileSettings] at h0 h1 h2 h3 h4
  rw [decodeThermalControlProfileSettings, if_pos (length_encodeThermalControlProfileSettings _),
    decodeGlobalProfileSettings, h0, h1, h2, h3, h4]
  simp only [List.getElem_cons_zero, List.getElem_cons_succ,
    clamp_eq_self h.autoAdjustableWorkingFloorMv.1 h.autoAdjustableWorkingFloorMv.2,
    atMost_eq_self h.heaterCurrentReserveMa, ThermalControlProfileSettingsConfig.globalsOnly]

/-! ## Points -/

@[simp] theorem length_encodePackedProfilePoint (point : ThermalControlProfilePointConfig) :
    (encodePackedProfilePoint point).length = packedPointPayloadLen := by
  rw [encodePackedProfilePoint, length_writeFields, List.length_replicate]

variable {point : ThermalControlProfilePointConfig}

/-- The twenty numbers that are packed, for a point that needs no clamping. -/
theorem packedPointValues_of_inRange (h : PointInRange point) :
    packedPointValues point =
      [point.targetTempC.toUInt16, point.brakeDistanceCentiC, point.warmupPowerPermille,
        point.approachPowerPermille, point.approachFloorPowerPermille,
        point.approachDampingExponentPermille, point.approachTailWindowCentiC,
        point.holdPowerPermille, point.holdReheatPowerPermille, point.holdEntryCentiC,
        point.holdExitCentiC, point.holdOnCentiC, point.holdOffCentiC,
        point.overshootCutoffCentiC, point.holdKpPermillePerC, point.holdKiPermillePerCTick,
        point.holdBlendTicks, point.approachLeadTicks, point.holdLeadTicks,
        point.warmupReenterCentiC] := by
  simp only [packedPointValues, clampTempC_eq_self h.targetTempC.1 h.targetTempC.2,
    clamp_eq_self h.brakeDistanceCentiC.1 h.brakeDistanceCentiC.2,
    atMost_eq_self h.warmupPowerPermille, atMost_eq_self h.approachPowerPermille,
    atMost_eq_self h.approachFloorPowerPermille,
    clamp_eq_self h.approachDampingExponentPermille.1 h.approachDampingExponentPermille.2,
    atMost_eq_self h.approachTailWindowCentiC, atMost_eq_self h.holdPowerPermille,
    atMost_eq_self h.holdReheatPowerPermille, atMost_eq_self h.holdEntryCentiC.2,
    atMost_eq_self h.holdExitCentiC.2, atMost_eq_self h.holdOnCentiC.2,
    atMost_eq_self h.holdOffCentiC, atMost_eq_self h.overshootCutoffCentiC.2,
    atMost_eq_self h.holdKpPermillePerC, atMost_eq_self h.holdKiPermillePerCTick,
    atMost_eq_self h.holdBlendTicks.2, atMost_eq_self h.approachLeadTicks,
    atMost_eq_self h.holdLeadTicks,
    clamp_eq_self h.warmupReenterCentiC.1 h.warmupReenterCentiC.2]

theorem toNat_lt_of_le {value bound : UInt16} (h : value ≤ bound) {width : ℕ}
    (hwidth : bound.toNat < 2 ^ width) : value.toNat < 2 ^ width :=
  lt_of_le_of_lt (UInt16.le_iff_toNat_le.mp h) hwidth

theorem targetTempC_toNat_lt {target : Int16} (hlo : 0 ≤ target) (hhi : target ≤ 400) :
    target.toUInt16.toNat < 2 ^ 9 := by
  have hnat : target.toUInt16.toNat = target.toNatClampNeg := Int16.toNat_toUInt16_of_le hlo
  have hint : target.toNatClampNeg = target.toInt := Int16.cast_toNatClampNeg _ hlo
  have hle : target.toInt ≤ 400 := Int16.le_iff_toInt_le.mp hhi
  omega

theorem packedPointFields_fit (h : PointInRange point) :
    ∀ field ∈ ((packedPointValues point).map UInt16.toNat).zip packedPointWidths,
      field.1 < 2 ^ field.2 := by
  rw [packedPointValues_of_inRange h]
  simp only [packedPointWidths, List.map_cons, List.map_nil, List.zip_cons_cons,
    List.forall_mem_cons, List.zip_nil_left]
  exact ⟨targetTempC_toNat_lt h.targetTempC.1 h.targetTempC.2,
    toNat_lt_of_le h.brakeDistanceCentiC.2 (by decide),
    toNat_lt_of_le h.warmupPowerPermille (by decide),
    toNat_lt_of_le h.approachPowerPermille (by decide),
    toNat_lt_of_le h.approachFloorPowerPermille (by decide),
    toNat_lt_of_le h.approachDampingExponentPermille.2 (by decide),
    toNat_lt_of_le h.approachTailWindowCentiC (by decide),
    toNat_lt_of_le h.holdPowerPermille (by decide),
    toNat_lt_of_le h.holdReheatPowerPermille (by decide),
    toNat_lt_of_le h.holdEntryCentiC.2 (by decide),
    toNat_lt_of_le h.holdExitCentiC.2 (by decide),
    toNat_lt_of_le h.holdOnCentiC.2 (by decide),
    toNat_lt_of_le h.holdOffCentiC (by decide),
    toNat_lt_of_le h.overshootCutoffCentiC.2 (by decide),
    toNat_lt_of_le h.holdKpPermillePerC (by decide),
    toNat_lt_of_le h.holdKiPermillePerCTick (by decide),
    toNat_lt_of_le h.holdBlendTicks.2 (by decide),
    toNat_lt_of_le h.approachLeadTicks (by decide),
    toNat_lt_of_le h.holdLeadTicks (by decide),
    toNat_lt_of_le h.warmupReenterCentiC.2 (by decide), by simp⟩

theorem decodePackedProfilePoint_encode (h : PointInRange point) :
    decodePackedProfilePoint (encodePackedProfilePoint point) = point := by
  have hlen : ((packedPointValues point).map UInt16.toNat).length = packedPointWidths.length := rfl
  have hwidths : (((packedPointValues point).map UInt16.toNat).zip packedPointWidths).map
      Prod.snd = packedPointWidths := by
    exact List.map_snd_zip hlen.ge
  have hvalues : (((packedPointValues point).map UInt16.toNat).zip packedPointWidths).map
      Prod.fst = (packedPointValues point).map UInt16.toNat :=
    List.map_fst_zip hlen.le
  have hread := readFields_writeFields (by rw [hwidths, List.length_replicate]; decide)
    (clearFrom_replicate packedPointPayloadLen 0)
    (packedPointFields_fit h)
  rw [hwidths, hvalues, packedPointValues_of_inRange h] at hread
  rw [decodePackedProfilePoint, encodePackedProfilePoint, packedPointValues_of_inRange h, hread]
  simp only [List.map_cons, List.map_nil, List.getD_cons_zero, List.getD_cons_succ,
    UInt16.ofNat_toNat, Int16.toInt16_toUInt16]

/-! ## Profiles -/

/-- A profile that is packed, in order and in range is read back with its points
and its global settings. -/
theorem decodeThermalControlProfile_encode {config : ThermalControlProfileConfig}
    (hsettings : SettingsInRange config.settings)
    (hcompact : packSlots profileMaxPoints (present config.points) = config.points)
    (hpoints : ∀ point ∈ present config.points, PointInRange point) :
    decodeThermalControlProfile (encodeThermalControlProfile config) =
      { settings := config.settings.globalsOnly, points := config.points } := by
  have hcount : (present config.points).length ≤ profileMaxPoints := length_present_le _
  have htake : (present config.points).take profileMaxPoints = present config.points :=
    List.take_of_length_le hcount
  have hbytes : (encodeThermalControlProfile config).length =
      markedSettingsEnd + packedPointPayloadLen * (present config.points).length := by
    rw [encodeThermalControlProfile, List.length_append, List.length_append, htake,
      length_flatMap_chunk length_encodePackedProfilePoint,
      length_encodeThermalControlProfileSettings, ← Nat.add_assoc]
    rfl
  have hwritten : WrittenIn .packed (present config.points).length
      (encodeThermalControlProfile config) := ⟨rfl, hbytes⟩
  have hsettingsRead : decodeMarkedSettings (encodeThermalControlProfile config) =
      config.settings.globalsOnly := by
    have hmarker : packedLayoutMarker.length = layoutMarkerLen := rfl
    rw [decodeMarkedSettings, encodeThermalControlProfile, List.drop_left' hmarker,
      List.take_left' (length_encodeThermalControlProfileSettings _),
      decodeThermalControlProfileSettings_encode hsettings]
  have hread : ∀ index (hindex : index < (present config.points).length),
      decodePackedProfilePoint (((encodeThermalControlProfile config).drop
        (markedSettingsEnd + packedPointPayloadLen * index)).take packedPointPayloadLen) =
        (present config.points)[index] := by
    intro index hindex
    obtain ⟨rest, hrest⟩ := exists_drop_flatMap_chunk length_encodePackedProfilePoint
      (present config.points) hindex []
    rw [List.append_nil] at hrest
    have hdrop : (encodeThermalControlProfile config).drop markedSettingsEnd =
        (present config.points).flatMap encodePackedProfilePoint := by
      rw [encodeThermalControlProfile, htake, ← List.append_assoc]
      refine List.drop_left' ?_
      rw [List.length_append, length_encodeThermalControlProfileSettings]
      rfl
    rw [← List.drop_drop, hdrop, hrest,
      List.take_left' (length_encodePackedProfilePoint _),
      decodePackedProfilePoint_encode (hpoints _ (List.getElem_mem hindex))]
  have hlist : (List.range (present config.points).length).map (fun index =>
      some (decodePackedProfilePoint (((encodeThermalControlProfile config).drop
        (markedSettingsEnd + packedPointPayloadLen * index)).take packedPointPayloadLen))) =
      (present config.points).map some := by
    apply List.ext_getElem
    · simp
    · intro index hleft hright
      rw [List.getElem_map, List.getElem_map, List.getElem_range,
        hread index (by simpa using hright)]
  rw [decode_packed hcount hwritten]
  simp only [readAs, readSettingsAs, hsettingsRead, hlist]
  rw [← packSlots, hcompact]

theorem length_encodeThermalControlProfile_le (config : ThermalControlProfileConfig) :
    (encodeThermalControlProfile config).length ≤ 298 := by
  have hcount : ((present config.points).take profileMaxPoints).length ≤ 10 :=
    List.length_take_le _ _
  rw [encodeThermalControlProfile, List.length_append, List.length_append,
    length_flatMap_chunk length_encodePackedProfilePoint,
    length_encodeThermalControlProfileSettings]
  simp only [packedLayoutMarker, settingsPayloadLenWithGlobalsOnly, packedPointPayloadLen,
    List.length_cons, List.length_nil]
  omega

/-! ## The canonical form -/

theorem any_isSome_iff {α : Type*} {n : ℕ} {slots : Vector (Option α) n} :
    slots.any Option.isSome = true ↔ present slots ≠ [] := by
  constructor
  · intro h hnil
    obtain ⟨index, hindex, hsome⟩ := Vector.any_eq_true.mp h
    obtain ⟨item, hitem⟩ := Option.isSome_iff_exists.mp hsome
    have hmem : item ∈ present slots := by
      rw [mem_present, ← hitem]
      exact Vector.mem_toList_iff.mpr (Vector.getElem_mem hindex)
    rw [hnil] at hmem
    cases hmem
  · intro h
    obtain ⟨item, hitem⟩ := List.exists_mem_of_ne_nil _ h
    obtain ⟨index, hindex, hget⟩ := List.mem_iff_getElem.mp (mem_present.mp hitem)
    refine Vector.any_eq_true.mpr ⟨index, by simpa using hindex, ?_⟩
    rw [Vector.getElem_toList] at hget
    rw [hget]
    rfl

variable {profile : ThermalControlProfileConfig}

/-- A sanitized profile is only changed in the settings its points inherited. -/
theorem canonicalProfileForPersistence_sanitized (h : ProfileSanitized profile) :
    canonicalProfileForPersistence profile =
      { settings :=
          if present profile.points = [] then profile.settings
          else profile.settings.globalsOnly
        points := profile.points } := by
  simp only [canonicalProfileForPersistence, sanitize_eq_self h]
  by_cases hnil : present profile.points = []
  · rw [if_neg (fun hany => any_isSome_iff.mp hany hnil), if_pos hnil]
  · rw [if_pos (any_isSome_iff.mpr hnil), if_neg hnil]

theorem decode_canonicalProfile (h : ProfileSanitized profile) :
    decodeThermalControlProfile
      (encodeThermalControlProfile (canonicalProfileForPersistence profile)) =
      { settings := profile.settings.globalsOnly, points := profile.points } := by
  rw [canonicalProfileForPersistence_sanitized h, decodeThermalControlProfile_encode]
  · split <;> rfl
  · split
    · exact h.settings
    · exact settingsInRange_globalsOnly h.settings
  · exact h.compact
  · exact h.inRange

end FluxPurr.Memory
