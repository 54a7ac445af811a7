import FluxPurr.Memory.PersistRoundTrip

/-!
# The thermal policy across a restart

A restart reads the stored policy into a default configuration and sanitizes it.
The stored profile has lost the settings its points inherited, so the second
`sanitize` substitutes the default settings for the point fields that are still
zero.  Three of these defaults are not zero: the hold-off threshold and the two hold
gains.
-/

namespace FluxPurr.Memory

open FluxPurr.Wire
open ThermalControlProfilePointConfig

/-- The configuration a restart loads from a stored policy. -/
def rebootWith (policy : ThermalPolicy) : MemoryConfig := (policy.applyToConfig {}).sanitize

/-- The same control points and the same five global settings. -/
def SameControl (loaded saved : ThermalControlProfileConfig) : Prop :=
  present loaded.points = present saved.points ∧
    loaded.settings.globalsOnly = saved.settings.globalsOnly

instance (loaded saved : ThermalControlProfileConfig) : Decidable (SameControl loaded saved) :=
  inferInstanceAs (Decidable (_ ∧ _))

/-- The policy is written, read back, and still controls the same way after the
restart. -/
def PolicySurvivesReboot (sequence : UInt32) (config : MemoryConfig) : Prop :=
  ∃ bytes policy,
    encodePersistRecord sequence (.thermalPolicy (.fromConfig config)) fpr2MaxRecordSize =
      .ok bytes ∧
    decodePersistRecord bytes = .ok ⟨sequence, .thermalPolicy policy⟩ ∧
    SameControl (rebootWith policy).activeThermalControlProfile
      config.activeThermalControlProfile ∧
    SameControl (rebootWith policy).thermalControlProfilePps5a config.thermalControlProfilePps5a

/-- The point fields with a default that is not zero are not zero. -/
def HoldFieldsSet (point : ThermalControlProfilePointConfig) : Prop :=
  point.holdOffCentiC ≠ 0 ∧ point.holdKpPermillePerC ≠ 0 ∧ point.holdKiPermillePerCTick ≠ 0

instance (point : ThermalControlProfilePointConfig) : Decidable (HoldFieldsSet point) :=
  inferInstanceAs (Decidable (_ ∧ _))

/-! ## One point -/

theorem sanitize_globalsOnly_eq_self_iff {point : ThermalControlProfilePointConfig}
    (h : PointInRange point) (settings : ThermalControlProfileSettingsConfig) :
    sanitizeThermalProfilePoint point settings.globalsOnly = point ↔ HoldFieldsSet point := by
  have hfilled : ∀ value default : UInt16, default ≠ 0 →
      ((if value = 0 then default else value) = value ↔ value ≠ 0) := by
    intro value default hdefault
    by_cases hzero : value = 0
    · simp [hzero, hdefault]
    · simp [hzero]
  have hreheat : (if point.holdReheatPowerPermille = 0 then
      settings.globalsOnly.holdReheatPowerPermille else point.holdReheatPowerPermille) =
      point.holdReheatPowerPermille := by
    by_cases hzero : point.holdReheatPowerPermille = 0
    · rw [if_pos hzero, hzero]
      rfl
    · exact if_neg hzero
  have hoff := hfilled point.holdOffCentiC settings.globalsOnly.holdOffCentiC
    (by show (5 : UInt16) ≠ 0; decide)
  have hkp := hfilled point.holdKpPermillePerC settings.globalsOnly.holdKpPermillePerC
    (by show (120 : UInt16) ≠ 0; decide)
  have hki := hfilled point.holdKiPermillePerCTick settings.globalsOnly.holdKiPermillePerCTick
    (by show (12 : UInt16) ≠ 0; decide)
  rw [sanitizeThermalProfilePoint_of_inRange h, hreheat, HoldFieldsSet]
  constructor
  · intro heq
    have hoffKept := congrArg holdOffCentiC heq
    have hkpKept := congrArg holdKpPermillePerC heq
    have hkiKept := congrArg holdKiPermillePerCTick heq
    exact ⟨hoff.mp hoffKept, hkp.mp hkpKept, hki.mp hkiKept⟩
  · rintro ⟨hoffSet, hkpSet, hkiSet⟩
    rw [hoff.mpr hoffSet, hkp.mpr hkpSet, hki.mpr hkiSet]

/-! ## One profile -/

/-- What a restart makes of a stored profile: the same settings, and the same points
with the defaults filled in, still in order. -/
theorem sanitize_stored {profile : ThermalControlProfileConfig} (h : ProfileSanitized profile) :
    present (sanitizeThermalControlProfile
      { settings := profile.settings.globalsOnly, points := profile.points }).points =
      (present profile.points).map fun point =>
        sanitizeThermalProfilePoint point profile.settings.globalsOnly := by
  have hsettings := sanitizeThermalProfileSettings_eq_self (settingsInRange_globalsOnly h.settings)
  have hsorted : ((present profile.points).map fun point =>
      sanitizeThermalProfilePoint point profile.settings.globalsOnly).Pairwise
      fun a b => a.targetTempC ≤ b.targetTempC := by
    rw [List.pairwise_map]
    refine h.sorted.imp_of_mem ?_
    intro a b ha hb hle
    rw [sanitizeThermalProfilePoint_of_inRange (h.inRange a ha),
      sanitizeThermalProfilePoint_of_inRange (h.inRange b hb)]
    exact hle
  rw [present_sanitize]
  simp only [hsettings]
  exact List.Pairwise.insertionSort_eq hsorted

theorem sameControl_stored_iff {profile : ThermalControlProfileConfig}
    (h : ProfileSanitized profile) :
    SameControl (sanitizeThermalControlProfile
      { settings := profile.settings.globalsOnly, points := profile.points }) profile ↔
      ∀ point ∈ present profile.points, HoldFieldsSet point := by
  have hsettings : (sanitizeThermalControlProfile
      { settings := profile.settings.globalsOnly
        points := profile.points }).settings.globalsOnly = profile.settings.globalsOnly := by
    simp only [sanitizeThermalControlProfile,
      sanitizeThermalProfileSettings_eq_self (settingsInRange_globalsOnly h.settings)]
    exact globalsOnly_globalsOnly _
  rw [SameControl, sanitize_stored h]
  constructor
  · rintro ⟨hpoints, -⟩ point hpoint
    refine (sanitize_globalsOnly_eq_self_iff (h.inRange point hpoint) profile.settings).mp ?_
    have hself : (present profile.points).map (fun point =>
        sanitizeThermalProfilePoint point profile.settings.globalsOnly) =
        (present profile.points).map id := by
      rw [hpoints, List.map_id]
    exact List.map_inj_left.mp hself point hpoint
  · intro hset
    refine ⟨?_, hsettings⟩
    have hself : ∀ point ∈ present profile.points,
        sanitizeThermalProfilePoint point profile.settings.globalsOnly = id point :=
      fun point hpoint =>
        (sanitize_globalsOnly_eq_self_iff (h.inRange point hpoint) profile.settings).mpr
          (hset point hpoint)
    rw [List.map_congr_left hself, List.map_id]

/-! ## The policy -/

/-- The policy a restart reads: both banks as they are stored. -/
theorem exists_record_thermalPolicy {config : MemoryConfig}
    (h3a : ProfileSanitized config.activeThermalControlProfile)
    (h5a : ProfileSanitized config.thermalControlProfilePps5a) (sequence : UInt32) :
    ∃ bytes, encodePersistRecord sequence (.thermalPolicy (.fromConfig config))
        fpr2MaxRecordSize = .ok bytes ∧
      decodePersistRecord bytes = .ok ⟨sequence, .thermalPolicy
        { pps3aProfile :=
            { settings := config.activeThermalControlProfile.settings.globalsOnly
              points := config.activeThermalControlProfile.points }
          pps5aProfile :=
            { settings := config.thermalControlProfilePps5a.settings.globalsOnly
              points := config.thermalControlProfilePps5a.points }
          mode := config.thermalProfileMode }⟩ := by
  have hread := readTlvs_thermalPolicy (.fromConfig config)
  obtain ⟨bytes, hbytes, -, hrecord⟩ := exists_record_of_tlvs
    (.thermalPolicy (.fromConfig config)) _ rfl (thermalPolicy_room config)
    (by rw [PersistDomainData.domain, hread]) sequence
  refine ⟨bytes, hbytes, ?_⟩
  rw [hrecord, PersistDomainData.domain, hread]
  simp only [PersistDecodeState.finish, ThermalPolicy.fromConfig, decode_canonicalProfile h3a,
    decode_canonicalProfile h5a]

theorem policySurvivesReboot_iff_fieldsSet {config : MemoryConfig}
    (h3a : ProfileSanitized config.activeThermalControlProfile)
    (h5a : ProfileSanitized config.thermalControlProfilePps5a) (sequence : UInt32) :
    PolicySurvivesReboot sequence config ↔
      (∀ point ∈ present config.activeThermalControlProfile.points, HoldFieldsSet point) ∧
        ∀ point ∈ present config.thermalControlProfilePps5a.points, HoldFieldsSet point := by
  obtain ⟨bytes, hbytes, hrecord⟩ := exists_record_thermalPolicy h3a h5a sequence
  rw [← sameControl_stored_iff h3a, ← sameControl_stored_iff h5a]
  constructor
  · rintro ⟨other, policy, hother, hread, hsame3a, hsame5a⟩
    obtain rfl : bytes = other := Except.ok.inj (hbytes.symm.trans hother)
    have hpolicy := Except.ok.inj (hrecord.symm.trans hread)
    rw [PersistRecord.mk.injEq, PersistDomainData.thermalPolicy.injEq] at hpolicy
    obtain ⟨-, rfl⟩ := hpolicy
    exact ⟨hsame3a, hsame5a⟩
  · rintro ⟨hsame3a, hsame5a⟩
    exact ⟨bytes, _, hbytes, hrecord, hsame3a, hsame5a⟩

/-- Both banks of a sanitized configuration survive a restart exactly when no point
has a zero hold-off threshold or a zero hold gain. -/
theorem policySurvivesReboot_iff (config : MemoryConfig) (sequence : UInt32) :
    PolicySurvivesReboot sequence config.sanitize ↔
      (∀ point ∈ present config.sanitize.activeThermalControlProfile.points, HoldFieldsSet point) ∧
      ∀ point ∈ present config.sanitize.thermalControlProfilePps5a.points, HoldFieldsSet point :=
  policySurvivesReboot_iff_fieldsSet (profileSanitized_sanitize _) (profileSanitized_sanitize _)
    sequence

/-- One point at 100 °C in a profile that holds without an integral part. -/
def proportionalOnly : MemoryConfig :=
  { activeThermalControlProfile :=
      { settings := { holdKiPermillePerCTick := 0 }
        points := packSlots profileMaxPoints
          [{ targetTempC := 100
             brakeDistanceCentiC := 600
             warmupPowerPermille := 1000
             warmupReenterCentiC := 400
             approachPowerPermille := 500
             approachFloorPowerPermille := 200
             approachDampingExponentPermille := 1000
             approachTailWindowCentiC := 0
             holdPowerPermille := 150
             holdReheatPowerPermille := 300
             holdEntryCentiC := 90
             holdExitCentiC := 200
             holdOnCentiC := 30
             holdOffCentiC := 5
             overshootCutoffCentiC := 25
             holdKpPermillePerC := 120
             holdKiPermillePerCTick := 0
             holdBlendTicks := 12
             approachLeadTicks := 0
             holdLeadTicks := 0 }] } }

/-- The integral gain that was switched off is back after a restart. -/
theorem not_all_policies_survive_reboot :
    ¬ ∀ (config : MemoryConfig) (sequence : UInt32),
      PolicySurvivesReboot sequence config.sanitize := by
  intro h
  have hset := (policySurvivesReboot_iff_fieldsSet (profileSanitized_sanitize _)
    (profileSanitized_sanitize _) 1).mp (h proportionalOnly 1)
  have hnot : ¬ ∀ point ∈ present proportionalOnly.sanitize.activeThermalControlProfile.points,
      HoldFieldsSet point := by
    decide +kernel
  exact hnot hset.1

end FluxPurr.Memory
