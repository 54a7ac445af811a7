import FluxPurr.Memory.Profile

/-!
# What a sanitized profile looks like

`ProfileSanitized` collects what the rest of the firmware relies on after
`sanitize`: every value is in its range, the points are compacted and sorted by
temperature, and a point field is zero only where the setting it inherits is.

## Strategy

The invariant is established once (`profileSanitized_sanitize`) and is strong
enough to make a second sanitizing the identity (`sanitize_eq_self`).  The
zero substitution is the only part that looks at the settings, so a point meets
other settings only through `sanitizeThermalProfilePoint_of_inRange`.
-/

namespace FluxPurr.Memory

open FluxPurr.Wire

/-! ## Clamping -/

theorem le_clamp {value lo hi : UInt16} (h : lo ≤ hi) : lo ≤ clamp value lo hi := by
  grind [clamp]

theorem clamp_le {value lo hi : UInt16} (h : lo ≤ hi) : clamp value lo hi ≤ hi := by
  grind [clamp]

theorem clamp_eq_self {value lo hi : UInt16} (hlo : lo ≤ value) (hhi : value ≤ hi) :
    clamp value lo hi = value := by
  grind [clamp]

theorem atMost_le (value hi : UInt16) : atMost value hi ≤ hi := by
  grind [atMost]

theorem atMost_eq_self {value hi : UInt16} (h : value ≤ hi) : atMost value hi = value := if_pos h

variable {value default hi : UInt16} {settings : ThermalControlProfileSettingsConfig}
  {point : ThermalControlProfilePointConfig}

theorem defaultOrMin_le (h : default ≤ hi) : defaultOrMin value default hi ≤ hi := by
  grind [defaultOrMin, atMost]

theorem one_le_defaultOrMin (hdefault : 1 ≤ default) (hhi : 1 ≤ hi) :
    1 ≤ defaultOrMin value default hi := by
  grind [defaultOrMin, atMost]

theorem eq_zero_of_defaultOrMin (hhi : 1 ≤ hi)
    (h : defaultOrMin value default hi = 0) : default = 0 := by
  grind [defaultOrMin, atMost]

theorem defaultOrMin_of_le (h : value ≤ hi) :
    defaultOrMin value default hi = if value = 0 then default else value := by
  grind [defaultOrMin, atMost]

theorem clampTempC_bounds (value : Int16) : 0 ≤ clampTempC value ∧ clampTempC value ≤ 400 := by
  grind [clampTempC]

theorem clampTempC_eq_self {value : Int16} (hlo : 0 ≤ value) (hhi : value ≤ 400) :
    clampTempC value = value := by
  grind [clampTempC]

/-! ## Ranges -/

structure SettingsInRange (settings : ThermalControlProfileSettingsConfig) : Prop where
  tempFilterAlphaPermille :
    1 ≤ settings.tempFilterAlphaPermille ∧ settings.tempFilterAlphaPermille ≤ 1000
  warmupReenterCentiC : 50 ≤ settings.warmupReenterCentiC ∧ settings.warmupReenterCentiC ≤ 5000
  holdEntryCentiC : 1 ≤ settings.holdEntryCentiC ∧ settings.holdEntryCentiC ≤ 5000
  holdExitCentiC : 1 ≤ settings.holdExitCentiC ∧ settings.holdExitCentiC ≤ 5000
  holdOnCentiC : 1 ≤ settings.holdOnCentiC ∧ settings.holdOnCentiC ≤ 5000
  holdOffCentiC : settings.holdOffCentiC ≤ 5000
  overshootCutoffCentiC : 1 ≤ settings.overshootCutoffCentiC ∧ settings.overshootCutoffCentiC ≤ 5000
  approachMaxTicks : 1 ≤ settings.approachMaxTicks ∧ settings.approachMaxTicks ≤ 255
  approachMinPowerRatioPermille : settings.approachMinPowerRatioPermille ≤ 1000
  holdKpPermillePerC : settings.holdKpPermillePerC ≤ 10000
  holdKiPermillePerCTick : settings.holdKiPermillePerCTick ≤ 10000
  holdBlendTicks : 1 ≤ settings.holdBlendTicks ∧ settings.holdBlendTicks ≤ 255
  holdReheatPowerPermille : settings.holdReheatPowerPermille ≤ 1000
  approachLeadTicks : settings.approachLeadTicks ≤ 255
  holdLeadTicks : settings.holdLeadTicks ≤ 255
  autoAdjustableWorkingFloorMv :
    5000 ≤ settings.autoAdjustableWorkingFloorMv ∧ settings.autoAdjustableWorkingFloorMv ≤ 28000
  heaterCurrentReserveMa : settings.heaterCurrentReserveMa ≤ 1000

structure PointInRange (point : ThermalControlProfilePointConfig) : Prop where
  targetTempC : 0 ≤ point.targetTempC ∧ point.targetTempC ≤ 400
  brakeDistanceCentiC : 60 ≤ point.brakeDistanceCentiC ∧ point.brakeDistanceCentiC ≤ 5000
  warmupPowerPermille : point.warmupPowerPermille ≤ 1000
  warmupReenterCentiC : 50 ≤ point.warmupReenterCentiC ∧ point.warmupReenterCentiC ≤ 5000
  approachPowerPermille : point.approachPowerPermille ≤ 1000
  approachFloorPowerPermille : point.approachFloorPowerPermille ≤ 1000
  approachDampingExponentPermille :
    100 ≤ point.approachDampingExponentPermille ∧ point.approachDampingExponentPermille ≤ 4000
  approachTailWindowCentiC : point.approachTailWindowCentiC ≤ 375
  holdPowerPermille : point.holdPowerPermille ≤ 1000
  holdReheatPowerPermille : point.holdReheatPowerPermille ≤ 1000
  holdEntryCentiC : 1 ≤ point.holdEntryCentiC ∧ point.holdEntryCentiC ≤ 5000
  holdExitCentiC : 1 ≤ point.holdExitCentiC ∧ point.holdExitCentiC ≤ 5000
  holdOnCentiC : 1 ≤ point.holdOnCentiC ∧ point.holdOnCentiC ≤ 5000
  holdOffCentiC : point.holdOffCentiC ≤ 5000
  overshootCutoffCentiC : 1 ≤ point.overshootCutoffCentiC ∧ point.overshootCutoffCentiC ≤ 5000
  holdKpPermillePerC : point.holdKpPermillePerC ≤ 10000
  holdKiPermillePerCTick : point.holdKiPermillePerCTick ≤ 10000
  holdBlendTicks : 1 ≤ point.holdBlendTicks ∧ point.holdBlendTicks ≤ 255
  approachLeadTicks : point.approachLeadTicks ≤ 255
  holdLeadTicks : point.holdLeadTicks ≤ 255

theorem settingsInRange_sanitize (settings : ThermalControlProfileSettingsConfig) :
    SettingsInRange (sanitizeThermalProfileSettings settings) where
  tempFilterAlphaPermille := ⟨le_clamp (by decide), clamp_le (by decide)⟩
  warmupReenterCentiC := ⟨le_clamp (by decide), clamp_le (by decide)⟩
  holdEntryCentiC := ⟨le_clamp (by decide), clamp_le (by decide)⟩
  holdExitCentiC := ⟨le_clamp (by decide), clamp_le (by decide)⟩
  holdOnCentiC := ⟨le_clamp (by decide), clamp_le (by decide)⟩
  holdOffCentiC := clamp_le (by decide)
  overshootCutoffCentiC := ⟨le_clamp (by decide), clamp_le (by decide)⟩
  approachMaxTicks := ⟨le_clamp (by decide), clamp_le (by decide)⟩
  approachMinPowerRatioPermille := atMost_le _ _
  holdKpPermillePerC := atMost_le _ _
  holdKiPermillePerCTick := atMost_le _ _
  holdBlendTicks := ⟨le_clamp (by decide), clamp_le (by decide)⟩
  holdReheatPowerPermille := atMost_le _ _
  approachLeadTicks := atMost_le _ _
  holdLeadTicks := atMost_le _ _
  autoAdjustableWorkingFloorMv := ⟨le_clamp (by decide), clamp_le (by decide)⟩
  heaterCurrentReserveMa := atMost_le _ _

theorem sanitizeThermalProfileSettings_eq_self
    (h : SettingsInRange settings) : sanitizeThermalProfileSettings settings = settings := by
  have hzero : (0 : UInt16) ≤ settings.holdOffCentiC := by grind
  simp only [sanitizeThermalProfileSettings,
    clamp_eq_self h.tempFilterAlphaPermille.1 h.tempFilterAlphaPermille.2,
    clamp_eq_self h.warmupReenterCentiC.1 h.warmupReenterCentiC.2,
    clamp_eq_self h.holdEntryCentiC.1 h.holdEntryCentiC.2,
    clamp_eq_self h.holdExitCentiC.1 h.holdExitCentiC.2,
    clamp_eq_self h.holdOnCentiC.1 h.holdOnCentiC.2, clamp_eq_self hzero h.holdOffCentiC,
    clamp_eq_self h.overshootCutoffCentiC.1 h.overshootCutoffCentiC.2,
    clamp_eq_self h.approachMaxTicks.1 h.approachMaxTicks.2,
    clamp_eq_self h.holdBlendTicks.1 h.holdBlendTicks.2,
    clamp_eq_self h.autoAdjustableWorkingFloorMv.1 h.autoAdjustableWorkingFloorMv.2,
    atMost_eq_self h.approachMinPowerRatioPermille, atMost_eq_self h.holdKpPermillePerC,
    atMost_eq_self h.holdKiPermillePerCTick, atMost_eq_self h.holdReheatPowerPermille,
    atMost_eq_self h.approachLeadTicks, atMost_eq_self h.holdLeadTicks,
    atMost_eq_self h.heaterCurrentReserveMa]

theorem pointInRange_sanitize (point : ThermalControlProfilePointConfig)
    (h : SettingsInRange settings) :
    PointInRange (sanitizeThermalProfilePoint point settings) where
  targetTempC := clampTempC_bounds _
  brakeDistanceCentiC := ⟨le_clamp (by decide), clamp_le (by decide)⟩
  warmupPowerPermille := atMost_le _ _
  warmupReenterCentiC := by
    simp only [sanitizeThermalProfilePoint]
    split
    · exact h.warmupReenterCentiC
    · exact ⟨le_clamp (by decide), clamp_le (by decide)⟩
  approachPowerPermille := atMost_le _ _
  approachFloorPowerPermille := atMost_le _ _
  approachDampingExponentPermille := by
    simp only [sanitizeThermalProfilePoint]
    split
    · decide
    · exact ⟨le_clamp (by decide), clamp_le (by decide)⟩
  approachTailWindowCentiC := atMost_le _ _
  holdPowerPermille := atMost_le _ _
  holdReheatPowerPermille := by
    simp only [sanitizeThermalProfilePoint]
    split
    · exact h.holdReheatPowerPermille
    · exact atMost_le _ _
  holdEntryCentiC :=
    ⟨one_le_defaultOrMin h.holdEntryCentiC.1 (by decide), defaultOrMin_le h.holdEntryCentiC.2⟩
  holdExitCentiC :=
    ⟨one_le_defaultOrMin h.holdExitCentiC.1 (by decide), defaultOrMin_le h.holdExitCentiC.2⟩
  holdOnCentiC :=
    ⟨one_le_defaultOrMin h.holdOnCentiC.1 (by decide), defaultOrMin_le h.holdOnCentiC.2⟩
  holdOffCentiC := defaultOrMin_le h.holdOffCentiC
  overshootCutoffCentiC :=
    ⟨one_le_defaultOrMin h.overshootCutoffCentiC.1 (by decide),
      defaultOrMin_le h.overshootCutoffCentiC.2⟩
  holdKpPermillePerC := defaultOrMin_le h.holdKpPermillePerC
  holdKiPermillePerCTick := defaultOrMin_le h.holdKiPermillePerCTick
  holdBlendTicks :=
    ⟨one_le_defaultOrMin h.holdBlendTicks.1 (by decide), defaultOrMin_le h.holdBlendTicks.2⟩
  approachLeadTicks := atMost_le _ _
  holdLeadTicks := atMost_le _ _

/-! ## Sanitizing again -/

/-- What other settings do to a point that is already in range: they fill in the
four fields that may still be zero. -/
theorem sanitizeThermalProfilePoint_of_inRange
    (h : PointInRange point) (settings : ThermalControlProfileSettingsConfig) :
    sanitizeThermalProfilePoint point settings =
      { point with
        holdReheatPowerPermille :=
          if point.holdReheatPowerPermille = 0 then settings.holdReheatPowerPermille
          else point.holdReheatPowerPermille
        holdOffCentiC :=
          if point.holdOffCentiC = 0 then settings.holdOffCentiC else point.holdOffCentiC
        holdKpPermillePerC :=
          if point.holdKpPermillePerC = 0 then settings.holdKpPermillePerC
          else point.holdKpPermillePerC
        holdKiPermillePerCTick :=
          if point.holdKiPermillePerCTick = 0 then settings.holdKiPermillePerCTick
          else point.holdKiPermillePerCTick } := by
  have hne : ∀ {value : UInt16}, 1 ≤ value → value ≠ 0 := by
    intro value hvalue
    grind
  have hdamping : point.approachDampingExponentPermille ≠ 0 := by
    have hlo := h.approachDampingExponentPermille.1
    grind
  have hreenter : point.warmupReenterCentiC ≠ 0 := by
    have hlo := h.warmupReenterCentiC.1
    grind
  simp only [sanitizeThermalProfilePoint,
    clampTempC_eq_self h.targetTempC.1 h.targetTempC.2,
    clamp_eq_self h.brakeDistanceCentiC.1 h.brakeDistanceCentiC.2,
    clamp_eq_self h.warmupReenterCentiC.1 h.warmupReenterCentiC.2,
    clamp_eq_self h.approachDampingExponentPermille.1 h.approachDampingExponentPermille.2,
    atMost_eq_self h.warmupPowerPermille, atMost_eq_self h.approachPowerPermille,
    atMost_eq_self h.approachFloorPowerPermille, atMost_eq_self h.approachTailWindowCentiC,
    atMost_eq_self h.holdPowerPermille, atMost_eq_self h.holdReheatPowerPermille,
    atMost_eq_self h.approachLeadTicks, atMost_eq_self h.holdLeadTicks,
    defaultOrMin_of_le h.holdEntryCentiC.2, defaultOrMin_of_le h.holdExitCentiC.2,
    defaultOrMin_of_le h.holdOnCentiC.2, defaultOrMin_of_le h.holdOffCentiC,
    defaultOrMin_of_le h.overshootCutoffCentiC.2, defaultOrMin_of_le h.holdKpPermillePerC,
    defaultOrMin_of_le h.holdKiPermillePerCTick, defaultOrMin_of_le h.holdBlendTicks.2,
    if_neg hdamping, if_neg hreenter, if_neg (hne h.holdEntryCentiC.1),
    if_neg (hne h.holdExitCentiC.1), if_neg (hne h.holdOnCentiC.1),
    if_neg (hne h.overshootCutoffCentiC.1), if_neg (hne h.holdBlendTicks.1)]

/-- A zero in the point is a zero in the settings it was sanitized with. -/
structure PointSettled (settings : ThermalControlProfileSettingsConfig)
    (point : ThermalControlProfilePointConfig) : Prop where
  holdReheatPowerPermille : point.holdReheatPowerPermille = 0 → settings.holdReheatPowerPermille = 0
  holdOffCentiC : point.holdOffCentiC = 0 → settings.holdOffCentiC = 0
  holdKpPermillePerC : point.holdKpPermillePerC = 0 → settings.holdKpPermillePerC = 0
  holdKiPermillePerCTick : point.holdKiPermillePerCTick = 0 → settings.holdKiPermillePerCTick = 0

theorem pointSettled_sanitize (point : ThermalControlProfilePointConfig)
    (settings : ThermalControlProfileSettingsConfig) :
    PointSettled settings (sanitizeThermalProfilePoint point settings) where
  holdReheatPowerPermille := by
    simp only [sanitizeThermalProfilePoint]
    grind [atMost]
  holdOffCentiC := eq_zero_of_defaultOrMin (by decide)
  holdKpPermillePerC := eq_zero_of_defaultOrMin (by decide)
  holdKiPermillePerCTick := eq_zero_of_defaultOrMin (by decide)

theorem sanitizeThermalProfilePoint_eq_self (hrange : PointInRange point)
    (hsettled : PointSettled settings point) :
    sanitizeThermalProfilePoint point settings = point := by
  have hkeep : ∀ {value default : UInt16}, (value = 0 → default = 0) →
      (if value = 0 then default else value) = value := by
    intro value default hzero
    grind
  rw [sanitizeThermalProfilePoint_of_inRange hrange, hkeep hsettled.holdReheatPowerPermille,
    hkeep hsettled.holdOffCentiC, hkeep hsettled.holdKpPermillePerC,
    hkeep hsettled.holdKiPermillePerCTick]

/-! ## Whole profiles -/

structure ProfileSanitized (config : ThermalControlProfileConfig) : Prop where
  settings : SettingsInRange config.settings
  compact : packSlots profileMaxPoints (present config.points) = config.points
  sorted : (present config.points).Pairwise fun a b => a.targetTempC ≤ b.targetTempC
  inRange : ∀ point ∈ present config.points, PointInRange point
  settled : ∀ point ∈ present config.points, PointSettled config.settings point

theorem pairwise_sortByTarget (points : List ThermalControlProfilePointConfig) :
    (sortByTarget points).Pairwise fun a b => a.targetTempC ≤ b.targetTempC := by
  have htotal : Std.Total fun a b : ThermalControlProfilePointConfig =>
      a.targetTempC ≤ b.targetTempC := ⟨fun a b => by grind⟩
  have htrans : IsTrans ThermalControlProfilePointConfig fun a b =>
      a.targetTempC ≤ b.targetTempC := ⟨fun a b c hab hbc => by grind⟩
  exact List.pairwise_insertionSort _ _

theorem mem_sortByTarget {points : List ThermalControlProfilePointConfig} :
    point ∈ sortByTarget points ↔ point ∈ points :=
  (List.perm_insertionSort _ points).mem_iff

theorem length_sortByTarget (points : List ThermalControlProfilePointConfig) :
    (sortByTarget points).length = points.length := (List.perm_insertionSort _ points).length_eq

/-- The points of a sanitized profile, before they are packed. -/
theorem present_sanitize (config : ThermalControlProfileConfig) :
    present (sanitizeThermalControlProfile config).points =
      sortByTarget ((present config.points).map fun point =>
        sanitizeThermalProfilePoint point (sanitizeThermalProfileSettings config.settings)) := by
  have hlen : (sortByTarget ((present config.points).map fun point =>
      sanitizeThermalProfilePoint point
        (sanitizeThermalProfileSettings config.settings))).length ≤ profileMaxPoints := by
    rw [length_sortByTarget, List.length_map]
    exact length_present_le _
  simp only [sanitizeThermalControlProfile]
  rw [List.take_of_length_le hlen, present_packSlots hlen]

theorem profileSanitized_sanitize (config : ThermalControlProfileConfig) :
    ProfileSanitized (sanitizeThermalControlProfile config) where
  settings := settingsInRange_sanitize _
  compact := by
    rw [present_sanitize]
    simp only [sanitizeThermalControlProfile]
    rw [List.take_of_length_le]
    rw [length_sortByTarget, List.length_map]
    exact length_present_le _
  sorted := by
    rw [present_sanitize]
    exact pairwise_sortByTarget _
  inRange := by
    intro point hpoint
    rw [present_sanitize, mem_sortByTarget] at hpoint
    obtain ⟨source, -, rfl⟩ := List.mem_map.mp hpoint
    exact pointInRange_sanitize source (settingsInRange_sanitize _)
  settled := by
    intro point hpoint
    rw [present_sanitize, mem_sortByTarget] at hpoint
    obtain ⟨source, -, rfl⟩ := List.mem_map.mp hpoint
    exact pointSettled_sanitize source _

theorem sanitize_eq_self {config : ThermalControlProfileConfig} (h : ProfileSanitized config) :
    sanitizeThermalControlProfile config = config := by
  have hsettings := sanitizeThermalProfileSettings_eq_self h.settings
  have hpoints : (present config.points).map (fun point =>
      sanitizeThermalProfilePoint point config.settings) = present config.points := by
    have hself : ∀ point ∈ present config.points,
        sanitizeThermalProfilePoint point config.settings = id point := fun point hpoint =>
      sanitizeThermalProfilePoint_eq_self (h.inRange point hpoint) (h.settled point hpoint)
    rw [List.map_congr_left hself, List.map_id]
  have hsort : sortByTarget (present config.points) = present config.points :=
    List.Pairwise.insertionSort_eq h.sorted
  simp only [sanitizeThermalControlProfile, hsettings, hpoints, hsort]
  rw [List.take_of_length_le (length_present_le _), h.compact]

end FluxPurr.Memory
