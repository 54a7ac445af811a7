import FluxPurr.FrontPanel.Preview
import FluxPurr.FrontPanel.UiInvariant

/-!
# The preview beside the firmware

`Agrees` relates a panel and its preview field by field.  The two interpret a key differently on
four occasions (`Diverges`): on the diagnostics page, which no application run shows; on the
preset page, where `Left` goes to the previous slot of the panel and leaves the page of the
preview; in the menu, where the preview goes back to the first page of the device information
whatever is opened; and on the dashboard, for a preset that no setting allows.  Everywhere else
they stay in step (`agreesAfter_iff`), page by page.
-/

namespace FluxPurr.FrontPanel.Preview

open FluxPurr.Memory (PostHeatCoolingMode HeatingFanGuardMode)
open FluxPurr.Runs
open FrontPanelUiState

/-- The number by which the preview knows a page. -/
def pageNumber : DeviceInfoPage → ℕ
  | .identity => 0
  | .calibration => 1
  | .runtime => 2

/-- The panel takes keys for the application, and the preview shows the same. -/
structure Agrees (panel : FrontPanelUiState) (preview : FrontPanelRuntimeState) : Prop where
  runtimeMode : panel.runtimeMode = .app
  ready : panel.dashboardPresentation = .ready
  noFault : panel.persistenceFaultAttentionPending = false
  slot_lt : panel.selectedPresetSlot < frontpanelPresetCount
  mode : preview.mode = .app
  route : preview.route = panel.route
  target : preview.targetTempC = panel.targetTempC
  presets : preview.presetsC = panel.presetsC.toList
  slot : preview.selectedPresetIndex = panel.selectedPresetSlot
  menuItem : preview.selectedMenuItem = panel.selectedMenuItem
  page : preview.deviceInfoPage = pageNumber panel.deviceInfoPage
  row : preview.fanSettingsRow = panel.fanSettingsRow
  draftPostHeat : preview.fanSettingsDraftPostHeat = panel.fanSettingsDraftPostHeat
  draftGuard : preview.fanSettingsDraftGuard = panel.fanSettingsDraftGuard
  postHeat : preview.postHeatCoolingMode = panel.postHeatCoolingMode
  guard : preview.heatingFanGuardMode = panel.heatingFanGuardMode

/-- A key, as the panel and as the preview take it. -/
structure Press where
  event : KeyEvent
  rawKey : Option FrontPanelKey

def Press.interaction (press : Press) : FrontPanelRuntimeInteraction :=
  ⟨press.event.key, press.event.gesture, press.rawKey⟩

/-- A panel and a preview of it. -/
abbrev Pair := FrontPanelUiState × FrontPanelRuntimeState

def stepBoth (pair : Pair) (press : Press) : Option Pair :=
  (pair.1.handleEvent press.event).map fun handled =>
    (handled.1, applyFrontPanelInteraction pair.2 press.interaction)

/-- The panel's present page takes the gesture for this key. -/
def Allowed (pair : Pair) (press : Press) : Prop :=
  (pair.1.gestureCapabilities.gesturesFor press.event.key).supports press.event.gesture = true

def AgreesAfter (pair : Pair) (press : Press) : Prop :=
  ∃ next, stepBoth pair press = some next ∧ Agrees next.1 next.2

/-- The panel and the preview do different things. -/
def Diverges (panel : FrontPanelUiState) (event : KeyEvent) : Prop :=
  match panel.route with
  | .keyTest => True
  | .dashboard =>
      event.gesture = .shortPress ∧ (event.key = .left ∨ event.key = .right) ∧
        ∃ entry, panel.findNeighborPreset (event.key = .right) = some entry ∧ ¬ IsTargetTemp entry.2
  | .menu =>
      event.gesture = .shortPress ∧ event.key = .center ∧
        panel.selectedMenuItem ≠ .deviceInfo ∧ panel.deviceInfoPage ≠ .identity
  | .presetTemp => event.gesture = .shortPress ∧ event.key = .left
  | .activeCooling | .wifiInfo | .deviceInfo => False

variable {panel : FrontPanelUiState} {preview : FrontPanelRuntimeState}
  {interaction : FrontPanelRuntimeInteraction} {event : KeyEvent}

/-- The heater and the fan of the preview have no part in the agreement. -/
theorem agrees_reconcileCoolingState_iff :
    Agrees panel (reconcileCoolingState preview) ↔ Agrees panel preview :=
  ⟨fun h => { h with }, fun h => { h with }⟩

theorem agrees_updateKeyTest_iff :
    Agrees panel (updateKeyTest preview interaction) ↔ Agrees panel preview :=
  ⟨fun h => { h with }, fun h => { h with }⟩

theorem Agrees.noteKey (h : Agrees panel preview) : Agrees (panel.noteKey event) preview :=
  { h with }

/-! ## The helpers -/

theorem clampTargetTemp_eq (tempC : ℤ) : clampTargetTemp tempC = clampTargetTempC tempC := by
  unfold clampTargetTemp clampTargetTempC frontpanelTargetTempMinC frontpanelTargetTempMaxC
  omega

theorem presetAt_toList (presetsC : Vector (Option ℤ) frontpanelPresetCount) (index : ℕ) :
    presetAt presetsC.toList index = presetsC[index]?.join := by
  rw [presetAt, Vector.getElem?_toList]

theorem assignPreset_toList {presetsC : Vector (Option ℤ) frontpanelPresetCount} {index : ℕ}
    (hindex : index < frontpanelPresetCount) (preset : Option ℤ) :
    assignPreset presetsC.toList index preset = (presetsC.set index preset hindex).toList := by
  rw [assignPreset, if_pos (by simpa using hindex), Vector.toList_set]

theorem presetLe_iff (a b : ℕ × ℤ) :
    FrontPanelUiState.PresetLe a b ↔ PresetEntry.Le ⟨a.1, a.2⟩ ⟨b.1, b.2⟩ := by
  unfold FrontPanelUiState.PresetLe PresetEntry.Le
  dsimp only
  split_ifs with hne
  · omega
  · omega

theorem sortedActivePresetEntries_eq (h : Agrees panel preview) :
    sortedActivePresetEntries preview =
      panel.sortedActivePresets.map fun entry => ⟨entry.1, entry.2⟩ := by
  rw [sortedActivePresets, List.map_insertionSort _ PresetEntry.Le]
  · rw [sortedActivePresetEntries, h.presets]
    congr 1
    simp only [activePresets, List.map_filterMap, Option.map_map]
    rfl
  · intro a _ b _
    exact presetLe_iff a b

theorem findNeighborPreset_eq (h : Agrees panel preview) (ascending : Bool) :
    findNeighborPreset preview ascending =
      (panel.findNeighborPreset ascending).map fun entry => ⟨entry.1, entry.2⟩ := by
  unfold findNeighborPreset FrontPanelUiState.findNeighborPreset
  rw [sortedActivePresetEntries_eq h, h.target]
  dsimp only
  split_ifs
  · rw [List.find?_map]
    rfl
  · rw [← List.map_reverse, List.find?_map]
    rfl

theorem presetAt_selected (h : Agrees panel preview) :
    panel.selectedPreset = some (presetAt preview.presetsC preview.selectedPresetIndex) := by
  rw [h.presets, h.slot, presetAt_toList]
  have hslot : panel.selectedPresetSlot < frontpanelPresetCount := h.slot_lt
  rw [selectedPreset, Vector.getElem?_eq_getElem hslot]
  rfl

theorem matchingPresetSlot_eq (h : Agrees panel preview) (targetTempC : ℤ) :
    matchingPresetSlot { panel with targetTempC } =
      some (matchingPresetIndex preview targetTempC) := by
  have hpreset := presetAt_selected h
  have hselected : selectedPreset { panel with targetTempC } =
      some (presetAt preview.presetsC preview.selectedPresetIndex) := hpreset
  rw [matchingPresetSlot, hselected, matchingPresetIndex]
  simp only [Option.bind_eq_bind, Option.bind_some]
  split_ifs
  · rw [h.slot]
    rfl
  · rw [h.presets]
    rfl

/-! ## The dashboard -/

theorem agrees_retarget (h : Agrees panel preview) (tempC : ℤ) :
    ∃ next, panel.setTargetTempC tempC = some next ∧
      Agrees next (retarget preview (clampTargetTempC tempC)) := by
  obtain ⟨slot, hslot, heq⟩ := setTargetTempC_eq_some h.slot_lt tempC
  refine ⟨_, heq, agrees_reconcileCoolingState_iff.mpr ?_⟩
  -- The slot that the panel selects is the one that the preview finds.
  have hfound : (matchingPresetIndex preview (clampTargetTempC tempC)).getD
      panel.selectedPresetSlot = slot := by
    simpa [setTargetTempC, matchingPresetSlot_eq h] using heq
  exact { h with
    slot_lt := hslot
    target := rfl
    slot := by rw [← hfound, ← h.slot] }

/-- A preset that may be set stays selected when it becomes the target. -/
theorem setTargetTempC_of_selected {tempC : ℤ}
    (hselected : panel.selectedPreset = some (some tempC))
    (htemp : IsTargetTemp tempC) :
    panel.setTargetTempC tempC = some { panel with targetTempC := tempC } := by
  have hselected' : selectedPreset { panel with targetTempC := tempC } =
      some (some tempC) := hselected
  simp [setTargetTempC, matchingPresetSlot, clampTargetTempC_eq_iff.mpr htemp, hselected']

theorem agrees_goToNeighbor_iff (h : Agrees panel preview) (ascending : Bool) :
    ∃ next : FrontPanelUiState × Bool,
      (match panel.findNeighborPreset ascending with
        | some (slot, temp) => do
            let state ← { panel with selectedPresetSlot := slot }.setTargetTempC temp
            return (state, true)
        | none => some (panel, false)) = some next ∧
      (Agrees next.1 (goToNeighbor preview ascending) ↔
        ∀ entry, panel.findNeighborPreset ascending = some entry → IsTargetTemp entry.2) := by
  have hweb := findNeighborPreset_eq h ascending
  cases hneighbor : panel.findNeighborPreset ascending with
  | none =>
    rw [hneighbor, Option.map_none] at hweb
    refine ⟨(panel, false), rfl, iff_of_true ?_ nofun⟩
    simpa only [goToNeighbor, hweb] using h
  | some entry =>
    obtain ⟨slot, temp⟩ := entry
    rw [hneighbor, Option.map_some] at hweb
    have hslot := findNeighborPreset_lt hneighbor
    have hpreset := mem_activePresets.mp
      (mem_activePresets_of_findNeighborPreset hneighbor)
    simp only [goToNeighbor, hweb, agrees_reconcileCoolingState_iff, Option.some.injEq,
      forall_eq']
    by_cases htemp : IsTargetTemp temp
    · have heq := @setTargetTempC_of_selected { panel with selectedPresetSlot := slot } temp
        hpreset htemp
      refine ⟨({ panel with selectedPresetSlot := slot, targetTempC := temp }, true), ?_, ?_⟩
      · rw [heq]
        rfl
      · refine iff_of_true ?_ htemp
        exact { h with
          slot_lt := hslot
          target := rfl
          slot := rfl }
    · obtain ⟨found, hfound, heq⟩ := @setTargetTempC_eq_some
        { panel with selectedPresetSlot := slot } hslot temp
      refine ⟨(_, true), by rw [heq]; rfl, iff_of_false ?_ htemp⟩
      intro hagrees
      exact htemp (clampTargetTempC_eq_iff.mp hagrees.target.symm)

theorem agrees_toggleHeater (h : Agrees panel preview) :
    Agrees { panel with heaterEnabled := !panel.heaterEnabled } (toggleHeater preview) :=
  agrees_reconcileCoolingState_iff.mpr { h with }

variable {press : Press}

theorem dashboard_agrees_iff (h : Agrees panel preview) (hroute : panel.route = .dashboard) :
    ∃ next, panel.applyDashboardEvent press.event = some next ∧
      (Agrees next.1 (applyDashboardInteraction preview press.interaction) ↔
        ¬ Diverges panel press.event) := by
  have hstep (tempC : ℤ) : ∃ next : FrontPanelUiState × Bool,
      (do
        let state ← panel.setTargetTempC (saturateI16 tempC)
        return (state, true)) = some next ∧
      Agrees next.1 (retarget preview (clampTargetTemp tempC)) := by
    obtain ⟨next, hnext, hagrees⟩ := agrees_retarget h (saturateI16 tempC)
    rw [clampTargetTempC_saturateI16, ← clampTargetTemp_eq] at hagrees
    exact ⟨(next, true), by rw [hnext]; rfl, hagrees⟩
  obtain ⟨⟨rawKey, key, gesture, atMs⟩, raw⟩ := press
  cases key <;> cases gesture
  case up.shortPress | up.repeatPress =>
    obtain ⟨next, hnext, hagrees⟩ := hstep (panel.targetTempC + 1)
    rw [← h.target] at hnext hagrees
    exact ⟨next, by rw [← hnext, h.target]; rfl, iff_of_true hagrees (by simp [Diverges, hroute])⟩
  case down.shortPress | down.repeatPress =>
    obtain ⟨next, hnext, hagrees⟩ := hstep (panel.targetTempC - 1)
    rw [← h.target] at hnext hagrees
    exact ⟨next, by rw [← hnext, h.target]; rfl, iff_of_true hagrees (by simp [Diverges, hroute])⟩
  case left.shortPress =>
    obtain ⟨next, hnext, hagrees⟩ := agrees_goToNeighbor_iff h false
    exact ⟨next, hnext, hagrees.trans (by simp [Diverges, hroute])⟩
  case right.shortPress =>
    obtain ⟨next, hnext, hagrees⟩ := agrees_goToNeighbor_iff h true
    exact ⟨next, hnext, hagrees.trans (by simp [Diverges, hroute])⟩
  case center.shortPress =>
    exact ⟨_, rfl, iff_of_true (agrees_toggleHeater h) (by simp [Diverges, hroute])⟩
  case center.longPress =>
    refine ⟨_, rfl, iff_of_true ?_ (by simp [Diverges, hroute])⟩
    exact { h with route := rfl }
  -- The other gestures are not taken by either.
  all_goals exact ⟨(panel, false), rfl, iff_of_true h (by simp [Diverges, hroute])⟩

/-! ## The menu -/

theorem stepMenuItem_left (item : FrontPanelMenuItem) :
    stepMenuItem item (menuItems.length - 1) =
      match item with
      | .presetTemp => .deviceInfo
      | .activeCooling => .presetTemp
      | .wifiInfo => .activeCooling
      | .deviceInfo => .wifiInfo := by
  cases item <;> rfl

theorem stepMenuItem_right (item : FrontPanelMenuItem) : stepMenuItem item 1 = match item with
      | .presetTemp => .activeCooling
      | .activeCooling => .wifiInfo
      | .wifiInfo => .deviceInfo
      | .deviceInfo => .presetTemp := by
  cases item <;> rfl

theorem pageNumber_eq_zero_iff {page : DeviceInfoPage} :
    pageNumber page = 0 ↔ page = .identity := by
  cases page with
  | identity => exact iff_of_true rfl rfl
  | calibration | runtime => exact iff_of_false nofun nofun

theorem applyMenuEvent_center (h : Agrees panel preview) (hkey : event.key = .center)
    (hgesture : event.gesture = .shortPress) :
    ∃ code, (panel.applyMenuEvent event).1 =
      { panel with
        route := panel.selectedMenuItem.route
        deviceInfoPage :=
          if panel.selectedMenuItem = .deviceInfo then .identity else panel.deviceInfoPage
        wifiPairingCode := code } := by
  unfold applyMenuEvent
  rw [hkey, hgesture]
  cases hitem : panel.selectedMenuItem with
  | presetTemp =>
    refine ⟨none, ?_⟩
    simp [FrontPanelMenuItem.route, leaveWifiPairing, ensureSelectedPresetSlot, h.slot_lt]
  | activeCooling =>
    refine ⟨none, ?_⟩
    simp [FrontPanelMenuItem.route, leaveWifiPairing]
  | wifiInfo =>
    refine ⟨panel.wifiPairingCode, ?_⟩
    simp [FrontPanelMenuItem.route]
  | deviceInfo =>
    refine ⟨none, ?_⟩
    simp [FrontPanelMenuItem.route, leaveWifiPairing]

theorem menu_agrees_iff (h : Agrees panel preview) (hroute : panel.route = .menu) :
    Agrees (panel.applyMenuEvent press.event).1 (applyMenuInteraction preview press.interaction) ↔
      ¬ Diverges panel press.event := by
  obtain ⟨⟨rawKey, key, gesture, atMs⟩, raw⟩ := press
  cases key <;> cases gesture
  case left.shortPress =>
    refine iff_of_true ?_ (by simp [Diverges, hroute])
    refine { h with menuItem := ?_ }
    change stepMenuItem preview.selectedMenuItem _ = _
    rw [h.menuItem]
    exact stepMenuItem_left _
  case right.shortPress =>
    refine iff_of_true ?_ (by simp [Diverges, hroute])
    refine { h with menuItem := ?_ }
    change stepMenuItem preview.selectedMenuItem _ = _
    rw [h.menuItem]
    exact stepMenuItem_right _
  case center.shortPress =>
    obtain ⟨code, heq⟩ := @applyMenuEvent_center _ _ ⟨rawKey, .center, .shortPress, atMs⟩ h rfl rfl
    rw [heq]
    have hdiverges : ¬ Diverges panel ⟨rawKey, .center, .shortPress, atMs⟩ ↔
        (panel.selectedMenuItem ≠ .deviceInfo → panel.deviceInfoPage = .identity) := by
      simp [Diverges, hroute]
    rw [hdiverges]
    constructor
    · intro hagrees hitem
      have hpage := hagrees.page
      rw [if_neg hitem] at hpage
      exact pageNumber_eq_zero_iff.mp hpage.symm
    · intro hpage
      have hopened : 0 = pageNumber
          (if panel.selectedMenuItem = .deviceInfo then .identity else panel.deviceInfoPage) := by
        split_ifs with hitem
        · rfl
        · rw [hpage hitem]
          rfl
      exact { h with
        route := congrArg FrontPanelMenuItem.route h.menuItem
        page := hopened }
  case center.longPress =>
    refine iff_of_true ?_ (by simp [Diverges, hroute])
    exact { h with route := rfl }
  all_goals exact iff_of_true h (by simp [Diverges, hroute])

/-! ## The preset page -/

theorem agrees_editPreset (h : Agrees panel preview) (tempC : ℤ) :
    ∃ next : FrontPanelUiState × Bool,
      (do
        let state ← panel.putSelectedPreset (some (clampTargetTempC tempC))
        let state ← state.setTargetTempC (clampTargetTempC tempC)
        return (state, true)) = some next ∧
      Agrees next.1 (reconcileCoolingState { preview with
        presetsC := assignPreset preview.presetsC preview.selectedPresetIndex
          (some (clampTargetTempC tempC))
        targetTempC := clampTargetTempC tempC }) := by
  have hslot : panel.selectedPresetSlot < frontpanelPresetCount := h.slot_lt
  have hput := putSelectedPreset_eq_some hslot (some (clampTargetTempC tempC))
  have htarget := @setTargetTempC_of_selected
    { panel with
      presetsC := panel.presetsC.set panel.selectedPresetSlot (some (clampTargetTempC tempC)) }
    (clampTargetTempC tempC) (by simp [selectedPreset, hslot])
    (isTargetTemp_clampTargetTempC tempC)
  refine ⟨({ panel with
      presetsC := panel.presetsC.set panel.selectedPresetSlot (some (clampTargetTempC tempC))
      targetTempC := clampTargetTempC tempC }, true), ?_, ?_⟩
  · rw [hput, Option.bind_eq_bind, Option.bind_some, htarget]
    rfl
  · refine agrees_reconcileCoolingState_iff.mpr ?_
    exact { h with
      target := rfl
      presets := by
        change assignPreset preview.presetsC preview.selectedPresetIndex _ = _
        rw [h.presets, h.slot, assignPreset_toList hslot] }

theorem agrees_disablePreset (h : Agrees panel preview) : ∃ next : FrontPanelUiState × Bool, (do
        let state ← panel.putSelectedPreset none
        return (state, true)) = some next ∧
      Agrees next.1 { preview with
        presetsC := assignPreset preview.presetsC preview.selectedPresetIndex none } := by
  have hslot : panel.selectedPresetSlot < frontpanelPresetCount := h.slot_lt
  refine ⟨({ panel with
      presetsC := panel.presetsC.set panel.selectedPresetSlot none }, true), ?_, ?_⟩
  · rw [putSelectedPreset_eq_some hslot none]
    rfl
  · exact { h with
      presets := by
        change assignPreset preview.presetsC preview.selectedPresetIndex _ = _
        rw [h.presets, h.slot, assignPreset_toList hslot] }

theorem presetTemp_agrees_iff (h : Agrees panel preview) (hroute : panel.route = .presetTemp) :
    ∃ next, panel.applyPresetTempEvent press.event = some next ∧
      (Agrees next.1 (applyPresetTempInteraction preview press.interaction) ↔
        ¬ Diverges panel press.event) := by
  have hensure := ensureSelectedPresetSlot_eq h.slot_lt
  have hselected := presetAt_selected h
  obtain ⟨⟨rawKey, key, gesture, atMs⟩, raw⟩ := press
  cases key <;> cases gesture
  case right.shortPress =>
    refine ⟨_, rfl, iff_of_true ?_ (by simp [Diverges, hroute])⟩
    have hlength : preview.presetsC.length = frontpanelPresetCount := by
      rw [h.presets, Vector.length_toList]
    have hnext : nextPresetSlot preview = some (panel.advancePresetSlot,
        presetAt preview.presetsC panel.advancePresetSlot) := by
      rw [nextPresetSlot, hlength, h.slot]
      rfl
    simp only [applyPresetTempInteraction, Press.interaction, hnext]
    exact { h with
      slot_lt := Nat.mod_lt _ (by decide)
      slot := rfl }
  case left.shortPress =>
    refine ⟨_, rfl, iff_of_false ?_ (by simp [Diverges, hroute])⟩
    intro hagrees
    have hleft : FrontPanelRoute.menu = panel.route := hagrees.route
    exact absurd (hleft.trans hroute) (by decide)
  case up.shortPress | up.repeatPress =>
    simp only [applyPresetTempEvent, applyPresetTempInteraction,
      Press.interaction, hensure, hselected, Option.bind_eq_bind, Option.bind_some]
    cases hpreset : presetAt preview.presetsC preview.selectedPresetIndex with
    | none =>
      obtain ⟨next, hnext, hagrees⟩ := agrees_editPreset h 0
      refine ⟨next, hnext, iff_of_true ?_ (by simp [Diverges, hroute])⟩
      simpa only [clampTargetTemp_eq] using hagrees
    | some tempC =>
      obtain ⟨next, hnext, hagrees⟩ := agrees_editPreset h (tempC + 1)
      refine ⟨next, ?_, iff_of_true ?_ (by simp [Diverges, hroute])⟩
      · simpa using hnext
      · simpa only [clampTargetTemp_eq] using hagrees
  case down.shortPress | down.repeatPress =>
    simp only [applyPresetTempEvent, applyPresetTempInteraction,
      Press.interaction, hensure, hselected, Option.bind_eq_bind, Option.bind_some]
    cases hpreset : presetAt preview.presetsC preview.selectedPresetIndex with
    | none =>
      obtain ⟨next, hnext, hagrees⟩ := agrees_disablePreset h
      exact ⟨next, hnext, iff_of_true hagrees (by simp [Diverges, hroute])⟩
    | some tempC =>
      by_cases hpos : tempC > 0
      · obtain ⟨next, hnext, hagrees⟩ := agrees_editPreset h (tempC - 1)
        refine ⟨next, ?_, iff_of_true ?_ (by simp [Diverges, hroute])⟩
        · simpa [hpos] using hnext
        · simpa only [clampTargetTemp_eq, not_le.mpr hpos, if_false] using hagrees
      · obtain ⟨next, hnext, hagrees⟩ := agrees_disablePreset h
        refine ⟨next, ?_, iff_of_true ?_ (by simp [Diverges, hroute])⟩
        · simpa [hpos] using hnext
        · simpa only [not_lt.mp hpos, if_true] using hagrees
  case center.shortPress | center.longPress =>
    refine ⟨_, rfl, iff_of_true ?_ (by simp [Diverges, hroute])⟩
    exact { h with route := rfl }
  all_goals exact ⟨(panel, false), rfl, iff_of_true h (by simp [Diverges, hroute])⟩

/-! ## The fan page -/

theorem stepMode_postHeat (mode : PostHeatCoolingMode) (forward : Bool) :
    stepMode postHeatModes mode forward = cyclePostHeat mode forward := by
  cases mode <;> cases forward <;> rfl

theorem stepMode_heatingGuard (mode : HeatingFanGuardMode) (forward : Bool) :
    stepMode heatingGuardModes mode forward = cycleHeatingGuard mode forward := by
  cases mode <;> cases forward <;> rfl

theorem agrees_cycleDraft (h : Agrees panel preview) (forward : Bool) :
    Agrees
      (if panel.fanSettingsRow = 0 then
        { panel with
          fanSettingsDraftPostHeat := cyclePostHeat panel.fanSettingsDraftPostHeat forward }
      else
        { panel with
          fanSettingsDraftGuard := cycleHeatingGuard panel.fanSettingsDraftGuard forward })
      (if preview.fanSettingsRow = 0 then
        { preview with
          fanSettingsDraftPostHeat :=
            stepMode postHeatModes preview.fanSettingsDraftPostHeat forward }
      else
        { preview with
          fanSettingsDraftGuard :=
            stepMode heatingGuardModes preview.fanSettingsDraftGuard forward }) := by
  rw [stepMode_postHeat, stepMode_heatingGuard]
  by_cases hrow : panel.fanSettingsRow = 0
  · rw [if_pos hrow, if_pos (h.row.trans hrow)]
    exact { h with draftPostHeat := congrArg (cyclePostHeat · forward) h.draftPostHeat }
  · rw [if_neg hrow, if_neg (h.row.trans_ne hrow)]
    exact { h with draftGuard := congrArg (cycleHeatingGuard · forward) h.draftGuard }

theorem activeCooling_agrees (h : Agrees panel preview) :
    Agrees (panel.applyActiveCoolingEvent press.event).1
      (applyActiveCoolingInteraction preview press.interaction) := by
  obtain ⟨⟨rawKey, key, gesture, atMs⟩, raw⟩ := press
  cases key <;> cases gesture
  case up.shortPress | down.shortPress =>
    exact { h with row := congrArg (fun row => if row = 0 then 1 else 0) h.row }
  case left.shortPress =>
    change Agrees (if panel.fanSettingsRow = 0 then (_, true) else (_, true)).1
      (if preview.fanSettingsRow = 0 then _ else _)
    rw [apply_ite Prod.fst]
    exact agrees_cycleDraft h false
  case right.shortPress =>
    change Agrees (if panel.fanSettingsRow = 0 then (_, true) else (_, true)).1
      (if preview.fanSettingsRow = 0 then _ else _)
    rw [apply_ite Prod.fst]
    exact agrees_cycleDraft h true
  case center.shortPress =>
    refine agrees_reconcileCoolingState_iff.mpr ?_
    exact { h with
      route := rfl
      postHeat := h.draftPostHeat
      guard := h.draftGuard }
  case center.longPress =>
    exact { h with
      route := rfl
      draftPostHeat := h.postHeat
      draftGuard := h.guard }
  all_goals exact h

/-! ## The information pages -/

theorem wifiInfo_agrees (h : Agrees panel preview) (hroute : panel.route = .wifiInfo) :
    Agrees (panel.applyReadonlyPageEvent press.event).1
      (applyInfoInteraction preview press.interaction) := by
  have hpreview := h.route.trans hroute
  obtain ⟨⟨rawKey, key, gesture, atMs⟩, raw⟩ := press
  unfold applyInfoInteraction
  rw [hpreview, if_neg (by simp)]
  cases key <;> cases gesture
  case left.shortPress | center.shortPress | center.longPress =>
    rw [if_pos (by simp [Press.interaction])]
    simp only [applyReadonlyPageEvent, hroute, if_true]
    exact { h with route := rfl }
  all_goals exact h

theorem pageNumber_left (page : DeviceInfoPage) :
    (pageNumber page + 2) % 3 =
      pageNumber (match page with
        | .identity => .runtime
        | .calibration => .identity
        | .runtime => .calibration) := by
  cases page <;> rfl

theorem pageNumber_right (page : DeviceInfoPage) :
    (pageNumber page + 1) % 3 =
      pageNumber (match page with
        | .identity => .calibration
        | .calibration => .runtime
        | .runtime => .identity) := by
  cases page <;> rfl

theorem deviceInfo_agrees (h : Agrees panel preview) (hroute : panel.route = .deviceInfo) :
    Agrees (panel.applyDeviceInfoEvent press.event).1
      (applyInfoInteraction preview press.interaction) := by
  have hpreview := h.route.trans hroute
  obtain ⟨⟨rawKey, key, gesture, atMs⟩, raw⟩ := press
  unfold applyInfoInteraction
  cases key <;> cases gesture
  case left.shortPress =>
    rw [if_pos ⟨hpreview, rfl, .inl rfl⟩]
    refine { h with page := ?_ }
    change (preview.deviceInfoPage + 2) % 3 = _
    rw [h.page]
    exact pageNumber_left _
  case right.shortPress =>
    rw [if_pos ⟨hpreview, rfl, .inr rfl⟩]
    refine { h with page := ?_ }
    change (preview.deviceInfoPage + 1) % 3 = _
    rw [h.page]
    exact pageNumber_right _
  case center.shortPress | center.longPress =>
    rw [if_neg (by simp [Press.interaction]), if_pos (by simp [Press.interaction])]
    exact { h with route := rfl }
  all_goals
    rw [if_neg (by simp [Press.interaction]), if_neg (by simp [Press.interaction])]
    exact h

theorem keyTest_not_agrees (h : Agrees panel preview) (hroute : panel.route = .keyTest) :
    ¬ Agrees { panel with route := .dashboard }
      (applyInfoInteraction preview press.interaction) := by
  have hpreview := h.route.trans hroute
  intro hagrees
  have hdashboard : (applyInfoInteraction preview press.interaction).route = .dashboard :=
    hagrees.route
  unfold applyInfoInteraction at hdashboard
  rw [hpreview, if_neg (by simp)] at hdashboard
  split_ifs at hdashboard
  exact absurd (hpreview.symm.trans hdashboard) (by decide)

/-! ## Whole runs -/

theorem handleEvent_eq (h : Agrees panel preview) :
    panel.handleEvent event = (panel.noteKey event).applyAppEvent event := by
  have hready : panel.dashboardIsReady = true := by
    simp [dashboardIsReady, h.ready]
  have hnote : { panel.noteKey event with persistenceFaultAttentionPending := false } =
      panel.noteKey event := by
    rw [← h.noFault]
    rfl
  unfold handleEvent
  rw [if_neg (by simp [hready])]
  dsimp only
  rw [hnote]
  simp [errorPageVisible, noteKey, h.noFault, h.runtimeMode]

theorem diverges_noteKey_iff : Diverges
    (panel.noteKey event) event ↔ Diverges panel event := Iff.rfl

theorem agreesAfter_iff (h : Agrees panel preview) :
    AgreesAfter (panel, preview) press ↔ ¬ Diverges panel press.event := by
  have hnoted : Agrees (panel.noteKey press.event) (updateKeyTest preview press.interaction) :=
    agrees_updateKeyTest_iff.mpr h.noteKey
  have hmode : (updateKeyTest preview press.interaction).mode ≠ .keyTest := by
    rw [hnoted.mode]
    decide
  rw [← diverges_noteKey_iff]
  have hstep : ∃ next, panel.handleEvent press.event = some next ∧
      (Agrees next.1 (applyFrontPanelInteraction preview press.interaction) ↔
        ¬ Diverges (panel.noteKey press.event) press.event) := by
    rw [handleEvent_eq h]
    unfold applyFrontPanelInteraction applyAppEvent
    dsimp only
    rw [if_neg hmode, hnoted.route]
    generalize panel.noteKey press.event = noted at hnoted ⊢
    cases hroute : noted.route with
    | keyTest =>
      refine ⟨_, rfl, iff_of_false (keyTest_not_agrees hnoted hroute) ?_⟩
      simp [Diverges, hroute]
    | dashboard => exact dashboard_agrees_iff hnoted hroute
    | menu => exact ⟨_, rfl, menu_agrees_iff hnoted hroute⟩
    | presetTemp => exact presetTemp_agrees_iff hnoted hroute
    | activeCooling =>
      exact ⟨_, rfl, iff_of_true (activeCooling_agrees hnoted) (by simp [Diverges, hroute])⟩
    | wifiInfo =>
      exact ⟨_, rfl, iff_of_true (wifiInfo_agrees hnoted hroute) (by simp [Diverges, hroute])⟩
    | deviceInfo =>
      exact ⟨_, rfl, iff_of_true (deviceInfo_agrees hnoted hroute) (by simp [Diverges, hroute])⟩
  obtain ⟨next, hnext, hiff⟩ := hstep
  rw [← hiff]
  simp [AgreesAfter, stepBoth, hnext]

/-- From states that agree, the panel and its preview agree after every key exactly if no key of
the run is one that they take differently. -/
theorem staysInStep_iff (h : Agrees panel preview) (presses : List Press) :
    Throughout stepBoth AgreesAfter (panel, preview) presses ↔
      Throughout stepBoth (fun pair press => ¬ Diverges pair.1 press.event) (panel, preview)
        presses := by
  refine @throughout_congr _ _ _ _ _ (fun pair => Agrees pair.1 pair.2) _ _ h ?_ ?_
  · rintro ⟨panel, preview⟩ press hagrees
    exact agreesAfter_iff hagrees
  · rintro pair press next - ⟨after, hafter, hagrees⟩ hnext
    obtain rfl : after = next := Option.some.inj (hafter.symm.trans hnext)
    exact hagrees

theorem agrees_create : Agrees (.new .app) (createFrontPanelRuntimeState .app) :=
  agrees_reconcileCoolingState_iff.mpr
    { runtimeMode := rfl
      ready := rfl
      noFault := rfl
      slot_lt := by decide
      mode := rfl
      route := rfl
      target := rfl
      presets := rfl
      slot := rfl
      menuItem := rfl
      page := rfl
      row := rfl
      draftPostHeat := rfl
      draftGuard := rfl
      postHeat := rfl
      guard := rfl }

theorem staysInStep_up :
    Throughout stepBoth AgreesAfter (.new .app, createFrontPanelRuntimeState .app)
      [⟨⟨.up, .up, .shortPress, 300⟩, none⟩] := by
  refine (staysInStep_iff agrees_create _).mpr ⟨?_, fun _ _ => trivial⟩
  simp [Diverges, new]

/-- From the dashboard into the menu, to the preset page, and `Left`. -/
def leftOnPresetPage : List Press :=
  [⟨⟨.centerBoot, .center, .longPress, 600⟩, none⟩,
    ⟨⟨.down, .left, .shortPress, 900⟩, none⟩,
    ⟨⟨.centerBoot, .center, .shortPress, 1200⟩, none⟩,
    ⟨⟨.down, .left, .shortPress, 1500⟩, none⟩]

theorem not_staysInStep_leftOnPresetPage :
    Agrees (.new .app) (createFrontPanelRuntimeState .app) ∧
      Throughout stepBoth Allowed (.new .app, createFrontPanelRuntimeState .app)
        leftOnPresetPage ∧
      ¬ Throughout stepBoth AgreesAfter (.new .app, createFrontPanelRuntimeState .app)
        leftOnPresetPage := by
  refine ⟨agrees_create, ?_, ?_⟩
  · refine ⟨rfl, ?_⟩
    rintro _ ⟨⟩
    refine ⟨rfl, ?_⟩
    rintro _ ⟨⟩
    refine ⟨rfl, ?_⟩
    rintro _ ⟨⟩
    refine ⟨rfl, ?_⟩
    rintro _ ⟨⟩
    trivial
  · intro hagrees
    obtain ⟨-, hagrees⟩ := hagrees
    obtain ⟨-, hagrees⟩ := hagrees _ rfl
    obtain ⟨-, hagrees⟩ := hagrees _ rfl
    obtain ⟨⟨next, hnext, hlast⟩, -⟩ := hagrees _ rfl
    cases hnext
    exact absurd hlast.route (by decide)

end FluxPurr.FrontPanel.Preview
