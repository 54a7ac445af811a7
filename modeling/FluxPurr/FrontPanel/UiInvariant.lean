import FluxPurr.FrontPanel.UiState
import FluxPurr.Runs.Throughout

/-!
# The invariant of the front panel

`FrontPanelUiState.Sound` is what holds of the panel's state between two operations: the
temperatures are in range, the selected slot is one, the pairing code is shown on its own page
only, and a fan setting that is being edited differs from the applied one on the fan page only.
No operation panics in a sound state.

Every page keeps the invariant (`handleEvent_keeps`), since the fan page either applies its drafts
or takes them back when it is left by a key.  The one operation that leaves it otherwise is
`enterWifiPairing`, which puts the WiFi page in its place and does nothing about the drafts
(`sound_enterWifiPairing_iff`).
-/

namespace FluxPurr.FrontPanel

open FluxPurr.Memory (PostHeatCoolingMode HeatingFanGuardMode)
open FluxPurr.Runs

namespace FrontPanelUiState

variable {state next : FrontPanelUiState} {event : KeyEvent}

def appliedFanSettings (state : FrontPanelUiState) : PostHeatCoolingMode × HeatingFanGuardMode :=
  (state.postHeatCoolingMode, state.heatingFanGuardMode)

def draftFanSettings (state : FrontPanelUiState) : PostHeatCoolingMode × HeatingFanGuardMode :=
  (state.fanSettingsDraftPostHeat, state.fanSettingsDraftGuard)

structure Sound (state : FrontPanelUiState) : Prop where
  target : IsTargetTemp state.targetTempC
  presets : ∀ temp, some temp ∈ state.presetsC → IsTargetTemp temp
  slot : state.selectedPresetSlot < frontpanelPresetCount
  pairing : state.wifiPairingCode.isSome → state.route = .wifiInfo
  cooling : state.activeCoolingEnabled = state.postHeatCoolingMode.isEnabled
  drafts : state.route ≠ .activeCooling → state.draftFanSettings = state.appliedFanSettings

theorem sound_new (runtimeMode : FrontPanelRuntimeMode) : (new runtimeMode).Sound where
  target := isTargetTemp_clampTargetTempC 100
  presets := by
    intro temp htemp
    simp only [new, Vector.mem_mk, List.mem_toArray, List.mem_cons, Option.some.injEq,
      List.not_mem_nil, or_false] at htemp
    unfold IsTargetTemp frontpanelTargetTempMinC frontpanelTargetTempMaxC
    omega
  slot := Nat.one_lt_succ_succ 8
  pairing := nofun
  cooling := rfl
  drafts := fun _ => rfl

theorem sound_newStartup (runtimeMode : FrontPanelRuntimeMode) : (newStartup runtimeMode).Sound :=
  { sound_new runtimeMode with }

/-! ## Presets -/

/-- In a sound state the drafts are not of another page, and no code is shown there. -/
theorem Sound.pairing_eq_none (h : state.Sound) (hroute : state.route ≠ .wifiInfo) :
    state.wifiPairingCode = none := by
  by_contra hsome
  exact hroute (h.pairing (Option.isSome_iff_ne_none.mpr hsome))

theorem matchingPresetSlot_eq_some (hslot : state.selectedPresetSlot < frontpanelPresetCount) :
    ∃ slot, state.matchingPresetSlot = some slot ∧
      ∀ found ∈ slot, found < frontpanelPresetCount := by
  have hselected : state.selectedPreset = some state.presetsC[state.selectedPresetSlot] :=
    Vector.getElem?_eq_getElem hslot
  simp only [matchingPresetSlot, hselected, Option.bind_eq_bind, Option.bind_some]
  split_ifs with hmatch
  · refine ⟨_, rfl, ?_⟩
    rintro found ⟨⟩
    exact hslot
  · refine ⟨_, rfl, ?_⟩
    intro found hfound
    obtain ⟨hlt, -⟩ := List.findIdx?_eq_some_iff_getElem.mp hfound
    simpa using hlt

/-- A new target moves the selection to a slot that holds it, and changes nothing else. -/
theorem setTargetTempC_eq_some (hslot : state.selectedPresetSlot < frontpanelPresetCount)
    (targetTempC : ℤ) :
    ∃ slot < frontpanelPresetCount, state.setTargetTempC targetTempC =
      some { state with
        targetTempC := clampTargetTempC targetTempC
        selectedPresetSlot := slot } := by
  obtain ⟨found, hfound, hbound⟩ := @matchingPresetSlot_eq_some
    { state with targetTempC := clampTargetTempC targetTempC } hslot
  refine ⟨found.getD state.selectedPresetSlot, ?_, ?_⟩
  · cases found with
    | none => exact hslot
    | some found => exact hbound found rfl
  · simp [setTargetTempC, hfound]

theorem putSelectedPreset_eq_some (hslot : state.selectedPresetSlot < frontpanelPresetCount)
    (preset : Option ℤ) :
    state.putSelectedPreset preset =
      some { state with
        presetsC := state.presetsC.set state.selectedPresetSlot preset hslot } :=
  dif_pos hslot

theorem ensureSelectedPresetSlot_eq (hslot : state.selectedPresetSlot < frontpanelPresetCount) :
    state.ensureSelectedPresetSlot = state :=
  if_neg (Nat.not_le.mpr hslot)

theorem mem_activePresets {entry : ℕ × ℤ} :
    entry ∈ state.activePresets ↔ state.presetsC[entry.1]? = some (some entry.2) := by
  obtain ⟨slot, temp⟩ := entry
  have hlist : (some temp, slot) ∈ state.presetsC.toList.zipIdx ↔
      state.presetsC[slot]? = some (some temp) := by
    rw [List.mem_zipIdx_iff_getElem?, Vector.getElem?_toList]
  rw [← hlist]
  simp only [activePresets, List.mem_filterMap, Option.map_eq_some_iff, Prod.mk.injEq, Prod.exists]
  constructor
  · rintro ⟨preset, slot, hmem, temp, rfl, rfl, rfl⟩
    exact hmem
  · intro hmem
    exact ⟨some temp, slot, hmem, temp, rfl, rfl, rfl⟩

theorem mem_activePresets_of_findNeighborPreset {ascending : Bool} {entry : ℕ × ℤ}
    (h : state.findNeighborPreset ascending = some entry) : entry ∈ state.activePresets := by
  unfold findNeighborPreset at h
  split_ifs at h
  · have hmem := List.mem_of_find?_eq_some h
    simpa [sortedActivePresets] using hmem
  · have hmem := List.mem_of_find?_eq_some h
    simpa [sortedActivePresets] using hmem

theorem findNeighborPreset_lt {ascending : Bool} {slot : ℕ} {temp : ℤ}
    (h : state.findNeighborPreset ascending = some (slot, temp)) :
    slot < frontpanelPresetCount := by
  have hget := mem_activePresets.mp (mem_activePresets_of_findNeighborPreset h)
  exact (Vector.getElem?_eq_some_iff.mp hget).1

/-! ## One event -/

/-- The invariant holds afterwards, and the fan is controlled as before. -/
structure Keeps (state next : FrontPanelUiState) : Prop where
  sound : next.Sound
  applied : next.appliedFanSettings = state.appliedFanSettings

theorem Sound.keeps (h : state.Sound) : Keeps state state := ⟨h, rfl⟩

theorem setTargetTempC_keeps (h : state.Sound) (targetTempC : ℤ) :
    ∃ next, state.setTargetTempC targetTempC = some next ∧ Keeps state next := by
  obtain ⟨slot, hslot, heq⟩ := setTargetTempC_eq_some h.slot targetTempC
  have hsound : Sound { state with
      targetTempC := clampTargetTempC targetTempC
      selectedPresetSlot := slot } :=
    { h with
      target := isTargetTemp_clampTargetTempC targetTempC
      slot := hslot }
  exact ⟨_, heq, hsound, rfl⟩

theorem sound_selectPresetSlot (h : state.Sound) {slot : ℕ} (hslot : slot < frontpanelPresetCount) :
    Sound { state with selectedPresetSlot := slot } :=
  { h with slot := hslot }

theorem putSelectedPreset_keeps (h : state.Sound) {preset : Option ℤ}
    (hpreset : ∀ temp ∈ preset, IsTargetTemp temp) :
    ∃ next, state.putSelectedPreset preset = some next ∧ Keeps state next := by
  refine ⟨_, putSelectedPreset_eq_some h.slot preset, ?_, rfl⟩
  have hslot : state.selectedPresetSlot < frontpanelPresetCount := h.slot
  refine { h with presets := ?_ }
  intro temp htemp
  rcases @Vector.mem_or_eq_of_mem_set _ _ _ _ _ _ hslot htemp with hold | hnew
  · exact h.presets temp hold
  · exact hpreset temp hnew.symm

/-- The page for one key, if it goes on to the next of the dashboard's presets. -/
theorem neighborPreset_keeps (h : state.Sound) (ascending : Bool) :
    ∃ next : FrontPanelUiState × Bool,
      (match state.findNeighborPreset ascending with
        | some (slot, temp) => do
            let state ← { state with selectedPresetSlot := slot }.setTargetTempC temp
            return (state, true)
        | none => some (state, false)) = some next ∧ Keeps state next.1 := by
  split
  · rename_i slot temp hneighbor
    have hsound := sound_selectPresetSlot h (findNeighborPreset_lt hneighbor)
    obtain ⟨next, hnext, hkeeps⟩ := setTargetTempC_keeps hsound temp
    exact ⟨(next, true), by simp [hnext], hkeeps.sound, hkeeps.applied⟩
  · exact ⟨(state, false), rfl, h.keeps⟩

theorem applyDashboardEvent_keeps (h : state.Sound) (hroute : state.route = .dashboard) :
    ∃ next, state.applyDashboardEvent event = some next ∧ Keeps state next.1 := by
  unfold applyDashboardEvent
  split
  · obtain ⟨next, hnext, hkeeps⟩ := setTargetTempC_keeps h (saturateI16 (state.targetTempC + 1))
    exact ⟨(next, true), by simp [hnext], hkeeps⟩
  · obtain ⟨next, hnext, hkeeps⟩ := setTargetTempC_keeps h (saturateI16 (state.targetTempC + 1))
    exact ⟨(next, true), by simp [hnext], hkeeps⟩
  · obtain ⟨next, hnext, hkeeps⟩ := setTargetTempC_keeps h (saturateI16 (state.targetTempC - 1))
    exact ⟨(next, true), by simp [hnext], hkeeps⟩
  · obtain ⟨next, hnext, hkeeps⟩ := setTargetTempC_keeps h (saturateI16 (state.targetTempC - 1))
    exact ⟨(next, true), by simp [hnext], hkeeps⟩
  · exact neighborPreset_keeps h false
  · exact neighborPreset_keeps h true
  · exact ⟨_, rfl, { h with }, rfl⟩
  · exact ⟨_, rfl, h.keeps⟩
  · have hcode := h.pairing_eq_none (by simp [hroute])
    have hdrafts := h.drafts (by simp [hroute])
    refine ⟨_, rfl, { h with pairing := ?_, drafts := fun _ => hdrafts }, rfl⟩
    simp [hcode]
  · exact ⟨_, rfl, h.keeps⟩

/-! ### The menu -/

theorem Keeps.trans {other : FrontPanelUiState} (h : Keeps state next) (h' : Keeps next other) :
    Keeps state other :=
  ⟨h'.sound, h'.applied.trans h.applied⟩

theorem Keeps.ite {other : FrontPanelUiState} (cond : Prop) [Decidable cond]
    (h : Keeps state next) (h' : Keeps state other) :
    Keeps state (if cond then next else other) := by
  split_ifs
  · exact h
  · exact h'

theorem leaveWifiPairing_keeps (h : state.Sound) : Keeps state state.leaveWifiPairing :=
  ⟨{ h with pairing := nofun }, rfl⟩

theorem ensureSelectedPresetSlot_keeps (h : state.Sound) :
    Keeps state state.ensureSelectedPresetSlot := by
  rw [ensureSelectedPresetSlot_eq h.slot]
  exact h.keeps

/-- A page other than the fan page may be left for any, while no pairing code is shown. -/
theorem goTo_keeps (h : state.Sound) (hroute : state.route ≠ .activeCooling)
    (hcode : state.wifiPairingCode = none) (route : FrontPanelRoute) :
    Keeps state { state with route := route } := by
  have hdrafts := h.drafts hroute
  refine ⟨{ h with pairing := ?_, drafts := fun _ => hdrafts }, rfl⟩
  simp [hcode]

theorem applyMenuEvent_keeps (h : state.Sound) (hroute : state.route = .menu) :
    Keeps state (state.applyMenuEvent event).1 := by
  have hcode := h.pairing_eq_none (by simp [hroute])
  have hgo := goTo_keeps h (by simp [hroute]) hcode
  unfold applyMenuEvent
  split
  · exact ⟨{ h with }, rfl⟩
  · exact ⟨{ h with }, rfl⟩
  · -- The page is opened, and then looked after in three steps.
    have hopened := hgo state.selectedMenuItem.route
    dsimp only
    set opened := { state with route := state.selectedMenuItem.route }
    have hpage : Keeps opened { opened with deviceInfoPage := .identity } :=
      ⟨{ hopened.sound with }, rfl⟩
    have hpaged := hpage.ite (opened.route = .deviceInfo) hopened.sound.keeps
    set paged := if opened.route = .deviceInfo then
      { opened with deviceInfoPage := .identity } else opened
    have hleft :=
      (leaveWifiPairing_keeps hpaged.sound).ite (paged.route ≠ .wifiInfo) hpaged.sound.keeps
    set left := if paged.route ≠ .wifiInfo then paged.leaveWifiPairing else paged
    have hensured :=
      (ensureSelectedPresetSlot_keeps hleft.sound).ite (left.route = .presetTemp) hleft.sound.keeps
    exact ((hopened.trans hpaged).trans hleft).trans hensured
  · exact hgo .dashboard
  · exact h.keeps

/-! ### The other pages -/

theorem applyPresetTempEvent_keeps (h : state.Sound) (hroute : state.route = .presetTemp) :
    ∃ next, state.applyPresetTempEvent event = some next ∧ Keeps state next.1 := by
  have hensure := ensureSelectedPresetSlot_eq h.slot
  have hslot : state.selectedPresetSlot < frontpanelPresetCount := h.slot
  have hselected : state.selectedPreset = some state.presetsC[state.selectedPresetSlot] :=
    Vector.getElem?_eq_getElem hslot
  have hedit (tempC : ℤ) : ∃ next : FrontPanelUiState × Bool,
      (do
        let state ← state.putSelectedPreset (some (clampTargetTempC tempC))
        let state ← state.setTargetTempC (clampTargetTempC tempC)
        return (state, true)) = some next ∧ Keeps state next.1 := by
    obtain ⟨put, hput, hkeeps⟩ := @putSelectedPreset_keeps _ h (some _) (by
      rintro temp ⟨⟩
      exact isTargetTemp_clampTargetTempC tempC)
    obtain ⟨next, hnext, hkeeps'⟩ := setTargetTempC_keeps hkeeps.sound (clampTargetTempC tempC)
    exact ⟨(next, true), by simp [hput, hnext], hkeeps.trans hkeeps'⟩
  have hdisable : ∃ next : FrontPanelUiState × Bool,
      (do
        let state ← state.putSelectedPreset none
        return (state, true)) = some next ∧ Keeps state next.1 := by
    obtain ⟨put, hput, hkeeps⟩ := @putSelectedPreset_keeps _ h none nofun
    exact ⟨(put, true), by simp [hput], hkeeps⟩
  unfold applyPresetTempEvent
  split
  · exact ⟨_, rfl, sound_selectPresetSlot h (Nat.mod_lt _ (by decide)), rfl⟩
  · refine ⟨_, rfl, sound_selectPresetSlot h ?_, rfl⟩
    have hslot := h.slot
    unfold retreatPresetSlot
    split_ifs
    · decide
    · omega
  · simpa only [hensure, hselected, Option.bind_eq_bind, Option.bind_some] using hedit _
  · simpa only [hensure, hselected, Option.bind_eq_bind, Option.bind_some] using hedit _
  · simp only [hensure, hselected, Option.bind_eq_bind, Option.bind_some]
    split
    · split_ifs
      · exact hedit _
      · exact hdisable
    · exact hdisable
  · simp only [hensure, hselected, Option.bind_eq_bind, Option.bind_some]
    split
    · split_ifs
      · exact hedit _
      · exact hdisable
    · exact hdisable
  · have hleft := leaveWifiPairing_keeps h
    exact ⟨_, rfl, hleft.trans (goTo_keeps hleft.sound (by simp [leaveWifiPairing, hroute]) rfl .menu)⟩
  · have hleft := leaveWifiPairing_keeps h
    exact ⟨_, rfl, hleft.trans (goTo_keeps hleft.sound (by simp [leaveWifiPairing, hroute]) rfl .menu)⟩
  · exact ⟨_, rfl, h.keeps⟩

/-- The press that applies what was edited on the fan page. -/
def Confirms (state : FrontPanelUiState) (event : KeyEvent) : Prop :=
  state.route = .activeCooling ∧ event.key = .center ∧ event.gesture = .shortPress

/-- The drafts are free on the fan page, and settled by either way of leaving it. -/
theorem applyActiveCoolingEvent_sound (h : state.Sound) (hroute : state.route = .activeCooling) :
    (state.applyActiveCoolingEvent event).1.Sound := by
  have hcode := h.pairing_eq_none (by simp [hroute])
  unfold applyActiveCoolingEvent
  split
  · exact { h with }
  · exact { h with }
  · dsimp only
    split_ifs
    · exact { h with drafts := fun hleft => absurd hroute hleft }
    · exact { h with drafts := fun hleft => absurd hroute hleft }
  · dsimp only
    split_ifs
    · exact { h with drafts := fun hleft => absurd hroute hleft }
    · exact { h with drafts := fun hleft => absurd hroute hleft }
  · refine { h with pairing := ?_, cooling := rfl, drafts := fun _ => rfl }
    simp [hcode]
  · refine { h with pairing := ?_, drafts := fun _ => rfl }
    simp [hcode]
  · exact h

theorem applyActiveCoolingEvent_applied
    (hevent : ¬ (event.key = .center ∧ event.gesture = .shortPress)) :
    (state.applyActiveCoolingEvent event).1.appliedFanSettings = state.appliedFanSettings := by
  unfold applyActiveCoolingEvent
  split
  · rfl
  · rfl
  · dsimp only
    split_ifs
    · rfl
    · rfl
  · dsimp only
    split_ifs
    · rfl
    · rfl
  · rename_i hkey hgesture
    exact absurd ⟨hkey, hgesture⟩ hevent
  · rfl
  · rfl

theorem applyReadonlyPageEvent_keeps (h : state.Sound) (hroute : state.route = .wifiInfo) :
    Keeps state (state.applyReadonlyPageEvent event).1 := by
  have hleft := leaveWifiPairing_keeps h
  have hgo := goTo_keeps hleft.sound (by simp [leaveWifiPairing, hroute]) rfl .menu
  unfold applyReadonlyPageEvent
  simp only [hroute, if_true]
  split
  · exact hleft.trans hgo
  · exact hleft.trans hgo
  · exact hleft.trans hgo
  · exact h.keeps

theorem applyDeviceInfoEvent_keeps (h : state.Sound) (hroute : state.route = .deviceInfo) :
    Keeps state (state.applyDeviceInfoEvent event).1 := by
  have hgo := goTo_keeps h (by simp [hroute]) (h.pairing_eq_none (by simp [hroute])) .menu
  unfold applyDeviceInfoEvent
  split
  · exact ⟨{ h with }, rfl⟩
  · exact ⟨{ h with }, rfl⟩
  · exact hgo
  · exact hgo
  · exact h.keeps

/-- What every page does with an event, in a sound state. -/
structure Handles (state : FrontPanelUiState) (event : KeyEvent) (next : FrontPanelUiState) :
    Prop where
  sound : next.Sound
  applied : ¬ state.Confirms event → next.appliedFanSettings = state.appliedFanSettings

theorem Keeps.handles (h : Keeps state next) : Handles state event next :=
  ⟨h.sound, fun _ => h.applied⟩

theorem applyAppEvent_handles (h : state.Sound) :
    ∃ next, state.applyAppEvent event = some next ∧ Handles state event next.1 := by
  unfold applyAppEvent
  cases hroute : state.route with
  | keyTest =>
    have hcode := h.pairing_eq_none (by simp [hroute])
    exact ⟨_, rfl, (goTo_keeps h (by simp [hroute]) hcode .dashboard).handles⟩
  | dashboard =>
    obtain ⟨next, hnext, hkeeps⟩ := applyDashboardEvent_keeps h hroute
    exact ⟨next, hnext, hkeeps.handles⟩
  | menu => exact ⟨_, rfl, (applyMenuEvent_keeps h hroute).handles⟩
  | presetTemp =>
    obtain ⟨next, hnext, hkeeps⟩ := applyPresetTempEvent_keeps h hroute
    exact ⟨next, hnext, hkeeps.handles⟩
  | activeCooling =>
    refine ⟨_, rfl, applyActiveCoolingEvent_sound h hroute, ?_⟩
    intro hconfirms
    apply applyActiveCoolingEvent_applied
    rintro ⟨hkey, hgesture⟩
    exact hconfirms ⟨hroute, hkey, hgesture⟩
  | wifiInfo => exact ⟨_, rfl, (applyReadonlyPageEvent_keeps h hroute).handles⟩
  | deviceInfo => exact ⟨_, rfl, (applyDeviceInfoEvent_keeps h hroute).handles⟩

theorem handleEvent_of_not_ready (hready : state.dashboardIsReady = false) :
    state.handleEvent event = some (state, false) := if_pos hready

/-- No event panics, and none but the confirming press changes how the fan is controlled. -/
theorem handleEvent_handles (h : state.Sound) :
    ∃ next, state.handleEvent event = some next ∧ Handles state event next.1 := by
  by_cases hready : state.dashboardIsReady = false
  · exact ⟨_, handleEvent_of_not_ready hready, h.keeps.handles⟩
  · unfold handleEvent
    rw [if_neg hready]
    dsimp only
    split_ifs
    · refine ⟨_, rfl, ?_, fun _ => ?_⟩
      · exact { h with }
      · rfl
    · split
      · refine ⟨_, rfl, ?_, fun _ => ?_⟩
        · exact { h with }
        · rfl
      · have hsound : Sound { state.noteKey event with
            persistenceFaultAttentionPending := false } := { h with }
        obtain ⟨next, hnext, hhandles⟩ := @applyAppEvent_handles _ event hsound
        exact ⟨next, hnext, hhandles.sound, hhandles.applied⟩

end FrontPanelUiState

/-! ## The other operations -/

/-- What is done to the panel's state. -/
inductive UiOperation where
  | handleEvent (event : KeyEvent)
  | enterWifiPairing (code : Option (Vector UInt8 4))
  | leaveWifiPairing
  | setFanSettings (postHeat : PostHeatCoolingMode) (guard : HeatingFanGuardMode)
  | setTargetTempC (targetTempC : ℤ)
  | setDashboardPresentation (presentation : DashboardPresentationState)

namespace FrontPanelUiState

variable {state next : FrontPanelUiState} {operation : UiOperation}

/-- `none` where the operation panics. -/
def perform (state : FrontPanelUiState) : UiOperation → Option FrontPanelUiState
  | .handleEvent event => (state.handleEvent event).map Prod.fst
  | .enterWifiPairing code => some (state.enterWifiPairing code)
  | .leaveWifiPairing => some state.leaveWifiPairing
  | .setFanSettings postHeat guard => some (state.setFanSettings postHeat guard)
  | .setTargetTempC targetTempC => state.setTargetTempC targetTempC
  | .setDashboardPresentation presentation =>
      some (state.setDashboardPresentation presentation).1

/-- The operation sets the fan, or is the press that applies the drafts. -/
def SetsFan (state : FrontPanelUiState) (operation : UiOperation) : Prop :=
  (∃ postHeat guard, operation = .setFanSettings postHeat guard) ∨
    ∃ event, operation = .handleEvent event ∧ state.Confirms event

/-- What is expected of an operation: it does not panic, it leaves the panel in a sound state,
it changes the applied fan settings only where it may, and a key does nothing while the dashboard
is not ready. -/
def Behaves (state : FrontPanelUiState) (operation : UiOperation) : Prop :=
  ∃ next, state.perform operation = some next ∧ next.Sound ∧
    (next.appliedFanSettings ≠ state.appliedFanSettings → state.SetsFan operation) ∧
    ∀ event, operation = .handleEvent event → state.dashboardIsReady = false → next = state

/-- The WiFi page does not take the place of a fan page that is being edited. -/
def LeavesNoDraft (state : FrontPanelUiState) (operation : UiOperation) : Prop :=
  ∀ code, operation = .enterWifiPairing code → state.route = .activeCooling →
    state.draftFanSettings = state.appliedFanSettings

theorem setFanSettings_sound (h : state.Sound) (postHeat : PostHeatCoolingMode)
    (guard : HeatingFanGuardMode) : (state.setFanSettings postHeat guard).Sound :=
  { h with
    cooling := rfl
    drafts := fun _ => rfl }

theorem setDashboardPresentation_keeps (h : state.Sound)
    (presentation : DashboardPresentationState) :
    Keeps state (state.setDashboardPresentation presentation).1 := by
  unfold setDashboardPresentation
  split_ifs
  · exact h.keeps
  · exact ⟨{ h with }, rfl⟩

theorem sound_enterWifiPairing_iff (h : state.Sound) (code : Option (Vector UInt8 4)) :
    (state.enterWifiPairing code).Sound ↔
      (state.route = .activeCooling → state.draftFanSettings = state.appliedFanSettings) := by
  constructor
  · intro hsound _
    exact hsound.drafts (by simp [enterWifiPairing])
  · intro hdrafts
    refine { h with pairing := fun _ => rfl, drafts := fun _ => ?_ }
    by_cases hroute : state.route = .activeCooling
    · exact hdrafts hroute
    · exact h.drafts hroute

theorem Keeps.behaves (hperform : state.perform operation = some next) (h : Keeps state next)
    (hevent : ∀ event, operation ≠ .handleEvent event) : state.Behaves operation :=
  ⟨next, hperform, h.sound, fun hne => absurd h.applied hne,
    fun event heq => absurd heq (hevent event)⟩

/-- One operation behaves unless it takes the place of a page that is being edited. -/
theorem behaves_iff (h : state.Sound) :
    state.Behaves operation ↔ state.LeavesNoDraft operation := by
  cases operation with
  | handleEvent event =>
    refine iff_of_true ?_ nofun
    obtain ⟨next, hnext, hhandles⟩ := @handleEvent_handles _ event h
    have hperform : state.perform (.handleEvent event) = some next.1 := by
      simp [perform, hnext]
    refine ⟨next.1, hperform, hhandles.sound, ?_, ?_⟩
    · intro hne
      by_contra hsets
      apply hne
      apply hhandles.applied
      intro hconfirms
      exact hsets (.inr ⟨event, rfl, hconfirms⟩)
    · rintro _ ⟨⟩ hready
      rw [handleEvent_of_not_ready hready] at hnext
      cases hnext
      rfl
  | enterWifiPairing code =>
    constructor
    · rintro ⟨next, ⟨⟩, hsound, -⟩ _ - hroute
      exact (sound_enterWifiPairing_iff h code).mp hsound hroute
    · intro hdrafts
      have hsound := (sound_enterWifiPairing_iff h code).mpr (hdrafts code rfl)
      exact Keeps.behaves rfl ⟨hsound, rfl⟩ nofun
  | leaveWifiPairing =>
    exact iff_of_true (Keeps.behaves rfl (leaveWifiPairing_keeps h) nofun) nofun
  | setFanSettings postHeat guard =>
    refine iff_of_true ?_ nofun
    exact ⟨_, rfl, setFanSettings_sound h postHeat guard,
      fun _ => .inl ⟨postHeat, guard, rfl⟩, nofun⟩
  | setTargetTempC targetTempC =>
    obtain ⟨next, hnext, hkeeps⟩ := setTargetTempC_keeps h targetTempC
    exact iff_of_true (hkeeps.behaves hnext nofun) nofun
  | setDashboardPresentation presentation =>
    exact iff_of_true (Keeps.behaves rfl (setDashboardPresentation_keeps h presentation) nofun)
      nofun

theorem throughout_behaves_iff (h : state.Sound) (operations : List UiOperation) :
    Throughout perform Behaves state operations ↔
      Throughout perform LeavesNoDraft state operations := by
  refine throughout_congr h ?_ ?_
  · intro state operation hsound
    exact behaves_iff hsound
  · rintro state operation next - ⟨after, hafter, hsound, -⟩ hnext
    obtain rfl : after = next := Option.some.inj (hafter.symm.trans hnext)
    exact hsound

/-! ## From the start -/

/-- The two constructors. -/
def construct (runtimeMode : FrontPanelRuntimeMode) (startup : Bool) : FrontPanelUiState :=
  if startup then newStartup runtimeMode else new runtimeMode

theorem sound_construct (runtimeMode : FrontPanelRuntimeMode) (startup : Bool) :
    (construct runtimeMode startup).Sound := by
  cases startup with
  | true => exact sound_newStartup runtimeMode
  | false => exact sound_new runtimeMode

/-- The invariant holds in a new panel and throughout its run exactly if the WiFi page never
takes the place of a fan page that is being edited. -/
theorem keepsInvariant_iff_leavesNoDraft (runtimeMode : FrontPanelRuntimeMode) (startup : Bool)
    (operations : List UiOperation) :
    (construct runtimeMode startup).Sound ∧
        Throughout perform Behaves (construct runtimeMode startup) operations ↔
      Throughout perform LeavesNoDraft (construct runtimeMode startup) operations := by
  have hsound := sound_construct runtimeMode startup
  rw [throughout_behaves_iff hsound]
  exact and_iff_right hsound

/-- The fan page is opened from the menu, `Right` edits a mode, and a pairing request comes in
before the edit is applied or taken back. -/
def editThenPair : List UiOperation :=
  [.handleEvent ⟨.centerBoot, .center, .longPress, 0⟩,
    .handleEvent ⟨.centerBoot, .center, .shortPress, 600⟩,
    .handleEvent ⟨.right, .right, .shortPress, 900⟩,
    .enterWifiPairing (some #v[49, 50, 51, 52])]

theorem not_keepsInvariant_editThenPair :
    ¬ Throughout perform Behaves (construct .app false) editThenPair := by
  intro hbehaves
  rw [throughout_behaves_iff (sound_construct .app false)] at hbehaves
  obtain ⟨-, hbehaves⟩ := hbehaves
  obtain ⟨-, hbehaves⟩ := hbehaves _ rfl
  obtain ⟨-, hbehaves⟩ := hbehaves _ rfl
  obtain ⟨hdraft, -⟩ := hbehaves _ rfl
  exact absurd (hdraft _ rfl rfl) (by decide)

end FrontPanelUiState

end FluxPurr.FrontPanel
