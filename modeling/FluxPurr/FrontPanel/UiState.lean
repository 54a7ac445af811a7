import FluxPurr.FrontPanel.Keys
import FluxPurr.Memory.Config

/-!
# The front panel's pages

`FrontPanelUiState.handleEvent` is what a key gesture does on each page of the panel, and
`enterWifiPairing`, `setFanSettings` and the other setters are what the rest of the firmware does
to the same state.  The presets are an array and the selected slot a plain index into it, so an
operation that indexes the array can panic; such an operation returns an `Option`, and `none` is
the panic.
-/

namespace FluxPurr.FrontPanel

open FluxPurr.Memory (PostHeatCoolingMode HeatingFanGuardMode)

abbrev frontpanelPresetCount : ℕ := 10
abbrev frontpanelTargetTempMinC : ℤ := 0
abbrev frontpanelTargetTempMaxC : ℤ := 400

inductive FrontPanelRuntimeMode where
  | keyTest
  | app
deriving DecidableEq, Repr

inductive FrontPanelRoute where
  | keyTest
  | dashboard
  | menu
  | presetTemp
  | activeCooling
  | wifiInfo
  | deviceInfo
deriving DecidableEq, Repr

inductive FrontPanelMenuItem where
  | presetTemp
  | activeCooling
  | wifiInfo
  | deviceInfo
deriving DecidableEq, Repr

def FrontPanelMenuItem.route : FrontPanelMenuItem → FrontPanelRoute
  | presetTemp => .presetTemp
  | activeCooling => .activeCooling
  | wifiInfo => .wifiInfo
  | deviceInfo => .deviceInfo

inductive DashboardPresentationState where
  | initializing
  | eepromRestore
  | ready
  | initialRtdFault
deriving DecidableEq, Repr

inductive DeviceInfoPage where
  | identity
  | calibration
  | runtime
deriving DecidableEq, Repr

structure KeyTestState where
  lastRawKey : Option RawFrontPanelKey
  lastKey : Option FrontPanelKey
  lastGesture : Option KeyGesture
deriving DecidableEq, Repr

/-! ## Cycling a choice, clamping a temperature -/

def cyclePostHeat : PostHeatCoolingMode → Bool → PostHeatCoolingMode
  | .off, true => .normal
  | .normal, true => .fast
  | .fast, true => .off
  | .off, false => .fast
  | .normal, false => .off
  | .fast, false => .normal

def cycleHeatingGuard : HeatingFanGuardMode → Bool → HeatingFanGuardMode
  | .off, true => .low
  | .low, true => .medium
  | .medium, true => .high
  | .high, true => .off
  | .off, false => .high
  | .low, false => .off
  | .medium, false => .low
  | .high, false => .medium

/-- Back to the range of an `i16`, as `saturating_add` and `saturating_sub` do. -/
def saturateI16 (value : ℤ) : ℤ := max (-32768) (min 32767 value)

def clampTargetTempC (targetTempC : ℤ) : ℤ :=
  max frontpanelTargetTempMinC (min frontpanelTargetTempMaxC targetTempC)

/-- A temperature that the heater may be set to. -/
def IsTargetTemp (tempC : ℤ) : Prop :=
  frontpanelTargetTempMinC ≤ tempC ∧ tempC ≤ frontpanelTargetTempMaxC

instance (tempC : ℤ) : Decidable (IsTargetTemp tempC) :=
  inferInstanceAs (Decidable (_ ∧ _))

theorem isTargetTemp_clampTargetTempC (tempC : ℤ) : IsTargetTemp (clampTargetTempC tempC) := by
  unfold IsTargetTemp clampTargetTempC frontpanelTargetTempMinC frontpanelTargetTempMaxC
  omega

theorem clampTargetTempC_eq_iff {tempC : ℤ} :
    clampTargetTempC tempC = tempC ↔ IsTargetTemp tempC := by
  unfold IsTargetTemp clampTargetTempC frontpanelTargetTempMinC frontpanelTargetTempMaxC
  omega

@[simp] theorem clampTargetTempC_saturateI16 (tempC : ℤ) :
    clampTargetTempC (saturateI16 tempC) = clampTargetTempC tempC := by
  unfold clampTargetTempC saturateI16 frontpanelTargetTempMinC frontpanelTargetTempMaxC
  omega

/-! ## The state -/

/-- The fields of `FrontPanelUiState` that the handlers read or write. -/
structure FrontPanelUiState where
  runtimeMode : FrontPanelRuntimeMode
  deviceInfoPage : DeviceInfoPage
  route : FrontPanelRoute
  dashboardPresentation : DashboardPresentationState
  targetTempC : ℤ
  heaterEnabled : Bool
  persistenceFaultAttentionPending : Bool
  persistenceRetryRequested : Bool
  selectedMenuItem : FrontPanelMenuItem
  selectedPresetSlot : ℕ
  presetsC : Vector (Option ℤ) frontpanelPresetCount
  activeCoolingEnabled : Bool
  postHeatCoolingMode : PostHeatCoolingMode
  heatingFanGuardMode : HeatingFanGuardMode
  fanSettingsRow : ℕ
  fanSettingsDraftPostHeat : PostHeatCoolingMode
  fanSettingsDraftGuard : HeatingFanGuardMode
  fanSettingsApplyRequested : Bool
  wifiPairingCode : Option (Vector UInt8 4)
  keyTest : KeyTestState
deriving DecidableEq, Repr

namespace FrontPanelUiState

def new (runtimeMode : FrontPanelRuntimeMode) : FrontPanelUiState where
  runtimeMode := runtimeMode
  deviceInfoPage := .identity
  route :=
    match runtimeMode with
    | .keyTest => .keyTest
    | .app => .dashboard
  dashboardPresentation := .ready
  targetTempC := 100
  heaterEnabled := false
  persistenceFaultAttentionPending := false
  persistenceRetryRequested := false
  selectedMenuItem := .activeCooling
  selectedPresetSlot := 1
  presetsC := #v[some 50, some 100, some 120, some 150, some 180, some 200, some 210, some 220,
    some 250, some 300]
  activeCoolingEnabled := true
  postHeatCoolingMode := .normal
  heatingFanGuardMode := .medium
  fanSettingsRow := 0
  fanSettingsDraftPostHeat := .normal
  fanSettingsDraftGuard := .medium
  fanSettingsApplyRequested := false
  wifiPairingCode := none
  keyTest := ⟨none, none, none⟩

def newStartup (runtimeMode : FrontPanelRuntimeMode) : FrontPanelUiState :=
  { new runtimeMode with dashboardPresentation := .initializing }

variable (state : FrontPanelUiState)

def dashboardIsReady : Bool := state.dashboardPresentation = .ready

def setDashboardPresentation
    (presentation : DashboardPresentationState) : FrontPanelUiState × Bool :=
  if state.dashboardPresentation = presentation then (state, false)
  else ({ state with dashboardPresentation := presentation }, true)

/-! ## Presets -/

/-- `none` where the index panics. -/
def selectedPreset : Option (Option ℤ) := state.presetsC[state.selectedPresetSlot]?

/-- The write `presets_c[selected_preset_slot] = preset`. -/
def putSelectedPreset (preset : Option ℤ) : Option FrontPanelUiState :=
  if h : state.selectedPresetSlot < frontpanelPresetCount then
    some { state with presetsC := state.presetsC.set state.selectedPresetSlot preset h }
  else none

/-- The selected slot before any other. -/
def matchingPresetSlot : Option (Option ℕ) := do
  let selected ← state.selectedPreset
  if selected = some state.targetTempC then
    return some state.selectedPresetSlot
  else
    return state.presetsC.toList.findIdx? fun preset => preset = some state.targetTempC

def ensureSelectedPresetSlot : FrontPanelUiState :=
  if state.selectedPresetSlot ≥ frontpanelPresetCount then
    { state with selectedPresetSlot := 0 }
  else state

def setTargetTempC (targetTempC : ℤ) : Option FrontPanelUiState := do
  let state := { state with targetTempC := clampTargetTempC targetTempC }
  let slot ← state.matchingPresetSlot
  return { state with selectedPresetSlot := slot.getD state.selectedPresetSlot }

/-- By temperature, then by slot. -/
abbrev PresetLe (a b : ℕ × ℤ) : Prop := a.2 < b.2 ∨ (a.2 = b.2 ∧ a.1 ≤ b.1)

/-- The slots that hold a temperature. -/
def activePresets : List (ℕ × ℤ) :=
  state.presetsC.toList.zipIdx.filterMap fun entry => entry.1.map fun temp => (entry.2, temp)

def sortedActivePresets : List (ℕ × ℤ) := state.activePresets.insertionSort PresetLe

def findNeighborPreset (ascending : Bool) : Option (ℕ × ℤ) :=
  if ascending then
    state.sortedActivePresets.find? fun entry => entry.2 > state.targetTempC
  else
    state.sortedActivePresets.reverse.find? fun entry => entry.2 < state.targetTempC

def advancePresetSlot : ℕ := (state.selectedPresetSlot + 1) % frontpanelPresetCount

def retreatPresetSlot : ℕ :=
  if state.selectedPresetSlot = 0 then frontpanelPresetCount - 1
  else state.selectedPresetSlot - 1

/-! ## Setters that other parts of the firmware call -/

/-- `is_ascii_digit`. -/
def isAsciiDigit (digit : UInt8) : Bool := 48 ≤ digit ∧ digit ≤ 57

def enterWifiPairing (code : Option (Vector UInt8 4)) : FrontPanelUiState :=
  { state with
    route := .wifiInfo
    wifiPairingCode := code.filter fun value => value.toList.all isAsciiDigit }

def leaveWifiPairing : FrontPanelUiState := { state with wifiPairingCode := none }

def setFanSettings (postHeat : PostHeatCoolingMode)
    (guard : HeatingFanGuardMode) : FrontPanelUiState :=
  { state with
    postHeatCoolingMode := postHeat
    heatingFanGuardMode := guard
    activeCoolingEnabled := postHeat.isEnabled
    fanSettingsDraftPostHeat := postHeat
    fanSettingsDraftGuard := guard
    fanSettingsApplyRequested := false }

/-! ## The pages -/

/-- The state after an event, and whether the event did something. -/
abbrev Handled := Option (FrontPanelUiState × Bool)

variable (event : KeyEvent)

def applyDashboardEvent : Handled :=
  match event.key, event.gesture with
  | .up, .shortPress | .up, .repeatPress => do
      let state ← state.setTargetTempC (saturateI16 (state.targetTempC + 1))
      return (state, true)
  | .down, .shortPress | .down, .repeatPress => do
      let state ← state.setTargetTempC (saturateI16 (state.targetTempC - 1))
      return (state, true)
  | .left, .shortPress =>
      match state.findNeighborPreset false with
      | some (slot, temp) => do
          let state ← { state with selectedPresetSlot := slot }.setTargetTempC temp
          return (state, true)
      | none => some (state, false)
  | .right, .shortPress =>
      match state.findNeighborPreset true with
      | some (slot, temp) => do
          let state ← { state with selectedPresetSlot := slot }.setTargetTempC temp
          return (state, true)
      | none => some (state, false)
  | .center, .shortPress => some ({ state with heaterEnabled := !state.heaterEnabled }, true)
  | .center, .doublePress => some (state, false)
  | .center, .longPress => some ({ state with route := .menu }, true)
  | _, _ => some (state, false)

def applyMenuEvent : FrontPanelUiState × Bool :=
  match event.key, event.gesture with
  | .left, .shortPress =>
      ({ state with
          selectedMenuItem :=
            match state.selectedMenuItem with
            | .presetTemp => .deviceInfo
            | .activeCooling => .presetTemp
            | .wifiInfo => .activeCooling
            | .deviceInfo => .wifiInfo }, true)
  | .right, .shortPress =>
      ({ state with
          selectedMenuItem :=
            match state.selectedMenuItem with
            | .presetTemp => .activeCooling
            | .activeCooling => .wifiInfo
            | .wifiInfo => .deviceInfo
            | .deviceInfo => .presetTemp }, true)
  | .center, .shortPress =>
      let state := { state with route := state.selectedMenuItem.route }
      let state :=
        if state.route = .deviceInfo then { state with deviceInfoPage := .identity } else state
      let state := if state.route ≠ .wifiInfo then state.leaveWifiPairing else state
      let state := if state.route = .presetTemp then state.ensureSelectedPresetSlot else state
      (state, true)
  | .center, .longPress => ({ state with route := .dashboard }, true)
  | _, _ => (state, false)

def applyPresetTempEvent : Handled :=
  match event.key, event.gesture with
  | .right, .shortPress =>
      some ({ state with selectedPresetSlot := state.advancePresetSlot }, true)
  | .left, .shortPress =>
      some ({ state with selectedPresetSlot := state.retreatPresetSlot }, true)
  | .up, .shortPress | .up, .repeatPress => do
      let state := state.ensureSelectedPresetSlot
      let preset ← state.selectedPreset
      let nextTemp :=
        (preset.map fun temp => saturateI16 (temp + 1)).getD frontpanelTargetTempMinC
      let nextTemp := clampTargetTempC nextTemp
      let state ← state.putSelectedPreset (some nextTemp)
      let state ← state.setTargetTempC nextTemp
      return (state, true)
  | .down, .shortPress | .down, .repeatPress => do
      let state := state.ensureSelectedPresetSlot
      match ← state.selectedPreset with
      | some temp =>
          if temp > frontpanelTargetTempMinC then
            let nextTemp := clampTargetTempC (saturateI16 (temp - 1))
            let state ← state.putSelectedPreset (some nextTemp)
            let state ← state.setTargetTempC nextTemp
            return (state, true)
          else
            let state ← state.putSelectedPreset none
            return (state, true)
      | none =>
          let state ← state.putSelectedPreset none
          return (state, true)
  | .center, .shortPress | .center, .longPress =>
      some ({ state.leaveWifiPairing with route := .menu }, true)
  | _, _ => some (state, false)

def applyActiveCoolingEvent : FrontPanelUiState × Bool :=
  match event.key, event.gesture with
  | .up, .shortPress | .down, .shortPress =>
      ({ state with fanSettingsRow := if state.fanSettingsRow = 0 then 1 else 0 }, true)
  | .left, .shortPress | .right, .shortPress =>
      let forward : Bool := event.key = .right
      if state.fanSettingsRow = 0 then
        ({ state with
            fanSettingsDraftPostHeat :=
              cyclePostHeat state.fanSettingsDraftPostHeat forward }, true)
      else
        ({ state with
            fanSettingsDraftGuard := cycleHeatingGuard state.fanSettingsDraftGuard forward }, true)
  | .center, .shortPress =>
      ({ state with
          postHeatCoolingMode := state.fanSettingsDraftPostHeat
          heatingFanGuardMode := state.fanSettingsDraftGuard
          activeCoolingEnabled := state.fanSettingsDraftPostHeat.isEnabled
          fanSettingsApplyRequested := true
          route := .menu }, true)
  | .center, .longPress =>
      ({ state with
          fanSettingsDraftPostHeat := state.postHeatCoolingMode
          fanSettingsDraftGuard := state.heatingFanGuardMode
          route := .menu }, true)
  | _, _ => (state, false)

def applyDeviceInfoEvent : FrontPanelUiState × Bool :=
  match event.key, event.gesture with
  | .left, .shortPress =>
      ({ state with
          deviceInfoPage :=
            match state.deviceInfoPage with
            | .identity => .runtime
            | .calibration => .identity
            | .runtime => .calibration }, true)
  | .right, .shortPress =>
      ({ state with
          deviceInfoPage :=
            match state.deviceInfoPage with
            | .identity => .calibration
            | .calibration => .runtime
            | .runtime => .identity }, true)
  | .center, .shortPress | .center, .longPress => ({ state with route := .menu }, true)
  | _, _ => (state, false)

def applyReadonlyPageEvent : FrontPanelUiState × Bool :=
  match event.key, event.gesture with
  | .left, .shortPress | .center, .shortPress | .center, .longPress =>
      let state := if state.route = .wifiInfo then state.leaveWifiPairing else state
      ({ state with route := .menu }, true)
  | _, _ => (state, false)

def applyAppEvent : Handled :=
  match state.route with
  | .keyTest => some ({ state with route := .dashboard }, true)
  | .dashboard => state.applyDashboardEvent event
  | .menu => some (state.applyMenuEvent event)
  | .presetTemp => state.applyPresetTempEvent event
  | .activeCooling => some (state.applyActiveCoolingEvent event)
  | .wifiInfo => some (state.applyReadonlyPageEvent event)
  | .deviceInfo => some (state.applyDeviceInfoEvent event)

/-- The EEPROM error page covers the others while its fault wants attention. -/
def errorPageVisible : Bool :=
  state.persistenceFaultAttentionPending &&
    !(state.dashboardPresentation = .eepromRestore ||
      state.dashboardPresentation = .initialRtdFault)

def noteKey : FrontPanelUiState :=
  { state with keyTest := ⟨some event.rawKey, some event.key, some event.gesture⟩ }

def handleEvent : Handled :=
  if state.dashboardIsReady = false then some (state, false)
  else
    let state := state.noteKey event
    if state.errorPageVisible ∧ event.key = .center ∧ event.gesture = .longPress then
      some ({ state with
        persistenceFaultAttentionPending := false
        persistenceRetryRequested := true }, true)
    else
      let state := { state with persistenceFaultAttentionPending := false }
      match state.runtimeMode with
      | .keyTest => some (state, true)
      | .app => state.applyAppEvent event

def gestureCapabilities : FrontPanelGestureCapabilities :=
  match state.runtimeMode with
  | .keyTest => .all
  | .app =>
      match state.route with
      | .keyTest => .all
      | .dashboard => ⟨.shortDoubleLong, .short, .shortLong, .short, .shortLong⟩
      | .menu => ⟨.shortLong, .short, .none, .short, .none⟩
      | .presetTemp => ⟨.shortLong, .short, .shortLong, .short, .shortLong⟩
      | .activeCooling => ⟨.shortLong, .short, .short, .short, .short⟩
      | .wifiInfo => ⟨.shortLong, .none, .none, .short, .none⟩
      | .deviceInfo => ⟨.shortLong, .short, .none, .short, .short⟩

end FrontPanelUiState

end FluxPurr.FrontPanel
