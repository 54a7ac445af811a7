import FluxPurr.FrontPanel.UiState
import Mathlib.Data.Rat.Floor

/-!
# The web preview of the front panel

`applyFrontPanelInteraction` is the reducer of the web preview.  It is written by hand, beside the
firmware's own handlers, over a state of its own.  Where a string union of the preview names the
values of an enumeration of the firmware, the enumeration is used for both.  An array element that
is not there reads as `none`, like `null`.
-/

namespace FluxPurr.FrontPanel.Preview

open FluxPurr.Memory (PostHeatCoolingMode HeatingFanGuardMode)

inductive FanDisplayState where
  | off
  | auto
  | run
  | safe
deriving DecidableEq, Repr

inductive FanPolicySource where
  | idle
  | postHeat
  | heatingGuard
  | safety
deriving DecidableEq, Repr

inductive FanOutputLevel where
  | off
  | low
  | medium
  | high
  | limited
deriving DecidableEq, Repr

inductive HeaterLockReason where
  | coolingDisabledOvertemp
  | hardOvertemp
deriving DecidableEq, Repr

/-- What was pressed last, as the key test page shows it. -/
structure KeyTest where
  activeKey : Option FrontPanelKey
  activeGesture : Option KeyGesture
  rawKeyLabel : String
  logicalKeyLabel : String
  gestureLabel : String
  rawMaskLabel : String
deriving DecidableEq, Repr

structure FrontPanelRuntimeInteraction where
  key : FrontPanelKey
  gesture : KeyGesture
  rawKey : Option FrontPanelKey
deriving DecidableEq, Repr

structure FrontPanelRuntimeState where
  mode : FrontPanelRuntimeMode
  route : FrontPanelRoute
  elapsedMs : ℕ
  deviceInfoPage : ℕ
  currentTempC : ℚ
  targetTempC : ℤ
  heaterEnabled : Bool
  heaterOutputPercent : ℕ
  fanRuntimeEnabled : Bool
  fanDisplayState : FanDisplayState
  selectedMenuItem : FrontPanelMenuItem
  selectedPresetIndex : ℕ
  presetsC : List (Option ℤ)
  activeCoolingEnabled : Bool
  activeCoolingCooldownEndsAtMs : Option ℕ
  postHeatCoolingMode : PostHeatCoolingMode
  heatingFanGuardMode : HeatingFanGuardMode
  fanPolicySource : FanPolicySource
  fanOutputLevel : FanOutputLevel
  fanSettingsRow : ℕ
  fanSettingsDraftPostHeat : PostHeatCoolingMode
  fanSettingsDraftGuard : HeatingFanGuardMode
  coolingDisabledLockLatched : Bool
  coolingDisabledLockArmed : Bool
  heaterLockReason : Option HeaterLockReason
  dashboardWarningVisible : Bool
  keyTest : KeyTest

abbrev autoCoolingMinTempC : ℚ := 40
abbrev autoCoolingFullTempC : ℚ := 60
abbrev autoCoolingFanCooldownMs : ℕ := 30000
abbrev coolingDisabledPulseStartTempC : ℚ := 100
abbrev coolingDisabledHeaterLockTempC : ℚ := 350
abbrev coolingDisabledFanFullTempC : ℚ := 360
abbrev hardOvertempTempC : ℚ := 420
abbrev dashboardWarningBlinkHalfPeriodMs : ℕ := 500
abbrev fanPulsePeriodMs : ℕ := 5000
abbrev heatingFanPulseMaxDutyPercent : ℤ := 50
abbrev defaultHeaterOutputPercent : ℕ := 18

def menuItems : List FrontPanelMenuItem := [.presetTemp, .activeCooling, .wifiInfo, .deviceInfo]

/-! ## The key test page -/

def keyMaskMap : FrontPanelKey → String
  | .center => "MASK 01"
  | .right => "MASK 02"
  | .down => "MASK 04"
  | .left => "MASK 08"
  | .up => "MASK 10"

/-- The inverse of `rawToLogicalKeyMap`, which swaps two keys. -/
def logicalToRawKeyMap : FrontPanelKey → FrontPanelKey
  | .center => .center
  | .right => .right
  | .left => .down
  | .down => .left
  | .up => .up

/-- `rawLabelMap` and `logicalLabelMap`. -/
def labelMap : FrontPanelKey → String
  | .center => "CTR"
  | .right => "R"
  | .down => "D"
  | .left => "L"
  | .up => "U"

def gestureLabel : KeyGesture → String
  | .shortPress => "SHORT"
  | .doublePress => "DOUBLE"
  | .longPress => "LONG"
  | .repeatPress => "REPEAT"

variable (state : FrontPanelRuntimeState) (interaction : FrontPanelRuntimeInteraction)

def updateKeyTest : FrontPanelRuntimeState :=
  let rawKey := interaction.rawKey.getD (logicalToRawKeyMap interaction.key)
  { state with
    keyTest :=
      { activeKey := some interaction.key
        activeGesture := some interaction.gesture
        rawKeyLabel := labelMap rawKey
        logicalKeyLabel := labelMap interaction.key
        gestureLabel := gestureLabel interaction.gesture
        rawMaskLabel := keyMaskMap rawKey } }

/-! ## Presets -/

def clampTargetTemp (targetTempC : ℤ) : ℤ := min 400 (max 0 targetTempC)

/-- `presetsC[index]`. -/
def presetAt (presetsC : List (Option ℤ)) (index : ℕ) : Option ℤ := presetsC[index]?.join

/-- The assignment `presetsC[index] = preset`, which may lengthen an array. -/
def assignPreset (presetsC : List (Option ℤ)) (index : ℕ) (preset : Option ℤ) : List (Option ℤ) :=
  if index < presetsC.length then presetsC.set index preset
  else presetsC ++ List.replicate (index - presetsC.length) none ++ [preset]

def matchingPresetIndex (targetTempC : ℤ) : Option ℕ :=
  if presetAt state.presetsC state.selectedPresetIndex = some targetTempC then
    some state.selectedPresetIndex
  else state.presetsC.findIdx? fun preset => preset = some targetTempC

structure PresetEntry where
  index : ℕ
  tempC : ℤ
deriving DecidableEq, Repr

/-- The comparator `left.tempC - right.tempC || left.index - right.index` is not positive. -/
abbrev PresetEntry.Le (left right : PresetEntry) : Prop :=
  (if left.tempC - right.tempC ≠ 0 then left.tempC - right.tempC
    else (left.index : ℤ) - right.index) ≤ 0

def sortedActivePresetEntries : List PresetEntry :=
  (state.presetsC.zipIdx.filterMap fun entry =>
    entry.1.map fun tempC => PresetEntry.mk entry.2 tempC).insertionSort PresetEntry.Le

def findNeighborPreset (ascending : Bool) : Option PresetEntry :=
  let entries := sortedActivePresetEntries state
  if ascending then entries.find? fun entry => entry.tempC > state.targetTempC
  else entries.reverse.find? fun entry => entry.tempC < state.targetTempC

def nextPresetSlot : Option (ℕ × Option ℤ) :=
  if state.presetsC.length = 0 then none
  else
    let nextIndex := (state.selectedPresetIndex + 1) % state.presetsC.length
    some (nextIndex, presetAt state.presetsC nextIndex)

/-! ## Heater and fan -/

/-- The latch and whether it is armed. -/
def reconcileCoolingDisabledLock : Bool × Bool :=
  if state.activeCoolingEnabled then (false, true)
  else if state.currentTempC ≤ coolingDisabledHeaterLockTempC then
    (state.coolingDisabledLockLatched, true)
  else if state.coolingDisabledLockArmed then (true, false)
  else (state.coolingDisabledLockLatched, state.coolingDisabledLockArmed)

def coolingDisabledPulseDutyPercent (currentTempC : ℚ) : ℤ :=
  if currentTempC ≤ coolingDisabledPulseStartTempC then 0
  else min 25 ⌊(currentTempC - coolingDisabledPulseStartTempC) / 10⌋

def heatingFanPulseDutyPercent (currentTempC : ℚ) : ℤ :=
  min heatingFanPulseMaxDutyPercent (coolingDisabledPulseDutyPercent currentTempC * 2)

def pulseEnabled (elapsedMs : ℕ) (dutyPercent : ℤ) : Bool :=
  if dutyPercent ≤ 0 then false
  else (elapsedMs % fanPulsePeriodMs : ℕ) < (fanPulsePeriodMs : ℤ) * dutyPercent / 100

def coolingDisabledPulseEnabled : Bool :=
  pulseEnabled state.elapsedMs (coolingDisabledPulseDutyPercent state.currentTempC)

def heatingFanPulseEnabled : Bool :=
  if state.heaterOutputPercent = 0 then false
  else pulseEnabled state.elapsedMs (heatingFanPulseDutyPercent state.currentTempC)

/-- What the cooling policy decides about the fan. -/
structure FanDecision where
  fanRuntimeEnabled : Bool
  fanDisplayState : FanDisplayState
  fanPolicySource : FanPolicySource
  fanOutputLevel : FanOutputLevel
  activeCoolingCooldownEndsAtMs : Option ℕ

/-- The fan while the heater is on. -/
def heatingFan : FanDecision :=
  let fanRuntimeEnabled : Bool :=
    if state.currentTempC > coolingDisabledFanFullTempC then true
    else if state.currentTempC > coolingDisabledHeaterLockTempC then true
    else if state.currentTempC > coolingDisabledPulseStartTempC then heatingFanPulseEnabled state
    else false
  { fanRuntimeEnabled
    fanDisplayState :=
      if state.activeCoolingEnabled then (if fanRuntimeEnabled then .run else .auto) else .off
    fanPolicySource := .heatingGuard
    fanOutputLevel := if fanRuntimeEnabled then .low else .off
    activeCoolingCooldownEndsAtMs := none }

/-- The fan after heating, and until when it still runs. -/
def postHeatFan : FanDecision :=
  let cooldown : Bool × Option ℕ :=
    if state.currentTempC > autoCoolingFullTempC then (true, none)
    else if state.currentTempC ≥ autoCoolingMinTempC then (true, none)
    else if ∃ endsAt ∈ state.activeCoolingCooldownEndsAtMs, state.elapsedMs < endsAt then
      (true, state.activeCoolingCooldownEndsAtMs)
    else if state.fanRuntimeEnabled then
      (true, some (state.elapsedMs + autoCoolingFanCooldownMs))
    else (false, none)
  { fanRuntimeEnabled := cooldown.1
    fanDisplayState := if cooldown.1 then .run else .auto
    fanPolicySource := .postHeat
    fanOutputLevel :=
      if cooldown.1 then
        (if state.postHeatCoolingMode = .fast ∧ state.currentTempC > 60 then .high else .medium)
      else .off
    activeCoolingCooldownEndsAtMs := cooldown.2 }

/-- The fan while cooling is disabled. -/
def coolingDisabledFan (heaterLockReason : Option HeaterLockReason) : FanDecision :=
  let fanRuntimeEnabled : Bool :=
    if state.currentTempC > coolingDisabledFanFullTempC then true
    else if state.currentTempC > coolingDisabledHeaterLockTempC then true
    else if state.currentTempC > coolingDisabledPulseStartTempC then
      coolingDisabledPulseEnabled state
    else false
  { fanRuntimeEnabled
    fanDisplayState := .off
    fanPolicySource := if heaterLockReason.isSome then .safety else .idle
    fanOutputLevel := if fanRuntimeEnabled then .high else .off
    activeCoolingCooldownEndsAtMs := none }

def reconcileCoolingState : FrontPanelRuntimeState :=
  let (latched, armed) := reconcileCoolingDisabledLock state
  let hardOvertempLatched : Bool :=
    state.currentTempC ≥ hardOvertempTempC ∨ state.heaterLockReason = some .hardOvertemp
  let heaterLockReason : Option HeaterLockReason :=
    if hardOvertempLatched then some .hardOvertemp
    else if latched then some .coolingDisabledOvertemp
    else none
  let fan :=
    if state.heaterEnabled then heatingFan state
    else if state.activeCoolingEnabled then postHeatFan state
    else coolingDisabledFan state heaterLockReason
  let heaterEnabled := if heaterLockReason.isSome then false else state.heaterEnabled
  { state with
    heaterEnabled
    heaterOutputPercent := if heaterEnabled then state.heaterOutputPercent else 0
    fanRuntimeEnabled := fan.fanRuntimeEnabled
    fanDisplayState := fan.fanDisplayState
    fanPolicySource := fan.fanPolicySource
    fanOutputLevel := fan.fanOutputLevel
    activeCoolingCooldownEndsAtMs := fan.activeCoolingCooldownEndsAtMs
    coolingDisabledLockLatched := latched
    coolingDisabledLockArmed := armed
    heaterLockReason
    dashboardWarningVisible :=
      heaterLockReason.isSome ∧ state.elapsedMs / dashboardWarningBlinkHalfPeriodMs % 2 = 0 }

def createFrontPanelRuntimeState (mode : FrontPanelRuntimeMode) : FrontPanelRuntimeState :=
  reconcileCoolingState
    { mode
      route := if mode = .keyTest then .keyTest else .dashboard
      deviceInfoPage := 0
      elapsedMs := 0
      currentTempC := 32
      targetTempC := 100
      heaterEnabled := false
      heaterOutputPercent := 0
      fanRuntimeEnabled := false
      fanDisplayState := .auto
      selectedMenuItem := .activeCooling
      selectedPresetIndex := 1
      presetsC := [some 50, some 100, some 120, some 150, some 180, some 200, some 210, some 220,
        some 250, some 300]
      activeCoolingEnabled := true
      activeCoolingCooldownEndsAtMs := none
      postHeatCoolingMode := .normal
      heatingFanGuardMode := .medium
      fanPolicySource := .idle
      fanOutputLevel := .off
      fanSettingsRow := 0
      fanSettingsDraftPostHeat := .normal
      fanSettingsDraftGuard := .medium
      coolingDisabledLockLatched := false
      coolingDisabledLockArmed := true
      heaterLockReason := none
      dashboardWarningVisible := false
      keyTest := ⟨none, none, "---", "---", "IDLE", "MASK 00"⟩ }

/-! ## The pages -/

/-- A heater that is to be switched on again clears a lock that no longer applies. -/
def toggleHeater : FrontPanelRuntimeState :=
  let heaterEnabled := !state.heaterEnabled
  let clearsHardOvertempLock : Bool :=
    heaterEnabled ∧ state.heaterLockReason = some .hardOvertemp ∧
      state.currentTempC < hardOvertempTempC
  let blocksHardOvertempRearm : Bool :=
    heaterEnabled ∧ state.heaterLockReason = some .hardOvertemp ∧
      state.currentTempC ≥ hardOvertempTempC
  let lockOverride : Bool :=
    heaterEnabled ∧ state.heaterLockReason = some .coolingDisabledOvertemp
  reconcileCoolingState { state with
    coolingDisabledLockLatched := if lockOverride then false else state.coolingDisabledLockLatched
    coolingDisabledLockArmed := if lockOverride then false else state.coolingDisabledLockArmed
    heaterEnabled := if blocksHardOvertempRearm then false else heaterEnabled
    heaterOutputPercent :=
      if blocksHardOvertempRearm || !heaterEnabled then 0 else defaultHeaterOutputPercent
    heaterLockReason := if clearsHardOvertempLock then none else state.heaterLockReason }

def retarget (targetTempC : ℤ) : FrontPanelRuntimeState :=
  reconcileCoolingState { state with
    targetTempC
    selectedPresetIndex := (matchingPresetIndex state targetTempC).getD state.selectedPresetIndex }

def goToNeighbor (ascending : Bool) : FrontPanelRuntimeState :=
  match findNeighborPreset state ascending with
  | some neighbor =>
      reconcileCoolingState { state with
        targetTempC := neighbor.tempC
        selectedPresetIndex := neighbor.index }
  | none => state

def applyDashboardInteraction : FrontPanelRuntimeState :=
  match interaction.key, interaction.gesture with
  | .up, .shortPress | .up, .repeatPress =>
      retarget state (clampTargetTemp (state.targetTempC + 1))
  | .down, .shortPress | .down, .repeatPress =>
      retarget state (clampTargetTemp (state.targetTempC - 1))
  | .left, .shortPress => goToNeighbor state false
  | .right, .shortPress => goToNeighbor state true
  | .center, .shortPress => toggleHeater state
  | .center, .doublePress => state
  | .center, .longPress => { state with route := .menu }
  | _, _ => state

/-- `menuItems[(index + step) % menuItems.length].id`. -/
def stepMenuItem (item : FrontPanelMenuItem) (step : ℕ) : FrontPanelMenuItem :=
  (menuItems[(menuItems.idxOf item + step) % menuItems.length]?).getD item

def applyMenuInteraction : FrontPanelRuntimeState :=
  match interaction.key, interaction.gesture with
  | .left, .shortPress =>
      { state with
        selectedMenuItem := stepMenuItem state.selectedMenuItem (menuItems.length - 1) }
  | .right, .shortPress =>
      { state with selectedMenuItem := stepMenuItem state.selectedMenuItem 1 }
  | .center, .shortPress =>
      { state with
        route := state.selectedMenuItem.route
        deviceInfoPage := 0 }
  | .center, .longPress => { state with route := .dashboard }
  | _, _ => state

def applyPresetTempInteraction : FrontPanelRuntimeState :=
  match interaction.key, interaction.gesture with
  | .right, .shortPress =>
      match nextPresetSlot state with
      | some (index, _) => { state with selectedPresetIndex := index }
      | none => state
  | .up, .shortPress | .up, .repeatPress =>
      let nextValue := clampTargetTemp
        (match presetAt state.presetsC state.selectedPresetIndex with
          | none => 0
          | some currentValue => currentValue + 1)
      reconcileCoolingState { state with
        presetsC := assignPreset state.presetsC state.selectedPresetIndex (some nextValue)
        targetTempC := nextValue }
  | .down, .shortPress | .down, .repeatPress =>
      match presetAt state.presetsC state.selectedPresetIndex with
      | none =>
          { state with presetsC := assignPreset state.presetsC state.selectedPresetIndex none }
      | some currentValue =>
          if currentValue ≤ 0 then
            { state with presetsC := assignPreset state.presetsC state.selectedPresetIndex none }
          else
            let nextValue := clampTargetTemp (currentValue - 1)
            reconcileCoolingState { state with
              presetsC := assignPreset state.presetsC state.selectedPresetIndex (some nextValue)
              targetTempC := nextValue }
  | .left, .shortPress | .center, .shortPress | .center, .longPress =>
      { state with route := .menu }
  | _, _ => state

def postHeatModes : List PostHeatCoolingMode := [.off, .normal, .fast]

def heatingGuardModes : List HeatingFanGuardMode := [.off, .low, .medium, .high]

/-- `modes[(index + (forward ? 1 : modes.length - 1)) % modes.length]`. -/
def stepMode {α : Type} [DecidableEq α] (modes : List α) (mode : α) (forward : Bool) : α :=
  let step := if forward then 1 else modes.length - 1
  (modes[(modes.idxOf mode + step) % modes.length]?).getD mode

def applyActiveCoolingInteraction : FrontPanelRuntimeState :=
  match interaction.key, interaction.gesture with
  | .up, .shortPress | .down, .shortPress =>
      { state with fanSettingsRow := if state.fanSettingsRow = 0 then 1 else 0 }
  | .left, .shortPress | .right, .shortPress =>
      let forward : Bool := interaction.key = .right
      if state.fanSettingsRow = 0 then
        { state with
          fanSettingsDraftPostHeat :=
            stepMode postHeatModes state.fanSettingsDraftPostHeat forward }
      else
        { state with
          fanSettingsDraftGuard := stepMode heatingGuardModes state.fanSettingsDraftGuard forward }
  | .center, .shortPress =>
      reconcileCoolingState { state with
        postHeatCoolingMode := state.fanSettingsDraftPostHeat
        heatingFanGuardMode := state.fanSettingsDraftGuard
        activeCoolingEnabled := state.fanSettingsDraftPostHeat ≠ .off
        route := .menu }
  | .center, .longPress =>
      { state with
        fanSettingsDraftPostHeat := state.postHeatCoolingMode
        fanSettingsDraftGuard := state.heatingFanGuardMode
        route := .menu }
  | _, _ => state

/-- The pages that come last: two of the device information page's keys, and the way back to the
menu. -/
def applyInfoInteraction : FrontPanelRuntimeState :=
  if state.route = .deviceInfo ∧ interaction.gesture = .shortPress ∧
      (interaction.key = .left ∨ interaction.key = .right) then
    { state with
      deviceInfoPage := (state.deviceInfoPage + if interaction.key = .right then 1 else 2) % 3 }
  else if (interaction.key = .left ∧ interaction.gesture = .shortPress) ∨
      (interaction.key = .center ∧
        (interaction.gesture = .shortPress ∨ interaction.gesture = .longPress)) then
    { state with route := .menu }
  else state

def applyFrontPanelInteraction (current : FrontPanelRuntimeState)
    (interaction : FrontPanelRuntimeInteraction) : FrontPanelRuntimeState :=
  let state := updateKeyTest current interaction
  if state.mode = .keyTest then state
  else
    match state.route with
    | .dashboard => applyDashboardInteraction state interaction
    | .menu => applyMenuInteraction state interaction
    | .presetTemp => applyPresetTempInteraction state interaction
    | .activeCooling => applyActiveCoolingInteraction state interaction
    | .keyTest | .wifiInfo | .deviceInfo => applyInfoInteraction state interaction

end FluxPurr.FrontPanel.Preview
