import FluxPurr.Memory.Config
import FluxPurr.Usb.ResponseWriter

/-!
# The fan policy

`fanPolicyDecisionWithModes` decides in every cycle of the runtime loop what the fan does: it guards
the heated plate, cools it down after a heating, and holds its output while the sensor has a fault.
What it remembers of the cycles before is the state of its last decision and whether the heater was
enabled then (`FanLoop`).

The states that only the tests know are left out.
-/

namespace FluxPurr.Fan

open FluxPurr.Memory (PostHeatCoolingMode HeatingFanGuardMode)
open FluxPurr.Usb (saturatingAddU64)

abbrev fanFullSpeedPwmPermille : ℕ := 0
abbrev fanHalfSpeedPwmPermille : ℕ := 250
abbrev fanMinimumOutputVoltagePwmPermille : ℕ := 1000
abbrev autoCoolingFanCooldownMs : ℕ := 30000

inductive FanDisplayState where
  | off
  | auto
  | run
  | safe
deriving DecidableEq, Repr

inductive FanPolicySource where
  | idle
  | postHeat
  | heatingGuard
  | safety
deriving DecidableEq, Repr

inductive FanOutputLevel where
  | off
  | low
  | medium
  | high
  | limited
deriving DecidableEq, Repr

inductive FanVoltageProfile where
  | minimum
  | safeHalf
  | full
deriving DecidableEq, Repr

def FanVoltageProfile.pwmPermille : FanVoltageProfile → ℕ
  | minimum => fanMinimumOutputVoltagePwmPermille
  | safeHalf => fanHalfSpeedPwmPermille
  | full => fanFullSpeedPwmPermille

structure FanHardwareCommand where
  enabled : Bool
  pwmPermille : ℕ
deriving DecidableEq, Repr

namespace FanHardwareCommand

def disabled : FanHardwareCommand := ⟨false, fanMinimumOutputVoltagePwmPermille⟩

def fromProfile (profile : FanVoltageProfile) : FanHardwareCommand := ⟨true, profile.pwmPermille⟩

@[simp] theorem enabled_disabled : disabled.enabled = false := rfl

@[simp] theorem enabled_fromProfile (profile : FanVoltageProfile) :
    (fromProfile profile).enabled = true := rfl

end FanHardwareCommand

inductive FanPolicyState where
  | disabled
  | activeCooling
  | postHeatMedium
  | postHeatCooldown (untilMs : ℕ) (profile : FanVoltageProfile)
  | safeHalf
  | full
  | heatingGuardPulse (dutyPercent pwmPermille : ℕ)
  | heatingGuardContinuous
deriving DecidableEq, Repr

def FanPolicyState.command (state : FanPolicyState) (elapsedMs : ℕ) : FanHardwareCommand :=
  match state with
  | disabled => .disabled
  | activeCooling => .fromProfile .full
  | postHeatMedium => .fromProfile .safeHalf
  | postHeatCooldown untilMs profile =>
      if elapsedMs < untilMs then .fromProfile profile else .disabled
  | safeHalf => .fromProfile .safeHalf
  | full => .fromProfile .full
  | heatingGuardPulse dutyPercent pwmPermille =>
      if dutyPercent = 0 then .disabled
      else ⟨elapsedMs % 10000 < 10000 * dutyPercent / 100, pwmPermille⟩
  | heatingGuardContinuous => .fromProfile .minimum

structure FanPolicyDecision where
  state : FanPolicyState
  command : FanHardwareCommand
  displayState : FanDisplayState
  source : FanPolicySource
  outputLevel : FanOutputLevel
deriving DecidableEq, Repr

def fanDisplayStateForCommand (activeCoolingEnabled : Bool) (command : FanHardwareCommand) :
    FanDisplayState :=
  if activeCoolingEnabled = false then .off
  else if command.enabled then .run
  else .auto

def fanOutputLevelForCommand (command : FanHardwareCommand) : FanOutputLevel :=
  if command.enabled = false then .off
  else if command.pwmPermille = fanFullSpeedPwmPermille then .high
  else if command.pwmPermille ≤ fanHalfSpeedPwmPermille then .medium
  else if fanMinimumOutputVoltagePwmPermille ≤ command.pwmPermille then .low
  else .limited

def fanDisplayStateForPolicy (source : FanPolicySource) (postHeatMode : PostHeatCoolingMode)
    (command : FanHardwareCommand) : FanDisplayState :=
  if source = .safety then .safe else fanDisplayStateForCommand postHeatMode.isEnabled command

/-! ## The heating guard -/

variable (currentTempC : ℤ)

def interpolateLimitedFanPwm : ℕ :=
  let progress := (max 0 (min 90 (currentTempC - 150))).toNat
  let span := fanMinimumOutputVoltagePwmPermille - 700
  fanMinimumOutputVoltagePwmPermille - span * progress / 90

/-- The pulse that a guard of the given range gives. -/
def pulsePercentBetween (startC fullC currentTempC : ℤ) : ℕ :=
  if currentTempC ≤ startC then 0
  else
    let span := (fullC - startC).toNat
    let progress := (min (currentTempC - startC) (fullC - startC)).toNat
    10 + 40 * progress / span

def guardPulsePercent : HeatingFanGuardMode → ℕ
  | .low => pulsePercentBetween 100 200 currentTempC
  | .medium => pulsePercentBetween 80 150 currentTempC
  | .off | .high => 0

def heatingGuardPulseState (guardMode : HeatingFanGuardMode) : FanPolicyState × FanPolicySource :=
  let dutyPercent := guardPulsePercent currentTempC guardMode
  if dutyPercent = 0 then (.disabled, .heatingGuard)
  else
    let pwmPermille :=
      if guardMode = .medium ∧ 150 < currentTempC then interpolateLimitedFanPwm currentTempC
      else fanMinimumOutputVoltagePwmPermille
    (.heatingGuardPulse dutyPercent pwmPermille, .heatingGuard)

/-! ## The decision -/

/-- The states from which post-heat cooling goes on without a new edge. -/
def FanPolicyState.isPostHeat : FanPolicyState → Bool
  | postHeatMedium | postHeatCooldown _ _ | activeCooling => true
  | _ => false

/-- The post-heat cooling of a cycle in which no tail runs yet. -/
def postHeatState (elapsedMs : ℕ) : PostHeatCoolingMode → FanPolicyState
  | .normal =>
      if 40 < currentTempC then .postHeatMedium
      else .postHeatCooldown (saturatingAddU64 elapsedMs autoCoolingFanCooldownMs) .minimum
  | .fast =>
      if 60 < currentTempC then .activeCooling
      else if 40 < currentTempC then .postHeatMedium
      else .postHeatCooldown (saturatingAddU64 elapsedMs autoCoolingFanCooldownMs) .safeHalf
  | .off => .disabled

/-- The state and the source of a decision. -/
def fanPolicyState (elapsedMs : ℕ) (heaterEnabled heaterJustDisabled : Bool)
    (postHeatMode : PostHeatCoolingMode) (guardMode : HeatingFanGuardMode)
    (previousState : FanPolicyState) (holdPreviousOutput : Bool) :
    FanPolicyState × FanPolicySource :=
  if holdPreviousOutput then (previousState, .safety)
  else if heaterEnabled then
    match guardMode with
    | .high =>
        if 80 < currentTempC then (.heatingGuardContinuous, .heatingGuard)
        else (.disabled, .heatingGuard)
    | .low | .medium => heatingGuardPulseState currentTempC guardMode
    | .off => (.disabled, .heatingGuard)
  else if postHeatMode.isEnabled && (heaterJustDisabled || previousState.isPostHeat) then
    match previousState with
    | .postHeatCooldown untilMs profile =>
        -- A tail that was running before a heating runs on, whatever the plate is now.
        (if elapsedMs < untilMs then .postHeatCooldown untilMs profile else .disabled, .postHeat)
    | _ => (postHeatState currentTempC elapsedMs postHeatMode, .postHeat)
  else (.disabled, .idle)

def fanPolicyDecisionWithModes (elapsedMs : ℕ)
    (heaterEnabled heaterJustDisabled : Bool) (postHeatMode : PostHeatCoolingMode)
    (guardMode : HeatingFanGuardMode) (previous : FanPolicyState × Bool) : FanPolicyDecision :=
  let decided := fanPolicyState currentTempC elapsedMs heaterEnabled heaterJustDisabled postHeatMode
    guardMode previous.1 previous.2
  let command := decided.1.command elapsedMs
  { state := decided.1
    command
    displayState := fanDisplayStateForPolicy decided.2 postHeatMode command
    source := decided.2
    outputLevel := fanOutputLevelForCommand command }

/-! ## The loop -/

/-- What a cycle of the loop reads: the displayed temperature, which a sensor fault leaves as it
was, the time, the heater switch after the fault attention, and the modes. -/
structure FanCycle where
  elapsedMs : ℕ
  displayTempC : ℤ
  heaterEnabled : Bool
  sensorFault : Bool
  postHeatMode : PostHeatCoolingMode
  guardMode : HeatingFanGuardMode
deriving DecidableEq, Repr

/-- What the loop keeps for the fan. -/
structure FanLoop where
  fanPolicyState : FanPolicyState
  heaterEnabledLastCycle : Bool
deriving DecidableEq, Repr

namespace FanLoop

def boot : FanLoop := ⟨.disabled, false⟩

/-- The decision of `runtime_update_fan_and_ui`, where nothing overrides it. -/
def decision (loop : FanLoop) (cycle : FanCycle) : FanPolicyDecision :=
  fanPolicyDecisionWithModes cycle.displayTempC cycle.elapsedMs cycle.heaterEnabled
    (loop.heaterEnabledLastCycle && !cycle.heaterEnabled) cycle.postHeatMode cycle.guardMode
    (loop.fanPolicyState, cycle.sensorFault)

def runtimeUpdateFan (loop : FanLoop) (cycle : FanCycle) : FanLoop :=
  ⟨(loop.decision cycle).state, cycle.heaterEnabled⟩

/-- The loop after some cycles. -/
def after (loop : FanLoop) (cycles : List FanCycle) : FanLoop := cycles.foldl runtimeUpdateFan loop

end FanLoop

end FluxPurr.Fan
