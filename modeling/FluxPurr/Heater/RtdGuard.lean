import Mathlib.Algebra.Order.Archimedean.Basic
import FluxPurr.Usb.ResponseWriter

/-!
# From an RTD sample to the control temperature

Two guards stand between a valid sample and the heater.  The transition guard keeps back
the samples of the first 300 ms after a change of the power request.  The measurement guard
keeps back a step that the plate cannot make in the time since the last sample it accepted.

When the request changes, and once more when the window of the transition guard ends, the
measurement guard is seeded with the control temperature.  After a fault that temperature
is the placeholder of `clearRuntimeTemperature`.  Temperatures are exact.
-/

namespace FluxPurr.Heater

open FluxPurr.Usb (saturatingAddU64)

def rtdControlSampleStableAfterRequestMs : ℕ := 300
def rtdControlMaxSlewCPerS : ℚ := 35
def rtdControlMaxAcceptedStepC : ℚ := 6
def rtdControlMaxUnpoweredRiseCPerS : ℚ := 4
def rtdControlMinUnpoweredRiseStepC : ℚ := 3 / 5
def rtdControlMaxUnpoweredRiseStepC : ℚ := 3
def rtdControlGuardRecoveryWindowMs : ℕ := 750
def rtdControlGuardRecoveryBandC : ℚ := 3
def heaterHardCutoffTempC : ℚ := 420

/-! ## The transition guard -/

structure RtdPpsTransitionGuard where
  requestMv : Option ℕ
  blockedUntilMs : Option ℕ

namespace RtdPpsTransitionGuard

def new (requestMv : ℕ) : RtdPpsTransitionGuard := ⟨some requestMv, none⟩

/-- Whether the sample may be used, and whether the filter is seeded again. -/
def observe (guard : RtdPpsTransitionGuard) (requestMv nowMs : ℕ) :
    (Bool × Bool) × RtdPpsTransitionGuard :=
  if guard.requestMv ≠ some requestMv then
    ((false, true),
      ⟨some requestMv, some (saturatingAddU64 nowMs rtdControlSampleStableAfterRequestMs)⟩)
  else
    match guard.blockedUntilMs with
    | some blockedUntilMs =>
        if nowMs < blockedUntilMs then ((false, false), guard)
        else ((true, true), { guard with blockedUntilMs := none })
    | none => ((true, false), guard)

end RtdPpsTransitionGuard

/-! ## The measurement guard -/

structure RtdControlMeasurementGuard where
  lastAcceptedTempC : Option ℚ := none
  lastAcceptedAtMs : Option ℕ := none
  guardedCandidateTempC : Option ℚ := none
  guardedCandidateSinceMs : Option ℕ := none
  guarded : Bool := false

namespace RtdControlMeasurementGuard

def clear : RtdControlMeasurementGuard := {}

def reseed (tempC : ℚ) (nowMs : ℕ) : RtdControlMeasurementGuard where
  lastAcceptedTempC := some tempC
  lastAcceptedAtMs := some nowMs

/-- The largest step that is accepted after this time. -/
def maxDeltaC (elapsedMs : ℕ) : ℚ :=
  min (rtdControlMaxSlewCPerS * (elapsedMs / 1000)) rtdControlMaxAcceptedStepC

/-- The largest rise that is accepted after this time without heat. -/
def maxUnpoweredRiseC (elapsedMs : ℕ) : ℚ :=
  min (max (rtdControlMaxUnpoweredRiseCPerS * (elapsedMs / 1000)) rtdControlMinUnpoweredRiseStepC)
    rtdControlMaxUnpoweredRiseStepC

/-- At least 25 ms are counted. -/
def elapsedSince (lastAtMs nowMs : ℕ) : ℕ := max (nowMs - lastAtMs) 25

variable (guard : RtdControlMeasurementGuard)

def observe (measurementTempC : ℚ) (nowMs : ℕ) : Option ℚ × RtdControlMeasurementGuard :=
  match guard.lastAcceptedTempC with
  | none => (some measurementTempC, reseed measurementTempC nowMs)
  | some lastTempC =>
      let elapsedMs := elapsedSince (guard.lastAcceptedAtMs.getD nowMs) nowMs
      if maxDeltaC elapsedMs < |measurementTempC - lastTempC| then
        let candidateIsConsistent := guard.guardedCandidateTempC.any fun candidate =>
          |measurementTempC - candidate| ≤ rtdControlGuardRecoveryBandC
        -- A step that persists for the recovery window is accepted after all.
        if candidateIsConsistent ∧ rtdControlGuardRecoveryWindowMs ≤
            nowMs - guard.guardedCandidateSinceMs.getD nowMs then
          (some measurementTempC, reseed measurementTempC nowMs)
        else if candidateIsConsistent then
          (none, { guard with guarded := true })
        else
          (none, { guard with
            guardedCandidateTempC := some measurementTempC
            guardedCandidateSinceMs := some nowMs
            guarded := true })
      else (some measurementTempC, reseed measurementTempC nowMs)

/-- The heater is off and the step is up and too large for a plate that coasts. -/
def RisesUnpowered (measurementTempC : ℚ) (nowMs : ℕ) (heaterDutyPercent : ℕ) : Prop :=
  ∃ lastTempC ∈ guard.lastAcceptedTempC, ∃ lastAtMs ∈ guard.lastAcceptedAtMs,
    heaterDutyPercent = 0 ∧ lastTempC < measurementTempC ∧
      maxUnpoweredRiseC (elapsedSince lastAtMs nowMs) < measurementTempC - lastTempC

instance (guard : RtdControlMeasurementGuard) (measurementTempC : ℚ)
    (nowMs heaterDutyPercent : ℕ) :
    Decidable (guard.RisesUnpowered measurementTempC nowMs heaterDutyPercent) :=
  match htemp : guard.lastAcceptedTempC, hat : guard.lastAcceptedAtMs with
  | none, _ => isFalse fun ⟨_, h, _⟩ => by simp [htemp] at h
  | some _, none => isFalse fun ⟨_, _, _, h, _⟩ => by simp [hat] at h
  | some lastTempC, some lastAtMs =>
      decidable_of_iff (heaterDutyPercent = 0 ∧ lastTempC < measurementTempC ∧
        maxUnpoweredRiseC (elapsedSince lastAtMs nowMs) < measurementTempC - lastTempC) (by
          simp [RisesUnpowered, htemp, hat])

def observeWithHeaterDuty (measurementTempC : ℚ)
    (nowMs heaterDutyPercent : ℕ) : Option ℚ × RtdControlMeasurementGuard :=
  if guard.RisesUnpowered measurementTempC nowMs heaterDutyPercent then
    (none, { guard with
      guardedCandidateTempC := none
      guardedCandidateSinceMs := none
      guarded := true })
  else guard.observe measurementTempC nowMs

end RtdControlMeasurementGuard

/-! ## The sample -/

inductive HeaterFaultReason where
  | sensorShort
  | sensorOpen
  | adcReadFailed
  | overTemp
  deriving DecidableEq

structure RtdMeasurement where
  rawAdcCode : ℕ
  rawAdcMv : ℕ
  rawAdcMinMv : ℕ
  rawAdcMaxMv : ℕ
  tempC : ℚ

inductive RtdSample where
  | valid (measurement : RtdMeasurement)
  | fault (adcMv : Option ℕ) (reason : HeaterFaultReason)

inductive DashboardPresentationState where
  | initializing
  | eepromRestore
  | ready
  | initialRtdFault
  deriving DecidableEq

/-- What the front panel shows of the temperature. -/
structure FrontPanelTemperature where
  currentTempC : ℤ
  currentTempDeciC : ℤ
  dashboardPresentation : DashboardPresentationState

/-- The two ways in which the heater controller is seeded with a temperature. -/
inductive ControllerReseed where
  | measurementAfterPpsStep (tempC : ℚ)
  | measurement (tempC : ℚ)

/-- `as i16` cuts towards zero. -/
def truncI16 (value : ℚ) : ℤ :=
  let clamped := min (max value (-32768)) 32767
  if 0 ≤ clamped then ⌊clamped⌋ else ⌈clamped⌉

def tempCToWholeC (tempC : ℚ) : ℤ := truncI16 (if 0 ≤ tempC then tempC + 1 / 2 else tempC - 1 / 2)

def tempCToDeciC (tempC : ℚ) : ℤ := tempCToWholeC (tempC * 10)

/-- The part of the runtime loop's state that a sample reads and writes. -/
structure RtdRuntime where
  heaterEnabled : Bool
  lastHeaterDuty : ℕ
  latestRtdRawCode : ℕ
  latestRtdRawAdcMv : ℕ
  latestRtdRawAdcMinMv : ℕ
  latestRtdRawAdcMaxMv : ℕ
  panel : FrontPanelTemperature
  latestDisplayTempC : ℚ
  latestDisplayTempI16 : ℤ
  /-- The control temperature. -/
  latestTempC : ℚ
  latestTempI16 : ℤ
  rtdPpsTransitionGuard : RtdPpsTransitionGuard
  rtdControlMeasurementGuard : RtdControlMeasurementGuard
  controlMeasurementGuarded : Bool
  currentRtdFault : Option HeaterFaultReason
  lastRtdSampleRequestMv : ℕ
  /-- How the sample seeded the heater controller, in order. -/
  controllerReseeds : List ControllerReseed

def overtempFaultFromControlTemperature (tempC : ℚ) : Option HeaterFaultReason :=
  if heaterHardCutoffTempC ≤ tempC then some .overTemp else none

/-- The panel with this temperature, and whether it has to be drawn. -/
def syncRuntimeTemperatureUi (panel : FrontPanelTemperature)
    (currentTempC currentTempDeciC : ℤ) : FrontPanelTemperature × Bool :=
  ({ panel with currentTempC := currentTempC, currentTempDeciC := currentTempDeciC },
    panel.currentTempC ≠ currentTempC || panel.currentTempDeciC ≠ currentTempDeciC)

variable (state : RtdRuntime)

def updateRuntimeDisplayTemperature (tempC : ℚ) : RtdRuntime × Bool :=
  let wakes := state.panel.dashboardPresentation = .initializing ∨
    state.panel.dashboardPresentation = .initialRtdFault
  let panel := if wakes then { state.panel with dashboardPresentation := .ready } else state.panel
  let (panel, changed) :=
    syncRuntimeTemperatureUi panel (tempCToWholeC tempC) (tempCToDeciC tempC)
  ({ state with
      latestDisplayTempC := tempC
      latestDisplayTempI16 := tempCToWholeC tempC
      panel := panel },
    wakes || changed)

def retainRuntimeDisplayTemperature : RtdRuntime × Bool :=
  let (panel, changed) := syncRuntimeTemperatureUi state.panel state.latestDisplayTempI16
    (tempCToDeciC state.latestDisplayTempC)
  ({ state with panel := panel }, changed)

/-- The temperature that nobody measured. -/
def clearRuntimeTemperature : RtdRuntime := { state with latestTempC := 0, latestTempI16 := 0 }

/-- The sample if both guards let it through. -/
def acceptRtdControlSampleAfterPpsTransitionWithOutput
    (requestMv nowMs : ℕ) (temperatureC : ℚ) : Option ℚ × RtdRuntime :=
  let ((acceptControlSample, reseedFilter), transitionGuard) :=
    state.rtdPpsTransitionGuard.observe requestMv nowMs
  let guard := state.rtdControlMeasurementGuard
  -- The seed keeps the age of the temperature.
  let guard := if reseedFilter then
    .reseed state.latestTempC (guard.lastAcceptedAtMs.getD nowMs) else guard
  let reseeds := if reseedFilter then [.measurementAfterPpsStep state.latestTempC] else []
  let (accepted, observed) := if acceptControlSample then
    guard.observeWithHeaterDuty temperatureC nowMs state.lastHeaterDuty else (none, guard)
  let recovered := guard.guarded && accepted.isSome
  (accepted, { state with
    rtdPpsTransitionGuard := transitionGuard
    rtdControlMeasurementGuard := observed
    controllerReseeds := reseeds ++ if recovered then [.measurement temperatureC] else [] })

def applyValidRtdMeasurement (requestMv nowMs : ℕ) (measurementTempC : ℚ) : RtdRuntime × Bool :=
  let (state, needsRedraw) := updateRuntimeDisplayTemperature state measurementTempC
  let (accepted, state) :=
    acceptRtdControlSampleAfterPpsTransitionWithOutput state requestMv nowMs measurementTempC
  let state := match accepted with
    | some controlTempC => { state with
        latestTempC := controlTempC
        latestTempI16 := tempCToWholeC controlTempC }
    | none => state
  ({ state with controlMeasurementGuarded := state.rtdControlMeasurementGuard.guarded ||
      state.rtdPpsTransitionGuard.blockedUntilMs.isSome }, needsRedraw)

/-- The temperature for a live calibration, whether the panel has to be drawn, and the
state after the sample. -/
def runtimeApplyRtdSample (rtdSample : RtdSample)
    (currentRequestMv elapsedMs : ℕ) : (Option ℚ × Bool) × RtdRuntime :=
  let state := { state with
    controlMeasurementGuarded := state.heaterEnabled && state.controlMeasurementGuarded
    controllerReseeds := [] }
  match rtdSample with
  | .valid measurement =>
      let (state, needsRedraw) := applyValidRtdMeasurement
        { state with
          latestRtdRawCode := measurement.rawAdcCode
          latestRtdRawAdcMv := measurement.rawAdcMv
          latestRtdRawAdcMinMv := measurement.rawAdcMinMv
          latestRtdRawAdcMaxMv := measurement.rawAdcMaxMv }
        currentRequestMv elapsedMs measurement.tempC
      ((some measurement.tempC, needsRedraw), { state with
        currentRtdFault := overtempFaultFromControlTemperature measurement.tempC
        lastRtdSampleRequestMv := currentRequestMv })
  | .fault adcMv reason =>
      let (state, needsRedraw) := retainRuntimeDisplayTemperature (clearRuntimeTemperature
        { state with
          latestRtdRawAdcMv := adcMv.getD 0
          latestRtdRawAdcMinMv := adcMv.getD 0
          latestRtdRawAdcMaxMv := adcMv.getD 0
          currentRtdFault := some reason
          rtdControlMeasurementGuard := .clear
          controlMeasurementGuarded := false })
      ((none, needsRedraw), { state with lastRtdSampleRequestMv := currentRequestMv })

/-- The state of the loop after the sample of the boot. -/
def applyInitialRtdSample (heaterEnabled eepromRestorePending : Bool) (sample : RtdSample) :
    RtdRuntime :=
  let state : RtdRuntime :=
    { heaterEnabled := heaterEnabled
      lastHeaterDuty := 0
      latestRtdRawCode := 0
      latestRtdRawAdcMv := 0
      latestRtdRawAdcMinMv := 0
      latestRtdRawAdcMaxMv := 0
      panel := ⟨0, 0, .initializing⟩
      latestDisplayTempC := 0
      latestDisplayTempI16 := 0
      latestTempC := 0
      latestTempI16 := 0
      rtdPpsTransitionGuard := .new 0
      rtdControlMeasurementGuard := {}
      controlMeasurementGuarded := false
      currentRtdFault := none
      lastRtdSampleRequestMv := 0
      controllerReseeds := [] }
  match sample with
  | .valid measurement =>
      let state := (updateRuntimeDisplayTemperature state measurement.tempC).1
      { state with
        latestRtdRawCode := measurement.rawAdcCode
        latestRtdRawAdcMv := measurement.rawAdcMv
        latestRtdRawAdcMinMv := measurement.rawAdcMinMv
        latestRtdRawAdcMaxMv := measurement.rawAdcMaxMv
        latestTempC := measurement.tempC
        latestTempI16 := tempCToWholeC measurement.tempC
        rtdControlMeasurementGuard := .reseed measurement.tempC 0
        currentRtdFault := overtempFaultFromControlTemperature measurement.tempC
        panel := { state.panel with
          dashboardPresentation := if eepromRestorePending then .eepromRestore else .ready } }
  | .fault _ reason =>
      (retainRuntimeDisplayTemperature { state with
        currentRtdFault := some reason
        panel := { state.panel with dashboardPresentation := .initialRtdFault } }).1

end FluxPurr.Heater
