import FluxPurr.Thermal.ControlTarget
import FluxPurr.Heater.RtdGuard
import FluxPurr.Heater.AutomaticCandidate
import FluxPurr.Memory.ConfigCommands

/-!
# The heater controller

`HeaterController` turns a measurement into a duty between 0 and 100 percent.  While heating it
is in one of three phases: full power while warming up, braking in the approach, and a
proportional and integral controller in hold.  A fault is latched until `clearFaultLatch`.

Numbers are rational.  The prediction of the heat still in flight (`AppliedHeatHistory` and
`TemperatureTrajectory` of the thermal trajectory, the reference brake of the heat response), a
power and a square root are a parameter of everything here: whatever they answer, the results
about the controller hold.
-/

namespace FluxPurr.Thermal

open Heater (HeaterFaultReason HeaterControlPhase)
open Memory (ThermalProfileBank)
open Usb (saturatingAddU64)

abbrev heaterHardCutoffTempC : ℚ := 420
abbrev heaterProfileTickMs : ℕ := 1000
abbrev heaterControlIntervalMs : ℕ := 50
abbrev heaterHoldPhaseHysteresisC : ℚ := 0.10
abbrev heaterWarmupSoftStartMs : ℕ := 100
abbrev holdEntryBelowC : ℚ := 0.5
abbrev holdEntryAboveC : ℚ := 3
abbrev approachMinPermille : ℕ := 50

/-- `f32::EPSILON`. -/
abbrev epsilon : ℚ := 1 / 2 ^ 23

inductive ProductionThermalController where
  | unavailable
  | profile (bank : ThermalProfileBank)
deriving DecidableEq

def ProductionThermalController.isProfile : ProductionThermalController → Bool
  | .profile _ => true
  | .unavailable => false

/-! ## The plant -/

structure ThermalPlantProjection where
  convectionMwPerC : ℚ
  radiationMwPerK4 : ℚ
  thermalCapacityMjPerC : ℚ
  transportDelayMs : ℕ
deriving DecidableEq

structure HeatResponse where
  delayMs : ℕ
  decayMs : ℕ
  rmseC : ℚ
  maximumErrorC : ℚ
deriving DecidableEq

def HeatResponse.horizonMs (response : HeatResponse) : ℕ := response.delayMs + 4 * response.decayMs

/-- Passive heat loss fitted from the cooling trace. -/
def naturalCoolingLossMw (model : ThermalPlantProjection) (temperatureC ambientC : ℚ) : ℚ :=
  let temperatureK := max (temperatureC + 273.15) 1
  let ambientK := max (ambientC + 273.15) 1
  let temperatureK2 := temperatureK * temperatureK
  let ambientK2 := ambientK * ambientK
  max (model.convectionMwPerC * max (temperatureC - ambientC) 0 +
    model.radiationMwPerK4 * max (temperatureK2 * temperatureK2 - ambientK2 * ambientK2) 0) 0

def naturalCoolingRateCPerS (model : ThermalPlantProjection) (temperatureC ambientC : ℚ) :
    Option ℚ :=
  if model.thermalCapacityMjPerC ≤ 0 ∨ model.convectionMwPerC < 0 ∨ model.radiationMwPerK4 < 0 ∨
      60000 < model.transportDelayMs then none
  else some (-naturalCoolingLossMw model temperatureC ambientC / model.thermalCapacityMjPerC)

structure TrajectoryPlant where
  model : ThermalPlantProjection
  ambientC : ℚ
  maxPowerMw : ℚ

def TrajectoryPlant.lossMw (plant : TrajectoryPlant) (temperatureC : ℚ) : ℚ :=
  naturalCoolingLossMw plant.model temperatureC plant.ambientC

structure ReferenceState where
  temperatureC : ℚ
  riseCPerS : ℚ

structure TrackingTarget where
  temperatureC : ℚ
  minimumPermille : ℕ
  aheadMs : ℕ
  commandMs : ℕ

/-- The functions of the thermal trajectory and of the heat response that the controller calls,
with `powf` and `sqrt`. -/
structure HeatForecast (History Trajectory : Type) where
  powf : ℚ → ℚ → ℚ
  sqrt : ℚ → ℚ
  newHistory : History
  configure : History → ℕ → History
  configureResponse : History → Option HeatResponse → History
  observe : History → ℕ → ℚ → History
  resetTemperatureObservation : History → History
  reanchorTemperature : History → History
  observeTemperature : History → ℕ → ℚ → TrajectoryPlant → History
  forecastFromMeasurement : History → ℕ → ℕ → ℚ → ℚ → TrajectoryPlant → ReferenceState
  predictResponse : History → ℕ → ℕ → ℚ → ℚ → ℕ → TrajectoryPlant → Option (ReferenceState × ℚ)
  trackingRequestPermille : History → ℕ → ℕ → ℚ → TrackingTarget → TrajectoryPlant → Option ℕ
  trackingRequestBounds :
    History → ℕ → ℕ → ℚ → TrackingTarget → TrajectoryPlant → ℚ → Option (ℕ × ℕ)
  newTrajectory : ℕ → ℚ → Trajectory
  advance : Trajectory → ℕ → ℚ → ℚ → ℚ → TrajectoryPlant → Trajectory × ReferenceState
  requestPermille : ReferenceState → ReferenceState → ℚ → TrajectoryPlant → ℕ
  projected : Trajectory → ℕ → ℚ → ℚ → ℚ → TrajectoryPlant → ReferenceState
  referenceBrakeC : HeatResponse → ThermalPlantProjection → ℚ → ℚ → ℚ → ℚ

structure ThermalPlantRuntimeInput where
  targetTempC : ℤ
  measuredTempC : ℚ
  measurementAccepted : Bool
  ambientTempC : ℚ
  heaterEnabled : Bool
  model : ThermalPlantProjection
  maxPowerMw : ℚ
  allowIntegral : Bool
  nowMs : ℕ

def ThermalPlantRuntimeInput.plant (input : ThermalPlantRuntimeInput) : TrajectoryPlant :=
  { model := input.model, ambientC := input.ambientTempC, maxPowerMw := input.maxPowerMw }

/-! ## Arithmetic of the control target -/

def percentFromPermille (permille : ℕ) : ℕ := min ((min permille 1000 + 5) / 10) 100

def controlCyclesFromProfileTicks (profileTicks : ℕ) : ℕ :=
  if profileTicks = 0 then 0
  else min ((profileTicks * heaterProfileTickMs + heaterControlIntervalMs - 1) /
    heaterControlIntervalMs) 65535

def scaledHoldKiForControlInterval (kiPerProfileTick : ℚ) : ℚ :=
  max kiPerProfileTick 0 * (heaterControlIntervalMs / heaterProfileTickMs)

def warmupHandoffErrorC (brakeDistanceC warmupReenterErrorC slope : ℚ) (approachLeadTicks : ℕ) :
    ℚ :=
  let predictiveDistanceC := max slope 0 * approachLeadTicks
  let reentryMarginC := max (warmupReenterErrorC - heaterHoldPhaseHysteresisC) 0
  min (max predictiveDistanceC brakeDistanceC) (brakeDistanceC + reentryMarginC)

def warmupHandoffReady (actualErrorC previousActualErrorC filteredErrorC brakeDistanceC
    handoffErrorC : ℚ) : Bool :=
  let actualStepConfirmed := previousActualErrorC - actualErrorC ≤ handoffErrorC + 1
  let previousHandoffConfirmed := previousActualErrorC ≤ handoffErrorC + 1
  let actualBrakeConfirmed := actualErrorC ≤ brakeDistanceC ∧
    previousActualErrorC ≤ brakeDistanceC + 0.5 ∧ filteredErrorC ≤ brakeDistanceC + 3 ∧
    actualStepConfirmed
  let predictiveActualConfirmed := actualErrorC ≤ brakeDistanceC + 1 ∧
    previousActualErrorC ≤ brakeDistanceC + 1 + 0.5
  let predictiveHandoffConfirmed := max actualErrorC filteredErrorC ≤ handoffErrorC ∧
    previousHandoffConfirmed ∧ actualStepConfirmed ∧ predictiveActualConfirmed
  actualBrakeConfirmed ∨ predictiveHandoffConfirmed

def holdEntryReady (errorC : ℚ) : Bool := -holdEntryAboveC ≤ errorC ∧ errorC ≤ holdEntryBelowC

def holdEffectiveBasePermille (holdGuardErrorC holdReheatSpanC : ℚ)
    (target : ThermalControlTarget) : ℚ :=
  let holdPowerPermille : ℚ := (min target.holdPowerPermille 1000 : ℕ)
  let holdReheatPermille : ℚ :=
    (min (max target.holdReheatPowerPermille target.holdPowerPermille) 1000 : ℕ)
  if holdGuardErrorC ≤ 0 ∨ holdReheatPermille ≤ holdPowerPermille then holdPowerPermille
  else
    let ratio := clampQ (holdGuardErrorC / max holdReheatSpanC 0.05) 0 1
    holdPowerPermille + (holdReheatPermille - holdPowerPermille) * ratio

def approachSustainFloorPermille (target : ThermalControlTarget) (errorC : ℚ) : ℕ :=
  let fullFloor := min (max target.approachFloorPowerPermille target.holdPowerPermille) 1000
  let tailFloor := min target.holdPowerPermille fullFloor
  let tailWindowC := max target.approachTailWindowC 0
  if tailWindowC ≤ epsilon ∨ fullFloor = tailFloor then fullFloor
  else
    let tailProgress := clampQ ((errorC - target.holdEntryErrorC) / tailWindowC) 0 1
    asU16 (tailFloor + (fullFloor - tailFloor) * tailProgress + 0.5)

/-! ## The controller -/

structure HeaterPidSnapshot where
  dutyPercent : ℕ
  warmupSoftStartPercent : ℕ
  errorC : ℚ
  controlErrorC : ℚ
  filteredTempC : ℚ
  filteredSlopeCPerS : ℚ
  coastActive : Bool
  phase : HeaterControlPhase

/-- `ThermalControlFrame`: what one update derives from its measurement. -/
structure ThermalControlFrame where
  controlTarget : ThermalControlTarget
  elapsedMs : ℕ
  approachMaxCycles : ℕ
  holdBlendCycles : ℕ
  holdKi : ℚ
  errorC : ℚ
  previousErrorC : ℚ
  filteredTempC : ℚ
  filteredSlope : ℚ
  controlErrorC : ℚ
  approachControlErrorC : ℚ
  holdControlErrorC : ℚ
  holdPredictionBlocksReheat : Bool
  holdFilterLagBlocksReheat : Bool
  holdActualOvershootBlocksReheat : Bool
  approachGuardErrorC : ℚ
  holdEntryGateC : ℚ
  holdStateReady : Bool
  actualCrossedTargetReady : Bool
  holdGuardErrorC : ℚ
  holdReheatSpanC : ℚ
  approachPredictiveCoastReady : Bool
  brakeDistanceC : ℚ
  warmupHandoffErrorC : ℚ
  naturalCoolingRateCPerS : Option ℚ
  naturalCoolingDelayS : ℚ
  naturalCoolingFeedforwardPercent : ℕ

variable {History Trajectory : Type}

structure HeaterController (History Trajectory : Type) where
  faultLatched : Option HeaterFaultReason := none
  lastTargetTempC : ℤ := 0
  filteredTempC : Option ℚ := none
  previousFilteredTempC : Option ℚ := none
  filteredSlopeCPerProfileTick : ℚ := 0
  previousMeasuredTempC : Option ℚ := none
  lastAcceptedMeasurementAtMs : Option ℕ := none
  phase : HeaterControlPhase := .warmup
  phaseTicks : ℕ := 0
  phaseTickRemainderMs : ℕ := 0
  profileLastControlAtMs : Option ℕ := none
  profileMeasurementElapsedMs : ℕ := 0
  ppsMeasurementAnchorPending : Bool := false
  dutyPercent : ℕ := 0
  holdEntryOutputPercent : ℕ := 0
  holdIntegralC : ℚ := 0
  holdCoastActive : Bool := false
  holdCoastCoolingSamples : ℕ := 0
  coastCoolingElapsedMs : ℕ := 0
  coastCoolingReferenceC : Option ℚ := none
  naturalCoolingInput : Option ThermalPlantRuntimeInput := none
  appliedHeat : History
  heatResponse : Option HeatResponse := none
  approachTrajectory : Option Trajectory := none
  approachLastRequestPermille : Option ℕ := none
  heaterWasEnabled : Bool := false
  warmupStartedAtMs : Option ℕ := none
  productionController : Option ProductionThermalController := none

namespace HeaterController

variable (forecast : HeatForecast History Trajectory)
  (controller : HeaterController History Trajectory)

/-- `HeaterController::new`. -/
def new : HeaterController History Trajectory := { appliedHeat := forecast.newHistory }

def clearApproachBraking : HeaterController History Trajectory :=
  { controller with approachTrajectory := none, approachLastRequestPermille := none }

/-- The state that a fault, its clearing, a disabled update and a new target set back. -/
def resetControl : HeaterController History Trajectory :=
  { controller.clearApproachBraking with
    appliedHeat := forecast.newHistory
    phase := .warmup
    phaseTicks := 0
    phaseTickRemainderMs := 0
    profileLastControlAtMs := none
    profileMeasurementElapsedMs := 0
    dutyPercent := 0
    holdEntryOutputPercent := 0
    holdIntegralC := 0
    holdCoastActive := false
    holdCoastCoolingSamples := 0 }

/-- The measurement filter without an origin, as a fault and its clearing leave it. -/
def forgetMeasurement : HeaterController History Trajectory :=
  { controller with
    filteredTempC := none
    previousFilteredTempC := none
    filteredSlopeCPerProfileTick := 0
    previousMeasuredTempC := none
    lastAcceptedMeasurementAtMs := none
    ppsMeasurementAnchorPending := false
    heaterWasEnabled := false
    warmupStartedAtMs := none }

def clearFaultLatch : HeaterController History Trajectory :=
  { (controller.resetControl forecast).forgetMeasurement with
    faultLatched := none
    productionController := none }

/-- `latch_fault`.  The flag says whether the fault is a new one. -/
def latchFault (reason : HeaterFaultReason) : HeaterController History Trajectory × Bool :=
  ({ (controller.resetControl forecast).forgetMeasurement with faultLatched := some reason },
    decide (controller.faultLatched ≠ some reason))

variable (measuredTempC : ℚ) (targetTempC : ℤ)

def reseedMeasurement : HeaterController History Trajectory :=
  { controller with
    filteredTempC := some measuredTempC
    previousFilteredTempC := some measuredTempC
    filteredSlopeCPerProfileTick := 0
    previousMeasuredTempC := some measuredTempC
    lastAcceptedMeasurementAtMs := none
    ppsMeasurementAnchorPending := false
    coastCoolingReferenceC := none
    coastCoolingElapsedMs := 0
    appliedHeat := forecast.resetTemperatureObservation controller.appliedHeat }

def modelApproachAvailable : Bool :=
  controller.naturalCoolingInput.any fun input =>
    0 < input.maxPowerMw ∧
      (naturalCoolingRateCPerS input.model input.measuredTempC input.ambientTempC).isSome

def controlMeasurementAccepted : Bool := controller.naturalCoolingInput.all (·.measurementAccepted)

def reseedMeasurementAfterPpsStep : HeaterController History Trajectory :=
  let modelApproach := controller.heaterWasEnabled && controller.faultLatched.isNone &&
    decide (controller.phase = .approach) && controller.modelApproachAvailable
  let risingSlope := if modelApproach then max controller.filteredSlopeCPerProfileTick 0 else 0
  { controller.reseedMeasurement forecast measuredTempC with
    lastAcceptedMeasurementAtMs := controller.lastAcceptedMeasurementAtMs
    appliedHeat := forecast.reanchorTemperature controller.appliedHeat
    filteredSlopeCPerProfileTick := risingSlope
    ppsMeasurementAnchorPending := true }

/-- `reset_disabled_output`. -/
def resetDisabledOutput (measuredTempC : ℚ) :
    HeaterController History Trajectory × HeaterPidSnapshot :=
  ({ (controller.resetControl forecast).reseedMeasurement forecast measuredTempC with
      heaterWasEnabled := false
      warmupStartedAtMs := none },
    { dutyPercent := 0
      warmupSoftStartPercent := 0
      errorC := targetTempC - measuredTempC
      controlErrorC := targetTempC - measuredTempC
      filteredTempC := measuredTempC
      filteredSlopeCPerS := 0
      coastActive := false
      phase := .warmup })

def resetForTargetChange (nowMs : ℕ) : HeaterController History Trajectory :=
  { (controller.resetControl forecast).reseedMeasurement forecast measuredTempC with
    warmupStartedAtMs := some nowMs }

/-! ### The measurement -/

/-- `advance_measurement_history`: the measurement before this one. -/
def previousMeasurement : ℚ :=
  if controller.ppsMeasurementAnchorPending && controller.controlMeasurementAccepted then
    measuredTempC
  else (controller.previousMeasuredTempC.or controller.filteredTempC).getD measuredTempC

/-- What `advance_measurement_history` leaves. -/
def advanceMeasurementHistory : HeaterController History Trajectory :=
  if controller.controlMeasurementAccepted then
    { controller with previousMeasuredTempC := some measuredTempC }
  else controller

def scaledFilterAlphaForElapsed (alpha : ℚ) (elapsedMs referenceMs : ℕ) : ℚ :=
  let alpha := clampQ alpha 0 1
  if alpha ≤ 0 then 0 else if 1 ≤ alpha then 1 else if elapsedMs = referenceMs then alpha
  else clampQ (1 - forecast.powf (1 - alpha) (elapsedMs / referenceMs)) 0 1

/-- `filter_profile_measurement`, with the `filter_alpha` of its only caller. -/
def filterProfileMeasurement (measuredTempC nominalAlpha : ℚ) (elapsedMs : ℕ) :
    HeaterController History Trajectory :=
  let filterAlpha := scaledFilterAlphaForElapsed forecast nominalAlpha elapsedMs
    heaterProfileTickMs
  let previous := controller.filteredTempC
  let filtered := (previous.map fun last => last + filterAlpha * (measuredTempC - last)).getD
    measuredTempC
  let instantaneousSlope :=
    (previous.map fun last =>
      (filtered - last) * ((heaterProfileTickMs : ℚ) / elapsedMs)).getD 0
  let nominalSlopeAlpha := forecast.sqrt
    (scaledFilterAlphaForElapsed forecast nominalAlpha heaterControlIntervalMs
      heaterProfileTickMs)
  let slopeAlpha := scaledFilterAlphaForElapsed forecast nominalSlopeAlpha elapsedMs
    heaterControlIntervalMs
  { controller with
    filteredSlopeCPerProfileTick := controller.filteredSlopeCPerProfileTick +
      slopeAlpha * (instantaneousSlope - controller.filteredSlopeCPerProfileTick)
    previousFilteredTempC := previous
    filteredTempC := some filtered }

/-- `measure_profile_temperature`.  The filtered temperature and the slope that it returns are
those of the state it leaves; a refused measurement leaves both. -/
def measureProfileTemperature (measuredTempC nominalAlpha : ℚ) (elapsedMs : ℕ) :
    HeaterController History Trajectory :=
  let controller := { controller with
    profileMeasurementElapsedMs :=
      saturatingAddU64 controller.profileMeasurementElapsedMs elapsedMs }
  if !controller.controlMeasurementAccepted then controller
  else if controller.ppsMeasurementAnchorPending then
    { controller with
      ppsMeasurementAnchorPending := false
      profileMeasurementElapsedMs := 0
      filteredTempC := some measuredTempC
      previousFilteredTempC := some measuredTempC }
  else
    { controller with profileMeasurementElapsedMs := 0 }.filterProfileMeasurement forecast
      measuredTempC nominalAlpha controller.profileMeasurementElapsedMs

def observeTemperatureTransfer (nowMs : ℕ) (measuredTempC : ℚ) :
    HeaterController History Trajectory :=
  if !controller.controlMeasurementAccepted || !controller.modelApproachAvailable then controller
  else
    let reanchored := if controller.ppsMeasurementAnchorPending then
      forecast.reanchorTemperature controller.appliedHeat else controller.appliedHeat
    match controller.naturalCoolingInput with
    | some input =>
        { controller with
          appliedHeat := forecast.observeTemperature reanchored nowMs measuredTempC input.plant }
    | none => { controller with appliedHeat := reanchored }

/-! ### The natural cooling -/

structure CoolingGuidance where
  rateCPerS : Option ℚ
  delayS : ℚ
  feedforwardPercent : ℕ
  brakeDistanceC : ℚ

variable (input : ThermalPlantRuntimeInput)

def fullResponseBrake (targetC : ℤ) (measuredC candidateBrakeC : ℚ) : Option ℚ := do
  let response ← controller.heatResponse
  let (_, peakC) ← forecast.predictResponse controller.appliedHeat input.nowMs
    (controller.lastAcceptedMeasurementAtMs.getD input.nowMs) measuredC
    (0.05 * input.maxPowerMw) response.horizonMs input.plant
  let reference := forecast.referenceBrakeC response input.model input.ambientTempC
    input.maxPowerMw targetC
  some (clampQ (peakC - measuredC + candidateBrakeC - reference) (holdEntryBelowC + 0.1) 50)

/-- The brake distance from the calibrated transport delay. -/
def delayedBrakeC (input : Option ThermalPlantRuntimeInput) (rate : Option ℚ)
    (targetTempC : ℤ) (measuredTempC : ℚ) (target : ThermalControlTarget)
    (slopeCPerS delayS : ℚ) : ℚ :=
  let futureRate := input.bind fun input =>
    naturalCoolingRateCPerS input.model (measuredTempC + max slopeCPerS 0 * delayS * 0.5)
      input.ambientTempC
  let delayedHeatRate := max (slopeCPerS - rate.getD 0) 0
  let modelBrake := max (delayedHeatRate + (futureRate.or rate).getD 0) 0 * delayS
  let correctedModelBrake :=
    match input.filter fun input => 0 < input.maxPowerMw with
    | none => modelBrake
    | some input =>
        let loss := naturalCoolingLossMw input.model targetTempC input.ambientTempC
        let fullPowerRise :=
          max ((input.maxPowerMw - loss) / input.model.thermalCapacityMjPerC) 0
        let referenceBrake :=
          clampQ (roundQ ((fullPowerRise * delayS + holdEntryBelowC) * 100)) 100 5000 / 100
        modelBrake + target.brakeDistanceC - referenceBrake
  max (max target.brakeDistanceC (holdEntryBelowC + 0.1))
    (min correctedModelBrake (target.brakeDistanceC + target.warmupReenterErrorC))

def naturalCoolingGuidance (measuredTempC : ℚ)
    (target : ThermalControlTarget) (slopeCPerS : ℚ) : CoolingGuidance :=
  let rate := controller.naturalCoolingInput.bind fun input =>
    naturalCoolingRateCPerS input.model measuredTempC input.ambientTempC
  let input := controller.naturalCoolingInput.filter fun _ => rate.isSome
  let delayS : ℚ := (input.map fun input => (input.model.transportDelayMs : ℚ) / 1000).getD 0
  let feedforwardPercent :=
    ((input.filter fun input => 0 < input.maxPowerMw).map fun input =>
      let loss := naturalCoolingLossMw input.model targetTempC input.ambientTempC
      percentFromPermille
        (asU16 (clampQ (loss / input.maxPowerMw * 1000) 0 target.holdPowerPermille))).getD 0
  let brakeDistanceC :=
    (input.bind fun input =>
      controller.fullResponseBrake forecast input targetTempC measuredTempC
        target.brakeDistanceC).getD
      (delayedBrakeC input rate targetTempC measuredTempC target slopeCPerS delayS)
  { rateCPerS := rate, delayS, feedforwardPercent, brakeDistanceC }

/-! ### The frame -/

def holdGuardError (errorC predictedErrorC : ℚ) (target : ThermalControlTarget) : ℚ :=
  if errorC < 0 then errorC
  else
    let lagAllowance := min (max target.holdOnErrorC 0.05) (max target.holdEntryErrorC 0.05)
    min (max predictedErrorC 0) (errorC + lagAllowance)

/-- `measure_control_frame`, for the state that `measureProfileTemperature` leaves. -/
def controlFrame (measuredTempC previousMeasuredTempC : ℚ)
    (target : ThermalControlTarget) (elapsedMs : ℕ) : ThermalControlFrame :=
  let filteredTempC := controller.filteredTempC.getD measuredTempC
  let slope := controller.filteredSlopeCPerProfileTick
  let errorC := targetTempC - measuredTempC
  let previousErrorC := targetTempC - previousMeasuredTempC
  let controlErrorC := targetTempC - filteredTempC
  let guidance := controller.naturalCoolingGuidance forecast targetTempC measuredTempC target
    slope
  let approachProjectedTempC :=
    filteredTempC + slope * max (target.approachLeadTicks : ℚ) guidance.delayS
  let holdProjectedTempC := filteredTempC + slope * target.holdLeadTicks
  let approachControlErrorC := targetTempC - approachProjectedTempC
  let holdControlErrorC := targetTempC - holdProjectedTempC
  let holdPredictionGuardC := max target.holdOnErrorC 0.05 * 2
  let holdEntryGateC := max target.holdEntryErrorC 0.05
  { controlTarget := target
    elapsedMs
    approachMaxCycles :=
      max (controlCyclesFromProfileTicks target.settings.approachMaxTicks.toNat) 1
    holdBlendCycles := max (controlCyclesFromProfileTicks target.holdBlendTicks) 1
    holdKi := scaledHoldKiForControlInterval target.holdKiPermillePerCTick
    errorC
    previousErrorC
    filteredTempC
    filteredSlope := slope
    controlErrorC
    approachControlErrorC
    holdControlErrorC
    holdPredictionBlocksReheat :=
      0 < errorC ∧ errorC ≤ holdPredictionGuardC ∧ 0 < slope ∧ holdControlErrorC ≤ 0
    holdFilterLagBlocksReheat := errorC ≤ 0 ∧ 0 < controlErrorC ∧ 0 < slope
    holdActualOvershootBlocksReheat :=
      errorC ≤ 0 ∧ controlErrorC ≤ 0 ∧ 0.05 ≤ controlErrorC - errorC ∧ 0 < slope
    approachGuardErrorC := min approachControlErrorC errorC
    holdEntryGateC
    holdStateReady := controlErrorC ≤ target.holdExitErrorC
    actualCrossedTargetReady := errorC ≤ 0 ∧ previousErrorC ≤ 0 ∧ approachControlErrorC ≤ 0
    holdGuardErrorC := holdGuardError errorC holdControlErrorC target
    holdReheatSpanC := max (max target.holdExitErrorC target.holdOnErrorC)
      (holdEntryGateC + heaterHoldPhaseHysteresisC)
    approachPredictiveCoastReady := approachControlErrorC ≤ 0 ∧
      errorC ≤ target.holdExitErrorC ∧ controlErrorC ≤ target.holdExitErrorC
    brakeDistanceC := guidance.brakeDistanceC
    warmupHandoffErrorC :=
      if controller.heatResponse.isSome then guidance.brakeDistanceC
      else Thermal.warmupHandoffErrorC guidance.brakeDistanceC target.warmupReenterErrorC slope
        target.approachLeadTicks
    naturalCoolingRateCPerS := guidance.rateCPerS
    naturalCoolingDelayS := guidance.delayS
    naturalCoolingFeedforwardPercent := guidance.feedforwardPercent }

/-! ### The phase -/

variable (frame : ThermalControlFrame)

/-- The `reenter_warmup` of `advance_phase`. -/
def reentersWarmup : Bool :=
  !controller.modelApproachAvailable &&
    decide (frame.brakeDistanceC + frame.controlTarget.warmupReenterErrorC ≤ frame.errorC)

/-- The phase that `advance_phase` goes to.  A constant target never leaves hold. -/
def nextPhase : HeaterControlPhase :=
  match controller.phase with
  | .warmup =>
      if warmupHandoffReady frame.errorC frame.previousErrorC frame.controlErrorC
          frame.brakeDistanceC frame.warmupHandoffErrorC then .approach
      else .warmup
  | .approach =>
      let timeoutHoldReady :=
        decide (frame.approachMaxCycles ≤ controller.phaseTicks) && frame.holdStateReady
      let approachHoldReady := decide (frame.approachControlErrorC ≤ holdEntryBelowC ∧
        frame.previousErrorC ≤ holdEntryBelowC + 0.5)
      if controller.reentersWarmup frame then .warmup
      else if holdEntryReady frame.errorC &&
          (approachHoldReady || frame.actualCrossedTargetReady || timeoutHoldReady) then .hold
      else .approach
  | .hold => .hold

def advancePhase (nowMs : ℕ) : HeaterController History Trajectory :=
  let next := controller.nextPhase frame
  if next ≠ controller.phase then
    { controller with
      phase := next
      phaseTicks := 0
      phaseTickRemainderMs := 0
      warmupStartedAtMs := if next = .warmup then some nowMs else controller.warmupStartedAtMs }
  else
    let phaseElapsedMs := saturatingAddU64 controller.phaseTickRemainderMs frame.elapsedMs
    { controller with
      phaseTickRemainderMs := phaseElapsedMs % heaterControlIntervalMs
      phaseTicks := min 65535
        (controller.phaseTicks + min (phaseElapsedMs / heaterControlIntervalMs) 65535) }

/-- `update_hold_transition`, after a change of the phase. -/
def updateHoldTransition (measuredTempC : ℚ) : HeaterController History Trajectory :=
  if controller.phase ≠ .hold then
    { controller with
      holdCoastActive := false
      holdCoastCoolingSamples := 0
      holdEntryOutputPercent := 0
      holdIntegralC := 0 }
  else
    let target := frame.controlTarget
    let coastGuardC := max target.holdExitErrorC (max target.holdOnErrorC 0.05 * 2)
    let zeroOutputReady := controller.dutyPercent = 0 ∧
      frame.errorC ≤ max target.holdOnErrorC 0.05 * 2
    let projectionReady := 0 < controller.dutyPercent ∧ frame.errorC ≤ coastGuardC ∧
      (frame.approachControlErrorC ≤ 0 ∨ frame.holdControlErrorC ≤ 0)
    let guardErrorC := if 0 < frame.errorC then frame.holdGuardErrorC else frame.errorC
    let basePermille := holdEffectiveBasePermille guardErrorC frame.holdReheatSpanC target
    let integralLimit :=
      if 0 < frame.holdKi then clampQ ((1000 - basePermille) / frame.holdKi) 0 255 else 0
    let previousOutputPermille : ℚ := (min controller.dutyPercent 100 : ℕ) * 10
    let baseOutput := basePermille + target.holdKpPermillePerC * guardErrorC
    let actualRatio :=
      if 0 < frame.errorC then clampQ (frame.errorC / frame.holdEntryGateC) 0 1 else 0
    let projectedRatio :=
      if 0 < frame.approachGuardErrorC then
        clampQ (frame.approachGuardErrorC / frame.holdEntryGateC) 0 1
      else 0
    let carryPermille := max (previousOutputPermille - baseOutput) 0
    let preload := carryPermille * min actualRatio projectedRatio
    { controller with
      holdCoastActive := decide (0 < frame.filteredSlope) &&
        (frame.actualCrossedTargetReady ||
          decide (frame.errorC ≤ 0 ∨ frame.controlErrorC ≤ 0 ∨ zeroOutputReady ∨ projectionReady))
      holdCoastCoolingSamples := 0
      coastCoolingReferenceC := none
      coastCoolingElapsedMs := 0
      filteredTempC :=
        if frame.actualCrossedTargetReady then some measuredTempC else controller.filteredTempC
      previousFilteredTempC :=
        if frame.actualCrossedTargetReady then some measuredTempC
        else controller.previousFilteredTempC
      holdEntryOutputPercent := percentFromPermille (asU16 (clampQ (baseOutput + preload) 0 1000))
      holdIntegralC :=
        if 0 < frame.holdKi then clampQ (preload / frame.holdKi) 0 integralLimit else 0 }

/-- The samples that cool down enough to end the coast. -/
def coolingSample (measuredTempC previousMeasuredTempC reference : ℚ)
    (coolingElapsedMs : ℕ) : Bool :=
  let onErrorC := max frame.controlTarget.holdOnErrorC 0.05
  let rawCooling := measuredTempC + 0.05 < reference ∧ measuredTempC ≤ previousMeasuredTempC
  let modelPredictsLow := frame.naturalCoolingRateCPerS.any fun rate =>
    onErrorC ≤ frame.errorC - rate * frame.naturalCoolingDelayS
  decide (rawCooling ∧ 100 ≤ coolingElapsedMs) &&
    (decide (onErrorC ≤ frame.errorC ∧ onErrorC ≤ frame.controlErrorC) || modelPredictsLow)

def updateCoastState (measuredTempC previousMeasuredTempC : ℚ) :
    HeaterController History Trajectory :=
  if !controller.holdCoastActive then
    { controller with
      holdCoastCoolingSamples := 0
      coastCoolingReferenceC := none
      coastCoolingElapsedMs := 0 }
  else if !controller.controlMeasurementAccepted then controller
  else
    let rises := previousMeasuredTempC + 0.05 < measuredTempC
    let reference :=
      (if rises then none else controller.coastCoolingReferenceC).getD previousMeasuredTempC
    let elapsedMs := saturatingAddU64 (if rises then 0 else controller.coastCoolingElapsedMs)
      frame.elapsedMs
    let samples :=
      if coolingSample frame measuredTempC previousMeasuredTempC reference elapsedMs then
        min (controller.holdCoastCoolingSamples + 1) 255
      else 0
    if frame.filteredSlope ≤ -0.02 ∧ 2 ≤ samples then
      { controller with
        holdCoastActive := false
        holdCoastCoolingSamples := 0
        phaseTicks := 0
        phaseTickRemainderMs := 0
        holdEntryOutputPercent := frame.naturalCoolingFeedforwardPercent
        coastCoolingReferenceC := none
        coastCoolingElapsedMs := 0 }
    else
      { controller with
        coastCoolingReferenceC := some reference
        coastCoolingElapsedMs := elapsedMs
        holdCoastCoolingSamples := samples }

/-! ### The duty -/

def fullResponseApproachRequest (horizonS damping : ℚ) : Option ℕ := do
  let response ← controller.heatResponse
  let trajectory ← controller.approachTrajectory
  let future := forecast.projected trajectory (4 * response.decayMs) input.targetTempC horizonS
    damping input.plant
  forecast.trackingRequestPermille controller.appliedHeat input.nowMs
    (controller.lastAcceptedMeasurementAtMs.getD input.nowMs) input.measuredTempC
    { temperatureC := future.temperatureC
      minimumPermille := 50
      aheadMs := response.horizonMs
      commandMs := response.horizonMs } input.plant

/-- The response that a modelled approach plans ahead for. -/
def approachHorizonS : ℚ :=
  max (max (max frame.naturalCoolingDelayS frame.controlTarget.approachLeadTicks)
    ((controller.heatResponse.map fun response => (response.decayMs : ℚ) / 1000).getD 0)) 0.4

/-- `calculate_trajectory_approach_duty`.  A trajectory that cannot answer leaves the duty to
the profile, with the trajectory already advanced. -/
def calculateTrajectoryApproachDuty (enteredApproach : Bool) :
    HeaterController History Trajectory × Option ℕ :=
  match controller.naturalCoolingInput with
  | none => (controller, none)
  | some input =>
      if !controller.modelApproachAvailable then (controller, none)
      else
        let predicted := forecast.forecastFromMeasurement controller.appliedHeat input.nowMs
          (controller.lastAcceptedMeasurementAtMs.getD input.nowMs) input.measuredTempC
          frame.filteredSlope input.plant
        let controller :=
          if enteredApproach || controller.approachTrajectory.isNone then
            { controller with
              approachTrajectory := some (forecast.newTrajectory input.nowMs predicted.temperatureC)
              approachLastRequestPermille := some approachMinPermille }
          else controller
        if enteredApproach then (controller, some (percentFromPermille approachMinPermille))
        else
          let horizonS := controller.approachHorizonS frame
          let damping := frame.controlTarget.approachDampingExponent
          match controller.approachTrajectory with
          | none => (controller, none)
          | some trajectory =>
              let advanced := forecast.advance trajectory input.nowMs input.targetTempC horizonS
                damping input.plant
              let controller := { controller with approachTrajectory := some advanced.1 }
              let requested :=
                if controller.heatResponse.isSome then
                  controller.fullResponseApproachRequest forecast input horizonS damping
                else some (forecast.requestPermille advanced.2 predicted horizonS input.plant)
              match requested with
              | none => (controller, none)
              | some requestedPermille =>
                  let previousPermille :=
                    controller.approachLastRequestPermille.getD approachMinPermille
                  let appliedPermille :=
                    if controller.controlMeasurementAccepted then requestedPermille
                    else min requestedPermille previousPermille
                  ({ controller with approachLastRequestPermille := some appliedPermille },
                    some (percentFromPermille appliedPermille))

/-- The duty of the profile's braking curve. -/
def profileApproachDuty : ℕ :=
  let target := frame.controlTarget
  let span := max (frame.brakeDistanceC - target.holdEntryErrorC) 0.1
  let ratio := clampQ ((frame.approachGuardErrorC - target.holdEntryErrorC) / span) 0 1
  let shapedRatio := forecast.powf ratio target.approachDampingExponent
  let sustainFloor : ℚ := (max (approachSustainFloorPermille target frame.errorC) 100 : ℕ)
  let approachCeiling := max ((min target.approachPowerPermille 1000 : ℕ) : ℚ) sustainFloor
  percentFromPermille
    (asU16 (clampQ (sustainFloor + (approachCeiling - sustainFloor) * shapedRatio) 0 1000))

def calculateApproachDuty (enteredApproach : Bool) : HeaterController History Trajectory × ℕ :=
  let tracked := controller.calculateTrajectoryApproachDuty forecast frame enteredApproach
  (tracked.1, tracked.2.getD (profileApproachDuty forecast frame))

/-- `full_response_hold_requests`, each as a percentage. -/
def fullResponseHoldRequests : Option (ℕ × ℕ) := do
  let input ← controller.naturalCoolingInput
  let response ← controller.heatResponse.filter fun _ => controller.modelApproachAvailable
  let (request, ceiling) ← forecast.trackingRequestBounds controller.appliedHeat input.nowMs
    (controller.lastAcceptedMeasurementAtMs.getD input.nowMs) input.measuredTempC
    { temperatureC := input.targetTempC
      minimumPermille := 0
      aheadMs := response.horizonMs
      commandMs := response.decayMs } input.plant 0.5
  some (request / 10 % 256, ceiling / 10 % 256)

/-- `hold_requested_permille`.  The flag says that the integral is given up. -/
def holdRequestedPermille (basePermille holdIntegralC : ℚ) : ℚ × Bool :=
  let target := frame.controlTarget
  let requested := basePermille + target.holdKpPermillePerC * frame.holdGuardErrorC +
    frame.holdKi * holdIntegralC
  if frame.holdGuardErrorC ≤ -target.holdOffErrorC then
    let taperSpan := max (target.overshootCutoffC - target.holdOffErrorC) 0.05
    let overshootC := max (-frame.holdGuardErrorC) target.holdOffErrorC
    let taperRatio := clampQ ((target.overshootCutoffC - overshootC) / taperSpan) 0 1
    (clampQ requested 0 1000 * taperRatio, true)
  else (requested, false)

def calculateHoldDuty (modelRequest : Option ℕ) : HeaterController History Trajectory × ℕ :=
  if !controller.modelApproachAvailable && (frame.holdPredictionBlocksReheat ||
      frame.holdFilterLagBlocksReheat || frame.holdActualOvershootBlocksReheat) then
    ({ controller with holdIntegralC := 0 }, 0)
  else
    let target := frame.controlTarget
    let basePermille := (modelRequest.map fun request => (request : ℚ) * 10).getD
      (holdEffectiveBasePermille frame.holdGuardErrorC frame.holdReheatSpanC target)
    let integralLimit :=
      if 0 < frame.holdKi then clampQ ((1000 - basePermille) / frame.holdKi) 0 255 else 0
    let mayIntegrate := controller.naturalCoolingInput.all fun input =>
      input.allowIntegral || decide (frame.holdGuardErrorC ≤ 0)
    let holdIntegralC :=
      if decide (0 < frame.holdKi) && controller.controlMeasurementAccepted && mayIntegrate then
        let elapsedCycles := (frame.elapsedMs : ℚ) / heaterControlIntervalMs
        clampQ (controller.holdIntegralC + frame.holdGuardErrorC * elapsedCycles) 0
          integralLimit
      else if frame.holdKi ≤ 0 then 0
      else controller.holdIntegralC
    let requested := holdRequestedPermille frame basePermille holdIntegralC
    let piPercent := percentFromPermille (asU16 (clampQ requested.1 0 1000))
    let controller :=
      { controller with holdIntegralC := if requested.2 then 0 else holdIntegralC }
    if (0 < frame.holdGuardErrorC ∨ frame.naturalCoolingRateCPerS.isSome) ∧
        controller.phaseTicks < frame.holdBlendCycles then
      let blendRatio : ℚ := (min (controller.phaseTicks + 1) 65535 : ℕ) /
        (max frame.holdBlendCycles 1 : ℕ)
      let entry : ℚ := controller.holdEntryOutputPercent
      (controller, asU8 (clampQ (entry + (piPercent - entry) * blendRatio) 0 100 + 0.5))
    else (controller, piPercent)

def calculateDutyPercent (enteredApproach : Bool)
    (holdModelRequest : Option ℕ) : HeaterController History Trajectory × ℕ :=
  if controller.holdCoastActive ∨
      frame.holdGuardErrorC ≤ -frame.controlTarget.overshootCutoffC then
    ({ controller with holdIntegralC := 0 }, 0)
  else
    match controller.phase with
    | .warmup => (controller, percentFromPermille frame.controlTarget.warmupPowerPermille)
    | .approach => controller.calculateApproachDuty forecast frame enteredApproach
    | .hold => controller.calculateHoldDuty frame holdModelRequest

/-- `apply_under_target_reheat_floor`. -/
def applyUnderTargetReheatFloor (dutyPercent : ℕ) (errorC holdControlErrorC : ℚ)
    (target : ThermalControlTarget) : ℕ :=
  if dutyPercent ≠ 0 ∨ errorC ≤ 0 then dutyPercent
  else
    match controller.phase with
    | .warmup => dutyPercent
    | .approach =>
        percentFromPermille (min (max (approachSustainFloorPermille target errorC) 100) 1000)
    | .hold =>
        if holdControlErrorC ≤ 0 then dutyPercent
        else percentFromPermille
          (min (max target.holdReheatPowerPermille target.holdPowerPermille) 1000)

/-- The share of the full power that the plant still takes up before the target. -/
def arrivalLimitPercent (frame : ThermalControlFrame) : ℕ :=
  let predicted := forecast.forecastFromMeasurement controller.appliedHeat input.nowMs
    (controller.lastAcceptedMeasurementAtMs.getD input.nowMs) input.measuredTempC
    frame.filteredSlope input.plant
  let horizonS :=
    max (max frame.naturalCoolingDelayS frame.controlTarget.holdLeadTicks) 0.4
  let arrivalPowerMw := clampQ
    (input.plant.lossMw predicted.temperatureC + input.model.thermalCapacityMjPerC *
      (input.targetTempC - predicted.temperatureC) / horizonS) 0 input.maxPowerMw
  asU8 (arrivalPowerMw / input.maxPowerMw * 100)

def limitHoldArrivalPower (dutyPercent : ℕ)
    (modelCeiling : Option ℕ) : HeaterController History Trajectory × ℕ :=
  match controller.naturalCoolingInput.filter fun _ => controller.modelApproachAvailable with
  | none => (controller, dutyPercent)
  | some input =>
      let limit :=
        if controller.heatResponse.isSome then modelCeiling.getD 0
        else controller.arrivalLimitPercent forecast input frame
      (if limit < dutyPercent then { controller with holdIntegralC := 0 } else controller,
        min dutyPercent limit)

/-! ### The update -/

def controlSnapshot (nowMs : ℕ) : HeaterPidSnapshot :=
  { dutyPercent := controller.dutyPercent
    warmupSoftStartPercent :=
      if controller.phase = .warmup then
        (controller.warmupStartedAtMs.map fun startedAtMs =>
          min (min ((nowMs - startedAtMs) * 100) (2 ^ 64 - 1) / heaterWarmupSoftStartMs)
            100).getD 100
      else 100
    errorC := frame.errorC
    controlErrorC := frame.controlErrorC
    filteredTempC := frame.filteredTempC
    filteredSlopeCPerS := frame.filteredSlope
    coastActive := controller.holdCoastActive
    phase := controller.phase }

/-- The elapsed time of `profile_control_elapsed_ms`. -/
def profileControlElapsedMs (nowMs : ℕ) : ℕ :=
  match controller.profileLastControlAtMs with
  | some previous => if previous < nowMs then nowMs - previous else heaterControlIntervalMs
  | none => heaterControlIntervalMs

/-- A new target starts over. -/
def retarget (targetTempC lastTargetTempC : ℤ) (measuredTempC : ℚ) (nowMs : ℕ) :
    HeaterController History Trajectory :=
  if targetTempC ≠ lastTargetTempC then
    controller.resetForTargetChange forecast measuredTempC nowMs
  else controller

/-- The state of an enabled update before its phase advances: the measurement is timed, observed
and filtered. -/
def admitted (target : ThermalControlTarget) (elapsedMs nowMs : ℕ) :
    HeaterController History Trajectory :=
  let timed := if controller.controlMeasurementAccepted then
    { controller with lastAcceptedMeasurementAtMs := some nowMs } else controller
  let started := if timed.heaterWasEnabled then timed
    else { timed with warmupStartedAtMs := some nowMs }
  let enabled := { started with
    heaterWasEnabled := true
    profileLastControlAtMs := some nowMs
    appliedHeat := forecast.configureResponse started.appliedHeat started.heatResponse }
  (enabled.observeTemperatureTransfer forecast nowMs measuredTempC).measureProfileTemperature
    forecast measuredTempC target.settings.tempFilterAlpha elapsedMs

/-- The phase of an enabled update, with what a change of the phase resets. -/
def movePhase (measuredTempC : ℚ) (nowMs : ℕ) : HeaterController History Trajectory :=
  let advanced := controller.advancePhase frame nowMs
  let cleared := if advanced.phase ≠ .approach then advanced.clearApproachBraking else advanced
  if controller.phase ≠ cleared.phase then cleared.updateHoldTransition frame measuredTempC
  else cleared

/-- The phase and the coast of an enabled update. -/
def settlePhase (measuredTempC previousMeasuredTempC : ℚ)
    (nowMs : ℕ) : HeaterController History Trajectory :=
  let moved := controller.movePhase frame measuredTempC nowMs
  -- the final limit of the energy owns a modelled hold
  let modelled := if decide (moved.phase = .hold) && moved.modelApproachAvailable then
    { moved with holdCoastActive := false } else moved
  modelled.updateCoastState frame measuredTempC previousMeasuredTempC

/-- The calculated duty, or the floor that replaces a zero below the target. -/
def flooredDuty (dutyPercent : ℕ) : ℕ :=
  let predictiveCoastActive := controller.holdCoastActive ||
    (decide (controller.phase = .approach) && frame.approachPredictiveCoastReady)
  let modelApproachActive :=
    decide (controller.phase = .approach) && controller.modelApproachAvailable
  if predictiveCoastActive || modelApproachActive then dutyPercent
  else controller.applyUnderTargetReheatFloor dutyPercent frame.errorC frame.holdControlErrorC
    frame.controlTarget

/-- An old low reading cannot justify adding more heat, unless the controller warms up. -/
def heldDuty (dutyPercent : ℕ) : ℕ :=
  if decide (controller.phase ≠ .warmup) && !controller.controlMeasurementAccepted then
    min dutyPercent controller.dutyPercent
  else dutyPercent

/-- The duty of an enabled update whose phase is settled. -/
def requestDuty (enteredApproach : Bool) : HeaterController History Trajectory × ℕ :=
  let requests :=
    if controller.phase = .hold then controller.fullResponseHoldRequests forecast else none
  let calculated :=
    controller.calculateDutyPercent forecast frame enteredApproach (requests.map (·.1))
  let dutyPercent := calculated.1.flooredDuty frame calculated.2
  let limited :=
    if calculated.1.phase = .hold then
      calculated.1.limitHoldArrivalPower forecast frame dutyPercent (requests.map (·.2))
    else (calculated.1, dutyPercent)
  (limited.1, limited.1.heldDuty limited.2)

/-- `update_at` from the frame on. -/
def drive (measuredTempC previousMeasuredTempC : ℚ) (nowMs : ℕ) :
    HeaterController History Trajectory × HeaterPidSnapshot :=
  let settled := controller.settlePhase frame measuredTempC previousMeasuredTempC nowMs
  let enteredApproach :=
    decide (controller.phase = .warmup) && decide (settled.phase = .approach)
  let requested := settled.requestDuty forecast frame enteredApproach
  let driven := { requested.1 with dutyPercent := requested.2 }
  (driven, driven.controlSnapshot frame nowMs)

/-- `update_at` from where heating is admitted. -/
def heat (targetTempC lastTargetTempC : ℤ) (measuredTempC previousMeasuredTempC : ℚ)
    (profile : Option ThermalControlProfile) (nowMs : ℕ) :
    HeaterController History Trajectory × HeaterPidSnapshot :=
  let target := controlTargetFor profile targetTempC
  let controller := controller.retarget forecast targetTempC lastTargetTempC measuredTempC nowMs
  let elapsedMs := controller.profileControlElapsedMs nowMs
  let before := controller.admitted forecast measuredTempC target elapsedMs nowMs
  let frame := before.controlFrame forecast targetTempC measuredTempC previousMeasuredTempC
    target elapsedMs
  before.drive forecast frame measuredTempC previousMeasuredTempC nowMs

/-- `update_at`. -/
def updateAt (measuredTempC : ℚ) (heaterEnabled : Bool)
    (profile : Option ThermalControlProfile) (nowMs : ℕ) :
    HeaterController History Trajectory × HeaterPidSnapshot :=
  let targetTempC := clampTarget targetTempC
  let lastTargetTempC := controller.lastTargetTempC
  let previousMeasuredTempC := controller.previousMeasurement measuredTempC
  let controller :=
    { controller with lastTargetTempC := targetTempC }.advanceMeasurementHistory measuredTempC
  let controller :=
    if heaterHardCutoffTempC ≤ measuredTempC then (controller.latchFault forecast .overTemp).1
    else controller
  if !heaterEnabled || controller.faultLatched.isSome then
    controller.resetDisabledOutput forecast targetTempC measuredTempC
  else
    controller.heat forecast targetTempC lastTargetTempC measuredTempC previousMeasuredTempC
      profile nowMs

/-! ### The production update -/

variable (kind : ProductionThermalController)

/-- A kind other than the one before, with the heater asked for, disarms the heater.  The first
kind does not. -/
def disarmsForSourceChange (input : ThermalPlantRuntimeInput) : Bool :=
  controller.productionController.isSome &&
    decide (controller.productionController ≠ some kind) && input.heaterEnabled

/-- The state in which `update_production_at` updates. -/
def prepareProduction (input : ThermalPlantRuntimeInput) : HeaterController History Trajectory :=
  let controller :=
    if controller.productionController ≠ some kind then
      { (controller.resetDisabledOutput forecast input.targetTempC input.measuredTempC).1 with
        productionController := some kind }
    else controller
  let delayMs := max input.model.transportDelayMs
    ((controller.heatResponse.map (·.delayMs)).getD 0)
  { controller with
    naturalCoolingInput := if kind.isProfile then some input else none
    appliedHeat := forecast.configureResponse (forecast.configure controller.appliedHeat delayMs)
      controller.heatResponse }

/-- `update_production_at`.  The flag says that the heater is disarmed. -/
def updateProductionAt (input : ThermalPlantRuntimeInput) (profile : Option ThermalControlProfile) :
    HeaterController History Trajectory × HeaterPidSnapshot × Bool :=
  let disarms := controller.disarmsForSourceChange kind input
  let updated := (controller.prepareProduction forecast kind input).updateAt forecast
    input.targetTempC input.measuredTempC (input.heaterEnabled && !disarms && kind.isProfile)
    profile input.nowMs
  (updated.1, updated.2, disarms)

end HeaterController

end FluxPurr.Thermal
