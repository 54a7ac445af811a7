import FluxPurr.Thermal.QualificationPause
import FluxPurr.Thermal.Tuning.TimingEvidence

/-!
# The samples of a tuning trial

A trial of the tuning runs from its warm-up until it is decided.  `recordLiveSample` takes the
samples of the controller, leaves out those that come too often, and keeps what the decision needs:
the end of the warm-up, the stable window, the extremes, and the evidence for its deadline.

Of a trial only what bears upon its deadline is kept.  A sample that does not pass the checks of
the runtime ends the tuning, so there is none here.
-/

namespace FluxPurr.Thermal.Tuning

inductive ThermalTuningTrialPurpose where
  | scout
  | batchCurrent
  | batchPredicted
  | holdConfirm
deriving DecidableEq, Repr

structure ThermalTuningSample where
  elapsedMs : ℕ
  temperatureCentiC : Int16
  rawTemperatureCentiC : Option Int16
  requestedMv : ℕ
  confirmedContractMv : Option ℕ
  heaterRequestedOutputPermille : UInt16
  heaterOutputPermille : UInt16
  measurementValid : Bool
  measurementAccepted : Option Bool
  phase : ThermalTuningPhase

/-- The trial, with the evidence for the point that it tries. -/
structure ThermalTuningTrial where
  targetC : Int16
  purpose : ThermalTuningTrialPurpose
  targetStartedElapsedMs : ℕ
  timing : ThermalTuningTimingEvidence
  phase : ThermalTuningPhase := .warmup
  currentElapsedMs : ℕ := 0
  trialStartElapsedMs : Option ℕ := none
  lastLiveSampleElapsedMs : Option ℕ := none
  qualificationContinuity : QualificationContinuity := .new
  warmupFullOutput : Bool := false
  warmupFullOutputInvalid : Bool := false
  warmupPhysicalTransientStartedAtMs : Option ℕ := none
  sawHold : Bool := false
  firstHoldElapsedMs : Option ℕ := none
  warmupExitedAtMs : Option ℕ := none
  stableWindowStartedAtMs : Option ℕ := none
  stableWindowVerifiedAtMs : Option ℕ := none
  stableWindowSampleCount : UInt32 := 0
  stableWindowLastSampleMs : Option ℕ := none
  maxTemperatureCentiC : Option Int16 := none
  minHoldTemperatureCentiC : Option Int16 := none
  maxHoldTemperatureCentiC : Option Int16 := none
  previousSampleAtMs : Option ℕ := none
  /-- The trial is decided, or it has failed. -/
  finished : Bool := false

abbrev trialTimeoutMs : ℕ := 180000
abbrev targetBudgetMs : ℕ := 20 * 60 * 1000
abbrev holdConfirmMs : ℕ := 60000
abbrev scoutHoldMs : ℕ := 12000
abbrev liveSampleIntervalMs : ℕ := 200
abbrev stableWindowMs : ℕ := 10000
abbrev stableBandCentiC : ℕ := 150

def ThermalTuningSample.hasFreshMeasurement (sample : ThermalTuningSample) : Bool :=
  sample.measurementValid && sample.measurementAccepted.getD true

def ThermalTuningSample.observation (sample : ThermalTuningSample) (targetC : Int16) :
    QualificationObservation where
  elapsedMs := sample.elapsedMs
  requestedMv := some sample.requestedMv
  confirmedContractMv := sample.confirmedContractMv
  valid := sample.measurementValid
  accepted := sample.hasFreshMeasurement
  temperatureCentiC := sample.temperatureCentiC.toInt
  rawTemperatureCentiC := sample.rawTemperatureCentiC.map (·.toInt)
  targetC := targetC.toInt

/-- `hold_entry_ready`, whose bounds of 0.5 °C and 3 °C are exact. -/
def holdEntryReady (errorCentiC : ℤ) : Bool := -300 ≤ errorCentiC && errorCentiC ≤ 50

namespace ThermalTuningTrial

variable (trial : ThermalTuningTrial) (sample : ThermalTuningSample)

def errorCentiC : ℤ := trial.targetC.toInt * 100 - sample.temperatureCentiC.toInt

/-! ## What a sample tells -/

def interruptMeasurementQualification : ThermalTuningTrial :=
  let stableWindowStartedAtMs :=
    if trial.stableWindowVerifiedAtMs.isNone then none else trial.stableWindowStartedAtMs
  { trial with
    firstHoldElapsedMs := none
    stableWindowStartedAtMs := stableWindowStartedAtMs
    stableWindowSampleCount :=
      if trial.stableWindowVerifiedAtMs.isNone then 0 else trial.stableWindowSampleCount
    stableWindowLastSampleMs := none
    previousSampleAtMs := none
    timing :=
      { trial.timing with
        warmupExitedAtMs := trial.warmupExitedAtMs
        stableWindowStartedAtMs := stableWindowStartedAtMs } }

def updateWarmupOutputEvidence : ThermalTuningTrial :=
  let logicalFull := 995 ≤ sample.heaterRequestedOutputPermille
  let physicalFull := 990 ≤ sample.heaterOutputPermille
  if sample.phase ≠ .warmup then trial
  else if trial.warmupFullOutput = false then
    { trial with warmupFullOutput := logicalFull && physicalFull }
  else if ¬ logicalFull ∨ sample.heaterOutputPermille < 950 then
    { trial with warmupFullOutputInvalid := true }
  else if physicalFull then { trial with warmupPhysicalTransientStartedAtMs := none }
  else
    let started := trial.warmupPhysicalTransientStartedAtMs.getD sample.elapsedMs
    { trial with
      warmupPhysicalTransientStartedAtMs := some started
      warmupFullOutputInvalid :=
        trial.warmupFullOutputInvalid || decide (2000 < sample.elapsedMs - started) }

def recordTrialPhase : ThermalTuningTrial :=
  let trial :=
    if sample.phase ≠ .hold then { trial with firstHoldElapsedMs := none } else trial
  match sample.phase with
  | .approach =>
      { trial with warmupExitedAtMs := trial.warmupExitedAtMs.or (some sample.elapsedMs) }
  | .hold =>
      { trial with
        sawHold := true
        warmupExitedAtMs := trial.warmupExitedAtMs.or (some sample.elapsedMs)
        firstHoldElapsedMs :=
          if sample.hasFreshMeasurement && holdEntryReady (trial.errorCentiC sample) then
            trial.firstHoldElapsedMs.or (some sample.elapsedMs)
          else trial.firstHoldElapsedMs }
  | _ => trial

def holdExtremes : ThermalTuningTrial :=
  if trial.firstHoldElapsedMs.isSome ∨ trial.minHoldTemperatureCentiC.isSome then
    { trial with
      minHoldTemperatureCentiC :=
        some (min (trial.minHoldTemperatureCentiC.getD sample.temperatureCentiC)
          sample.temperatureCentiC)
      maxHoldTemperatureCentiC :=
        some (max (trial.maxHoldTemperatureCentiC.getD sample.temperatureCentiC)
          sample.temperatureCentiC) }
  else trial

/-- A window ends after a second without a sample, unless it is verified. -/
def startStableWindow : ThermalTuningTrial :=
  let gap := trial.stableWindowLastSampleMs.any fun last => 1000 < sample.elapsedMs - last
  let outside := stableBandCentiC < (trial.errorCentiC sample).natAbs
  let trial := { trial with stableWindowLastSampleMs := some sample.elapsedMs }
  if (gap = true ∨ outside) ∧ trial.stableWindowVerifiedAtMs.isNone then
    { trial with stableWindowStartedAtMs := none, stableWindowSampleCount := 0 }
  else trial

def updateStableWindow : ThermalTuningTrial :=
  match trial.warmupExitedAtMs with
  | none => trial
  | some warmupExit =>
      let newTimestamp := trial.stableWindowLastSampleMs ≠ some sample.elapsedMs
      let trial := trial.startStableWindow sample
      if stableBandCentiC < (trial.errorCentiC sample).natAbs then trial
      else
        let stableStart := trial.stableWindowStartedAtMs.getD sample.elapsedMs
        let count :=
          if newTimestamp then
            (min (trial.stableWindowSampleCount.toNat + 1) 4294967295).toUInt32
          else trial.stableWindowSampleCount
        let duration := sample.elapsedMs - stableStart
        let sufficient := duration * 3 ≤ (count.toNat - 1) * 1000
        { trial with
          stableWindowStartedAtMs := some stableStart
          stableWindowSampleCount := count
          stableWindowVerifiedAtMs :=
            if stableStart - warmupExit ≤ trial.timing.activeLimitMs ∧
                stableWindowMs ≤ duration ∧ sufficient then
              trial.stableWindowVerifiedAtMs.or (some sample.elapsedMs)
            else trial.stableWindowVerifiedAtMs }

def updateTiming : ThermalTuningTrial :=
  let timing :=
    if sample.phase = .approach then
      trial.timing.observeApproachRequest sample.elapsedMs sample.heaterRequestedOutputPermille
    else trial.timing
  { trial with
    timing :=
      { timing with
        warmupExitedAtMs := trial.warmupExitedAtMs
        stableWindowStartedAtMs := trial.stableWindowStartedAtMs
        stableWindowVerifiedAtMs := trial.stableWindowVerifiedAtMs } }

def recordMaximum : ThermalTuningTrial :=
  { trial with
    maxTemperatureCentiC :=
      some (max (trial.maxTemperatureCentiC.getD sample.temperatureCentiC)
        sample.temperatureCentiC) }

/-- A rejected measurement interrupts the qualification, except for a bounded pause. -/
def updateTrialMetrics : ThermalTuningTrial :=
  let observed := trial.qualificationContinuity.observe (sample.observation trial.targetC)
  let trial :=
    { trial with
      trialStartElapsedMs := trial.trialStartElapsedMs.or (some sample.elapsedMs)
      currentElapsedMs := sample.elapsedMs
      qualificationContinuity := observed.1 }
  let trial :=
    if observed.2 = .freshAfterGap then trial.interruptMeasurementQualification else trial
  let trial := (trial.updateWarmupOutputEvidence sample).recordTrialPhase sample
  if sample.hasFreshMeasurement = false then
    if observed.2 = .ppsPause ∧
        trial.timing.policyVersion = ppsContinuityTimingPolicyVersion then trial
    else trial.interruptMeasurementQualification
  else
    let trial := { trial with previousSampleAtMs := some sample.elapsedMs }
    (((trial.holdExtremes sample).updateStableWindow sample).updateTiming sample).recordMaximum
      sample

/-! ## The deadline -/

def fullSpeedToStableTimedOut (elapsedMs : ℕ) : Bool :=
  trial.warmupExitedAtMs.any fun warmupExit =>
    trial.stableWindowVerifiedAtMs.isNone &&
      decide (warmupExit + trial.timing.activeLimitMs ≤ elapsedMs) &&
      trial.stableWindowStartedAtMs.all fun started =>
        warmupExit + trial.timing.activeLimitMs < started

def thermalGateFailed : Bool :=
  (trial.maxTemperatureCentiC.any fun value => trial.targetC * 100 + 300 < value) ||
    (trial.minHoldTemperatureCentiC.any fun low =>
      trial.maxHoldTemperatureCentiC.any fun high => 300 < high.toInt - low.toInt)

def maybeExtendTrial (elapsedMs : ℕ) : ThermalTuningTrial :=
  let gatesValid := trial.warmupFullOutput && !trial.warmupFullOutputInvalid &&
    !trial.thermalGateFailed
  { trial with
    timing := (trial.timing.tryExtend elapsedMs
      (trial.fullSpeedToStableTimedOut elapsedMs && gatesValid) trial.phase).1 }

def targetBudgetWindowIsInProgress : Bool :=
  trial.purpose = .holdConfirm && trial.stableWindowVerifiedAtMs.isNone &&
    trial.stableWindowStartedAtMs.any (· < trial.targetStartedElapsedMs + targetBudgetMs)

/-- The trial ends before its deadline is looked at. -/
def endsUnchecked : Bool :=
  (targetBudgetMs ≤ trial.currentElapsedMs - trial.targetStartedElapsedMs &&
      !trial.targetBudgetWindowIsInProgress) ||
    trial.trialStartElapsedMs.any fun started =>
      trialTimeoutMs ≤ trial.currentElapsedMs - started

/-- The trial is decided once its deadline has been looked at. -/
def endsChecked : Bool :=
  (trial.timing.extendedAtMs.isSome && trial.thermalGateFailed) ||
    trial.fullSpeedToStableTimedOut trial.currentElapsedMs ||
    (sample.hasFreshMeasurement &&
      (trial.firstHoldElapsedMs.any fun started =>
        (if trial.purpose = .holdConfirm then holdConfirmMs else scoutHoldMs) ≤
          trial.currentElapsedMs - started) &&
      (trial.stableWindowVerifiedAtMs.isSome || !trial.warmupFullOutput ||
        trial.warmupFullOutputInvalid || trial.thermalGateFailed))

def recordSample : ThermalTuningTrial :=
  let holdRegressed := trial.sawHold && (sample.phase = .warmup || sample.phase = .approach)
  let trial : ThermalTuningTrial :=
    { trial.updateTrialMetrics sample with phase := sample.phase }
  if holdRegressed = true ∨ trial.endsUnchecked = true then { trial with finished := true }
  else
    let trial := trial.maybeExtendTrial sample.elapsedMs
    { trial with finished := trial.endsChecked sample }

/-! ## The live samples -/

/-- The first sample from the original deadline on is never left out. -/
def firstOriginalCheckDue : Bool :=
  trial.warmupExitedAtMs.any fun warmupExit =>
    trial.timing.originalDeadlineObservedAtMs.isNone &&
      decide (warmupExit + trial.timing.originalLimitMs ≤ sample.elapsedMs)

def deadlineCheckDue : Bool :=
  trial.warmupExitedAtMs.any fun warmupExit =>
    trial.firstOriginalCheckDue sample ||
      (decide (warmupExit + trial.timing.activeLimitMs ≤ sample.elapsedMs) &&
        trial.stableWindowVerifiedAtMs.isNone &&
        (trial.stableWindowStartedAtMs.isNone ||
          decide (stableBandCentiC < (trial.errorCentiC sample).natAbs)))

def sampleDue : Bool :=
  trial.phase ≠ sample.phase ||
    (sample.phase = .warmup && !trial.warmupFullOutput) ||
    (!sample.hasFreshMeasurement &&
      (trial.firstHoldElapsedMs.isSome || trial.stableWindowStartedAtMs.isSome ||
        trial.previousSampleAtMs.isSome)) ||
    trial.deadlineCheckDue sample ||
    !trial.lastLiveSampleElapsedMs.any fun last =>
      sample.elapsedMs - last < liveSampleIntervalMs

/-- A finished trial takes no further samples. -/
def recordLiveSample : ThermalTuningTrial :=
  if trial.finished = true ∨ trial.sampleDue sample = false then trial
  else
    { trial.recordSample sample with
      lastLiveSampleElapsedMs :=
        if trial.phase = sample.phase then some sample.elapsedMs else none }

end ThermalTuningTrial

end FluxPurr.Thermal.Tuning
