import FluxPurr.Calibration.ManualPps
import FluxPurr.Memory.ConfigCommands

/-!
# The state of a calibration

`CalibrationRuntimeState` is what of a calibration lives in memory only: its mode, its own
PPS request, what it wants of the heater, and its job.
-/

namespace FluxPurr.Calibration

open FluxPurr.Memory FluxPurr.Supply

inductive CalibrationMode where
  | off
  | vinAdc
  | rtdAdc
  | heaterCurve
  | thermalPlant
deriving DecidableEq, Repr

inductive CalibrationJobKind where
  | vinAdc
  | thermalPlant
deriving DecidableEq, Repr

inductive CalibrationJobStatus where
  | idle
  | running
  | completed
  | failed
  | canceled
deriving DecidableEq, Repr

structure CalibrationJobState where
  kind : Option CalibrationJobKind := none
  status : CalibrationJobStatus := .idle
  progressPercent : UInt8 := 0
  samplesCollected : UInt8 := 0
  nextRequestMv : Option UInt16 := none
  message : Option ManualPpsError := none
deriving DecidableEq, Repr

abbrev calibrationVinAutoMaxSweepSamples : ℕ := 24

structure CalibrationVinAutoJob where
  startRequestMv : UInt16
  nextRequestMv : UInt16
  maxRequestMv : UInt16
  targetMa : UInt16
  settleTicks : UInt8 := 0
  stableTicks : UInt8 := 0
  lastObservedMv : Option UInt16 := none
  sampleCount : UInt8 := 0
  samples : Vector (Option AdcCalibrationSample) calibrationVinAutoMaxSweepSamples :=
    Vector.replicate calibrationVinAutoMaxSweepSamples none
deriving DecidableEq

/-- The data of a thermal plant job lie in its workspace. -/
inductive CalibrationJobData where
  | vinAdc (job : CalibrationVinAutoJob)
  | thermalPlant
deriving DecidableEq

@[ext] structure CalibrationRuntimeState where
  mode : CalibrationMode := .off
  ppsEnabled : Bool := false
  ppsMv : Option UInt16 := none
  ppsMa : Option UInt16 := none
  heaterEnabled : Bool := false
  targetAdcMv : Option UInt16 := none
  stable : Bool := false
  stabilityErrorMv : Option Int16 := none
  error : Option ManualPpsError := none
  scanPhase : Option ScanPhase := none
  scanFailure : Option ScanFailure := none
  scanContractConfirmed : Bool := false
  job : CalibrationJobState := {}
  jobData : Option CalibrationJobData := none
  modelTargetTempC : Option Int16 := none
  thermalPlantCompletionDisarmPending : Bool := false
  immediateHeaterDisarmPending : Bool := false
deriving DecidableEq

/-- The calibration, and the request that it shares with the operator. -/
@[ext] structure CalibrationRequests where
  calibration : CalibrationRuntimeState
  manualPps : ManualPpsState
deriving DecidableEq

def thermalPlantCalibrationJobRunning (calibration : CalibrationRuntimeState) : Bool :=
  calibration.mode = .thermalPlant && calibration.job.status = .running

def CalibrationRuntimeState.withoutPps (calibration : CalibrationRuntimeState) :
    CalibrationRuntimeState :=
  { calibration with ppsEnabled := false, ppsMv := none, ppsMa := none }

end FluxPurr.Calibration
