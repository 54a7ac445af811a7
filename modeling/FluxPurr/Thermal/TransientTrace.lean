import FluxPurr.Collections.IndexSelection
import FluxPurr.Thermal.Controller

/-!
# Recording a transient trace

The thermal plant job records how the plate warms and cools, for a fit at its end.  A trace has
128 slots.  When it is full, `compactTransientTrace` keeps some of its samples: the first one, up
to 47 of the powered stretch and of what comes after it, and nothing else.

In the powered stretch a cursor walks up to evenly spaced RTD readings and keeps each sample at
which it stops.  Slots that are left over, because it stopped at a sample more than once, are
given out by position.  After the stretch the samples are kept by position alone.
-/

namespace FluxPurr.Thermal

open FluxPurr.Collections FluxPurr.Memory

/-! ## The trace -/

inductive ThermalPlantAutoPhase
  | ambient
  | heating
  | cooling
deriving DecidableEq, Repr

/-- What recording reads and writes of the job.  `samples` are the first `sample_count` of its
slots; the slots after them are empty. -/
structure CalibrationThermalPlantAutoJob where
  phase : ThermalPlantAutoPhase := .ambient
  elapsedTicks : UInt32 := 0
  phaseStartedTick : UInt32 := 0
  lastSavedTempC : F32 := F32.zero
  lastSavedTick : UInt32 := 0
  samples : List ThermalPlantTransientSample := []
deriving DecidableEq, Repr

/-- The heater was on. -/
def isPowered (sample : ThermalPlantTransientSample) : Bool :=
  !thermalPlantSampleIsCooling sample && sample.dutyPercent ≠ 0

/-! ## Compaction -/

section

variable (samples : List ThermalPlantTransientSample)

def rawAt (index : ℕ) : ℕ := (samples.getD index {}).rawRtdAdcMv.toNat

/-- The reading that the cursor walks up to for a slot. -/
def targetRaw (firstRaw lastRaw slots slot : ℕ) : ℕ :=
  if slots = 1 then lastRaw else firstRaw + slot * (lastRaw - firstRaw) / (slots - 1)

/-- The position of a slot when they are given out evenly. -/
def evenIndex (start stop slots slot : ℕ) : ℕ :=
  if slots = 1 then stop else start + slot * (stop - start) / (slots - 1)

/-- One round of the walk: on to the target of the slot. -/
def markTarget (start stop slots : ℕ) (state : ℕ × Finset ℕ) (slot : ℕ) : ℕ × Finset ℕ :=
  let target := targetRaw (rawAt samples start) (rawAt samples stop) slots slot
  let cursor := walkTo (fun index => target ≤ rawAt samples index) stop state.1
  (cursor, insert cursor state.2)

def markTraceIndicesByTemperature (keep : Finset ℕ) (start stop slots : ℕ) : Finset ℕ :=
  let slots := min slots (stop - start + 1)
  if slots = 0 then keep
  else
    let keep := ((List.range slots).foldl (markTarget samples start stop slots) (start, keep)).2
    let selected := ((Finset.Icc start stop).filter (· ∈ keep)).card
    -- readings that fall again make the cursor stop at one sample for several targets
    let marked :=
      if selected < slots then
        fillUntil slots ((List.range slots).map (evenIndex start stop slots)) (keep, selected)
      else (keep, selected)
    if marked.2 < slots then
      (fillUntil slots (List.range' start (stop + 1 - start)) marked).1
    else marked.1

def markTraceIndicesEvenly (keep : Finset ℕ) (start stop slots : ℕ) : Finset ℕ :=
  let slots := min slots (stop - start + 1)
  (List.range slots).foldl (fun keep slot => insert (evenIndex start stop slots slot) keep) keep

/-- `keep`, as the set of the indices at which it is true. -/
def keptIndices : Finset ℕ :=
  match samples.findIdx? isPowered, lastPoweredIndex samples with
  | some first, some last =>
      let coolingCount := samples.length - last - 1
      let coolingSlots := min coolingCount 23
      let poweredSlots := 47 - coolingSlots
      let keep := markTraceIndicesByTemperature samples {0} first last poweredSlots
      if 0 < coolingCount then
        markTraceIndicesEvenly keep (last + 1) (samples.length - 1) coolingSlots
      else keep
  | _, _ => {0}

def compactTransientTrace : List ThermalPlantTransientSample :=
  if samples.length ≤ 48 then samples
  else (samples.zipIdx.filter fun entry => entry.2 ∈ keptIndices samples).map Prod.fst

end

/-! ## Recording -/

/-- `x >= y`. -/
def atLeast (x y : F32) : Bool := !x.isNan && !y.isNan && !x.lt y

abbrev thermalPlantTraceMinTempStepC : F32 := ⟨0x40800000⟩
abbrev thermalPlantTraceIntervalTicks : ℕ := 200

variable (job : CalibrationThermalPlantAutoJob)

/-- An observation that would be an impossible thermal step is replaced by the one before. -/
def thermalPlantTraceObservation (rawRtdAdcMv : UInt16)
    (temperatureC : F32) (dutyPercent : UInt8) : UInt16 × F32 :=
  match job.samples.getLast? with
  | none => (rawRtdAdcMv, temperatureC)
  | some previous =>
      let elapsedTicks := max (job.elapsedTicks.toNat - job.lastSavedTick.toNat) 1
      let elapsedS := ((F32.ofNat elapsedTicks).mul (F32.ofNat heaterControlIntervalMs)).div
        (F32.ofNat 1000)
      let maximumRiseC := (F32.ofNat 10).add ((F32.ofNat 20).mul elapsedS)
      let maximumFallC := (F32.ofNat 2).add
        (if dutyPercent = 0 then (F32.ofNat 12).mul elapsedS
        -- 0.2
        else F32.mul ⟨0x3e4ccccd⟩ elapsedS)
      let deltaC := temperatureC.sub job.lastSavedTempC
      if maximumRiseC.lt deltaC || deltaC.lt maximumFallC.neg then
        (previous.rawRtdAdcMv, job.lastSavedTempC)
      else (rawRtdAdcMv, temperatureC)

/-- The supply of the heater has changed since the last sample. -/
def electricalChange (latestVinMv : UInt32) (dutyPercent : UInt8) : Bool :=
  job.samples.getLast?.any fun previous =>
    previous.dutyPercent ≠ dutyPercent ||
      (dutyPercent ≠ 0 &&
        previous.heaterVoltage125mv ≠ quantizeThermalPlantHeaterVoltageMv latestVinMv) ||
      (job.phase = .cooling && !thermalPlantSampleIsCooling previous)

/-- `should_record`. -/
def shouldRecord (latestTempC : F32) (latestVinMv : UInt32)
    (dutyPercent : UInt8) (force : Bool) : Bool :=
  let sinceSaved := job.elapsedTicks.toNat - job.lastSavedTick.toNat
  let cutoffTimeSample := job.phase = .cooling &&
    job.elapsedTicks.toNat - job.phaseStartedTick.toNat ≤ 200 && 10 ≤ sinceSaved
  let temperatureStepSample := 10 ≤ sinceSaved &&
    atLeast (latestTempC.sub job.lastSavedTempC).abs thermalPlantTraceMinTempStepC
  let intervalSample := thermalPlantTraceIntervalTicks ≤ sinceSaved &&
    (job.phase = .cooling || dutyPercent ≠ 0)
  force || electricalChange job latestVinMv dutyPercent || job.samples.length < 16 ||
    cutoffTimeSample || temperatureStepSample || intervalSample

/-- Passive cooling has a voltage code of its own. -/
def sampleVoltage125mv (phase : ThermalPlantAutoPhase) (latestVinMv : UInt32) : UInt8 :=
  if phase = .cooling then thermalPlantCoolingVoltageSentinel
  else quantizeThermalPlantHeaterVoltageMv latestVinMv

/-- What recording does with a sample that is to be saved: room is made for it first. -/
def saveSample (rawRtdAdcMv : UInt16) (latestTempC : F32)
    (latestVinMv : UInt32) (dutyPercent : UInt8) : CalibrationThermalPlantAutoJob × Bool :=
  let job :=
    if job.samples.length = thermalPlantTransientMaxSamples then
      { job with samples := compactTransientTrace job.samples }
    else job
  if thermalPlantTransientMaxSamples ≤ job.samples.length ∨
      job.samples ≠ [] ∧ job.elapsedTicks ≤ job.lastSavedTick then (job, false)
  else
    ({ job with
        samples := job.samples ++
          [{  elapsedTicks := job.elapsedTicks
              rawRtdAdcMv
              heaterVoltage125mv := sampleVoltage125mv job.phase latestVinMv
              dutyPercent }]
        lastSavedTempC := latestTempC
        lastSavedTick := job.elapsedTicks }, true)

/-- The job afterwards, and the result. -/
def recordThermalPlantTransientSample
    (rawRtdAdcMv : UInt16) (latestTempC : F32) (latestVinMv : UInt32) (dutyPercent : UInt8)
    (force : Bool) : CalibrationThermalPlantAutoJob × Bool :=
  let (rawRtdAdcMv, latestTempC) :=
    thermalPlantTraceObservation job rawRtdAdcMv latestTempC dutyPercent
  if rawRtdAdcMv = 0 ∨ ¬ latestTempC.isFinite ∨ 100 < dutyPercent then (job, false)
  else if thermalPlantSupplyMaxTicks < job.elapsedTicks then (job, false)
  -- persisted time cells must be unique even when the control loop catches up
  else if job.samples ≠ [] ∧ job.elapsedTicks ≤ job.lastSavedTick then (job, true)
  else if ¬ shouldRecord job latestTempC latestVinMv dutyPercent force then (job, true)
  else saveSample job rawRtdAdcMv latestTempC latestVinMv dutyPercent

/-- One call: the clock and the phase of the job at that time, and the arguments. -/
structure RecordCall where
  elapsedTicks : UInt32
  phase : ThermalPlantAutoPhase
  phaseStartedTick : UInt32
  rawRtdAdcMv : UInt16
  latestTempC : F32
  latestVinMv : UInt32
  dutyPercent : UInt8
  force : Bool
deriving DecidableEq, Repr

/-- The job when the call is made. -/
def RecordCall.clocked (call : RecordCall) (job : CalibrationThermalPlantAutoJob) :
    CalibrationThermalPlantAutoJob :=
  { job with
    elapsedTicks := call.elapsedTicks
    phase := call.phase
    phaseStartedTick := call.phaseStartedTick }

def RecordCall.record (call : RecordCall) : CalibrationThermalPlantAutoJob × Bool :=
  recordThermalPlantTransientSample (call.clocked job) call.rawRtdAdcMv call.latestTempC
    call.latestVinMv call.dutyPercent call.force

end FluxPurr.Thermal
