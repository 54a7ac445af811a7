import FluxPurr.Supply.Boundary

/-!
# The supply scan

`SupplyScan.update` takes one settled sample at a time and decides the next PPS request.
The detailed scan goes through several currents, each up to the voltage where the source
stops following; the rapid scan stays at 3 A, follows the source while the plate warms, and
ends with one probe above the operational range (`terminalProbe`).

Requests, times and counters are natural numbers here, with the saturation of the source
where it can be reached; the samples and the recorded points keep their widths.
Temperatures are integers in hundredths of a degree.
-/

namespace FluxPurr.Supply

def settleTimeMs : ℕ := 1000
def rapidSettleTimeMs : ℕ := 500
def stageTimeoutMs : ℕ := 15 * 60 * 1000
def minThermalCoverageCentiC : ℤ := 22000
def minBoundaryCoverageCentiC : ℤ := 10000
def rapidReprobeStepCentiC : ℤ := 1000
def rapidCoarseStepMv : ℕ := 500
def rapidFineStepMv : ℕ := 100
def rapidSourceCeilingConfirmations : ℕ := 2
def probeRecoveryStepMv : ℕ := 500
def normalProbeFlatConfirmations : ℕ := 5
def normalProbeAmbiguousConfirmations : ℕ := 8
def normalProbeTimeoutMs : ℕ := 10000
def normalProbeMinTemperatureStepCentiC : ℤ := 1000
def rapidFineRetestWindowMv : ℕ := 500
def terminalProbeCurrentStepMa : UInt16 := 50
def rapidMinBoundarySpanMv : ℕ := 500
def threeAmpCoverageStartCentiC : ℤ := 6000

inductive ScanPhase where
  | baseline
  | preflight
  | preflightRecovery
  | sweep
  | sourceBoundaryRecovery
  | rapidWarmup
  | terminalProbe
  | temperatureSettle
  | equilibrium
  | probeRecovery
  | complete
  | failed
deriving DecidableEq, Repr

inductive ScanMode where
  | detailed
  | rapid
deriving DecidableEq, Repr

inductive ScanFailure where
  | wifiChanged
  | supplyUnstable
  | ambiguousResponse
  | stageTimeout
  | invalidSample
deriving DecidableEq, Repr

structure ScanInput where
  nowMs : UInt32
  temperatureCentiC : ℤ
  wifiStarted : Bool
  confirmed : Bool
  physicalPercent : ℕ
  rtdCode : UInt16
  rtdMv : UInt16
  vinCode : UInt16
  vinMv : UInt16
deriving DecidableEq

structure ScanOutput where
  requestMv : ℕ
  requestMa : ℕ
  heaterEnabled : Bool
deriving DecidableEq, Repr

/-! ## Fixed-width arithmetic -/

/-- `u16::saturating_add`. -/
def saturatingAddU16 (a b : ℕ) : ℕ := min 65535 (a + b)

/-- `i16::saturating_sub`. -/
def saturatingSubI16 (a b : ℤ) : ℤ := max (-32768) (min 32767 (a - b))

def clampI16 (value : ℤ) : ℤ := max (-32768) (min 32767 value)

def divCeil (a b : ℕ) : ℕ := (a + b - 1) / b

/-! ## Equilibrium -/

structure EquilibriumWindow where
  startedMs : Option ℕ := none
  minCentiC : ℤ := 0
  maxCentiC : ℤ := 0
deriving DecidableEq

namespace EquilibriumWindow

def opened (nowMs : ℕ) (temperatureCentiC : ℤ) : EquilibriumWindow where
  startedMs := some nowMs
  minCentiC := temperatureCentiC
  maxCentiC := temperatureCentiC

/-- Whether the temperature has stayed within one degree for ten seconds. -/
def observe (window : EquilibriumWindow) (nowMs : ℕ) (temperatureCentiC : ℤ) :
    Bool × EquilibriumWindow :=
  match window.startedMs with
  | none => (false, opened nowMs temperatureCentiC)
  | some startedMs =>
      let minCentiC := min window.minCentiC temperatureCentiC
      let maxCentiC := max window.maxCentiC temperatureCentiC
      if 100 < maxCentiC - minCentiC then (false, opened nowMs temperatureCentiC)
      else (decide (10000 ≤ nowMs - startedMs), { window with minCentiC, maxCentiC })

end EquilibriumWindow

/-! ## Retained points -/

namespace SupplyBoundary

def voltageResponseMatches (point : BoundaryPoint) (requestMv : ℕ) (vinMv : UInt16) : Bool :=
  point.vinMv.toNat * requestMv * 95 ≤ vinMv.toNat * point.trackingRequestMv.toNat * 100

/-- The point takes the place of the thermal observation of its current, or the next free
place.  The result is `false` when there is no place left. -/
def retain (boundary : SupplyBoundary) (point : BoundaryPoint) : Bool × SupplyBoundary :=
  match boundary.recorded.findIdx? fun existing =>
      !point.trackingOnly && !existing.trackingOnly &&
        existing.requestCurrentMa == point.requestCurrentMa with
  | some index => (true, { boundary with points := boundary.points.setIfInBounds index point })
  | none =>
      if boundary.pointCount.toNat < maxBoundaryPoints then
        (true,
          { boundary with
            points := boundary.points.setIfInBounds boundary.pointCount.toNat point
            pointCount := boundary.pointCount + 1 })
      else (false, boundary)

/-- The thermal observations move to the front; what lies behind them is not counted. -/
def keepEquilibria (boundary : SupplyBoundary) : SupplyBoundary :=
  let kept := boundary.recorded.filter fun point => !point.trackingOnly
  { boundary with
    points := Vector.ofFn fun index => kept.getD index boundary.points[index]
    pointCount := kept.length.toUInt8 }

end SupplyBoundary

/-! ## The scan -/

structure SupplyScan where
  boundary : SupplyBoundary
  phase : ScanPhase := .baseline
  failure : Option ScanFailure := none
  cutoffReached : Bool := false
  requestMv : ℕ
  requestMa : ℕ := 3000
  changedAtMs : ℕ := 0
  stageStartedMs : ℕ := 0
  baselineVinMv : ℕ := 0
  baselineRequestMv : ℕ
  previous : Option ScanInput := none
  lastTracking : Option BoundaryPoint := none
  flatRequestMv : ℕ := 0
  flatCount : ℕ := 0
  ambiguousCount : ℕ := 0
  equilibrium : EquilibriumWindow := {}
  stabilityTemperatureCentiC : Option ℤ := none
  normalProbe : Bool := false
  normalProbeStartedMs : ℕ := 0
  lastNormalProbeTemperatureCentiC : Option ℤ := none
  returnCurrentMa : ℕ := 3000
  returnRequestMv : ℕ
  normalBins : Vector (Option BoundaryPoint) 20 := Vector.replicate 20 none
  rapidTrackingConfirmations : ℕ := 0
  lastRapidProbeTemperatureCentiC : Option ℤ := none
  rapidBoundaryReached : Bool := false
  rapidProbeSinceBoundary : Bool := false
  rapidFailedProbeMv : Option ℕ := none
  rapidFailedProbeCount : ℕ := 0
  terminalProbeConfirmations : ℕ := 0
  hotBoundaryReached : Bool := false
  mode : ScanMode

namespace SupplyScan

def newWithMode (boundary : SupplyBoundary) (mode : ScanMode) : Option SupplyScan :=
  if boundary.sourceMinMv < 5500 ∨ boundary.sourceMaxMv ≤ boundary.sourceMinMv ∨
      21000 < boundary.sourceMaxMv ∨ boundary.sourceMaxMa < 3000 then none
  else
    some
      { boundary :=
          { boundary with
            pointCount := 0
            cutoffReached := false
            points := Vector.replicate maxBoundaryPoints {} }
        requestMv := boundary.sourceMaxMv.toNat
        baselineRequestMv := boundary.sourceMaxMv.toNat
        returnRequestMv := boundary.sourceMinMv.toNat
        mode }

def newRapid (boundary : SupplyBoundary) : Option SupplyScan := newWithMode boundary .rapid

variable (scan : SupplyScan) (input : ScanInput)

def sourceMinMv : ℕ := scan.boundary.sourceMinMv.toNat

def sourceMaxMv : ℕ := scan.boundary.sourceMaxMv.toNat

def settleMs : ℕ :=
  match scan.mode, scan.phase with
  | .rapid, .temperatureSettle => settleTimeMs
  | .detailed, _ => settleTimeMs
  | .rapid, _ => rapidSettleTimeMs

def isRapid : Bool := scan.mode == .rapid

def rapidSameCurrentRecovery : Bool :=
  scan.isRapid && (scan.phase == .probeRecovery || scan.phase == .sourceBoundaryRecovery)

def output : ScanOutput where
  requestMv := scan.requestMv
  requestMa := scan.requestMa
  heaterEnabled :=
    (scan.phase == .sweep || scan.phase == .rapidWarmup || scan.phase == .terminalProbe ||
      scan.phase == .temperatureSettle || scan.phase == .equilibrium) ||
    scan.rapidSameCurrentRecovery

def fail (reason : ScanFailure) : SupplyScan :=
  { scan with phase := .failed, failure := some reason }

def change (requestMv requestMa : ℕ) : SupplyScan :=
  { scan with requestMv, requestMa, changedAtMs := input.nowMs.toNat }

/-- The request stays, and its settling starts again. -/
def hold : SupplyScan := { scan with changedAtMs := input.nowMs.toNat }

/-- A low-pass filter of the temperature, with a division towards zero. -/
def filteredTemperature (rawCentiC : ℤ) : ℤ :=
  match scan.stabilityTemperatureCentiC with
  | none => rawCentiC
  | some previous => previous + (rawCentiC - previous).tdiv 4

def point : BoundaryPoint where
  elapsedMs := input.nowMs
  rtdCode := input.rtdCode
  rtdMv := input.rtdMv
  vinCode := input.vinCode
  vinMv := input.vinMv
  requestCurrentMa := scan.requestMa.toUInt16
  trackingRequestMv := scan.requestMv.toUInt16
  flatRequestMv := scan.flatRequestMv.toUInt16
  trackingOnly := scan.normalProbe

/-! ### Retaining observations -/

def retainTracking : SupplyScan :=
  match scan.lastTracking with
  | some point =>
      if scan.normalProbe then scan
      else { scan with boundary := (scan.boundary.retain point).2 }
  | none => scan

def rebuildNormalPoints : SupplyScan :=
  { scan with
    boundary := (scan.normalBins.toList.reduceOption).foldl
      (fun boundary point => (boundary.retain point).2) scan.boundary.keepEquilibria }

def normalBin (temperatureCentiC : ℤ) : Fin 20 :=
  Fin.ofNat 20 (min ((max (temperatureCentiC - 2000) 0).tdiv 1000) 19).toNat

/-- At 3 A the strongest observation of each temperature bin is retained. -/
def retainNormalTracking : SupplyScan :=
  if scan.requestMa ≠ 3000 then scan
  else
    let bin := normalBin input.temperatureCentiC
    let point := { scan.point input with trackingOnly := true }
    if scan.normalBins[bin].all fun previous =>
        previous.trackingRequestMv < point.trackingRequestMv then
      rebuildNormalPoints { scan with normalBins := scan.normalBins.set bin (some point) }
    else scan

/-! ### Responses -/

def voltageTracksRequest : Bool :=
  let relativeMatch := scan.lastTracking.all fun point =>
    SupplyBoundary.voltageResponseMatches point scan.requestMv input.vinMv
  let absoluteMatch :=
    scan.baselineVinMv == 0 || scan.baselineRequestMv == 0 ||
      decide (divCeil (scan.baselineVinMv * scan.requestMv) scan.baselineRequestMv * 90 ≤
        input.vinMv.toNat * 100)
  relativeMatch && absoluteMatch

def rapidFlatBoundaryReady : Bool :=
  !scan.isRapid ||
    scan.lastTracking.any fun lastTracking =>
      decide (rapidMinBoundarySpanMv ≤ scan.requestMv - lastTracking.trackingRequestMv.toNat) ||
        !SupplyBoundary.voltageResponseMatches lastTracking scan.requestMv input.vinMv

def preflightMinVinMv : ℕ :=
  let requestMv := max scan.baselineRequestMv 1
  let scaledFloor := scan.baselineVinMv * scan.sourceMinMv / requestMv
  min (divCeil (scaledFloor * 90) 100) 65535

/-! ### The terminal probe -/

/-- The multiplication and the conversion wrap as in the source. -/
def terminalProbeTarget : Option (ℕ × ℕ) :=
  let targetMv := min scan.boundary.advertisedMaxMv 21000 / 100 * 100
  if targetMv ≤ scan.boundary.sourceMaxMv ∨ scan.boundary.sourcePowerLimitMw = 0 then none
  else
    let targetMa := (scan.boundary.sourcePowerLimitMw * 1000 / targetMv.toUInt32).toUInt16 /
      terminalProbeCurrentStepMa * terminalProbeCurrentStepMa
    if 1000 ≤ targetMa then some (targetMv.toNat, targetMa.toNat) else none

def beginTerminalProbeOrComplete : SupplyScan :=
  match scan.terminalProbeTarget with
  | none => { scan with phase := .complete }
  | some (targetMv, targetMa) =>
      { scan with
        requestMv := targetMv
        requestMa := targetMa
        terminalProbeConfirmations := 0
        phase := .terminalProbe
        previous := none
        changedAtMs := input.nowMs.toNat
        stageStartedMs := input.nowMs.toNat }

/-- The terminal request does not track: back to the operational ceiling at 3 A. -/
def leaveTerminalProbe : SupplyScan :=
  { scan with
    terminalProbeConfirmations := 0
    phase := .sourceBoundaryRecovery
    previous := none
    returnRequestMv := scan.sourceMaxMv
    returnCurrentMa := 3000
    rapidTrackingConfirmations := 0
    rapidProbeSinceBoundary := true
    lastRapidProbeTemperatureCentiC := some input.temperatureCentiC
    requestMv := scan.sourceMaxMv
    requestMa := 3000
    changedAtMs := input.nowMs.toNat }

def retainTerminalPoint : SupplyScan :=
  let retained := scan.boundary.retain
    { scan.point input with flatRequestMv := 0, trackingOnly := true }
  if retained.1 then { scan with boundary := retained.2, phase := .complete }
  else { scan with boundary := retained.2 }.fail .supplyUnstable

def terminalProbe : SupplyScan :=
  if !input.confirmed || input.physicalPercent != 100 then scan.hold input
  else if !scan.voltageTracksRequest input then scan.leaveTerminalProbe input
  else
    let scan := { scan with
      terminalProbeConfirmations := min 255 (scan.terminalProbeConfirmations + 1) }
    if 2 ≤ scan.terminalProbeConfirmations then scan.retainTerminalPoint input
    else scan.hold input

/-! ### Probes at 3 A -/

/-- The sweep starts again from the floor, with the next current. -/
def nextCurrentStage : SupplyScan :=
  { scan with
    normalProbe := false
    phase := .sweep
    previous := none
    lastTracking := none
    flatCount := 0
    ambiguousCount := 0
    flatRequestMv := 0
    equilibrium := {}
    stageStartedMs := input.nowMs.toNat
    requestMv := scan.sourceMinMv
    requestMa := min (saturatingAddU16 scan.requestMa 100) 3000
    changedAtMs := input.nowMs.toNat }

/-- The last probe was at nearly this temperature. -/
def probedNearby : Bool :=
  scan.lastNormalProbeTemperatureCentiC.any fun previous =>
    saturatingSubI16 input.temperatureCentiC previous < normalProbeMinTemperatureStepCentiC

def beginThreeAmpProbe : SupplyScan :=
  if scan.probedNearby input then scan.nextCurrentStage input
  else
    let returnRequestMv := max scan.requestMv scan.sourceMinMv
    { scan with
      returnRequestMv
      normalProbe := true
      lastNormalProbeTemperatureCentiC := some input.temperatureCentiC
      returnCurrentMa :=
        if scan.phase = .equilibrium then min (scan.requestMa + 100) 3000 else scan.requestMa
      phase := .sweep
      previous := none
      lastTracking := none
      flatCount := 0
      ambiguousCount := 0
      flatRequestMv := 0
      stageStartedMs := input.nowMs.toNat
      normalProbeStartedMs := input.nowMs.toNat
      requestMv := returnRequestMv
      requestMa := 3000
      changedAtMs := input.nowMs.toNat }

def finishNormalProbe : SupplyScan :=
  { scan with
    normalProbe := false
    phase := .probeRecovery
    previous := none
    lastTracking := none
    flatCount := 0
    flatRequestMv := 0
    stageStartedMs := input.nowMs.toNat
    requestMa := scan.returnCurrentMa
    changedAtMs := input.nowMs.toNat }

def handleStageTimeout : SupplyScan :=
  if 3000 ≤ scan.requestMa then scan.fail .stageTimeout else scan.nextCurrentStage input

/-! ### The sweep -/

def rapidProbeStepMv : ℕ :=
  if !scan.rapidBoundaryReached then rapidCoarseStepMv
  else
    match scan.rapidFailedProbeMv with
    | none => rapidFineStepMv
    | some failed =>
        if saturatingAddU16 scan.requestMv rapidFineRetestWindowMv < failed then
          rapidCoarseStepMv
        else if scan.requestMv < failed then rapidFineStepMv
        else if scan.sourceMaxMv ≤ saturatingAddU16 scan.requestMv rapidCoarseStepMv then
          rapidFineStepMv
        else rapidCoarseStepMv

def enterRapidWarmup : SupplyScan :=
  { scan with
    phase := .rapidWarmup
    previous := none
    lastRapidProbeTemperatureCentiC := none
    changedAtMs := input.nowMs.toNat }

def beginEquilibrium : SupplyScan :=
  match scan.lastTracking with
  | none => scan.fail .ambiguousResponse
  | some point =>
      if scan.normalProbe then scan.finishNormalProbe input
      else if scan.isRapid then
        { scan.enterRapidWarmup input with requestMv := point.trackingRequestMv.toNat }
      else
        { scan with
          phase := .equilibrium
          equilibrium := {}
          previous := some input
          requestMv := max (point.trackingRequestMv.toNat - 100) scan.sourceMinMv
          changedAtMs := input.nowMs.toNat }

def probeNextVoltage : SupplyScan :=
  if scan.sourceMaxMv ≤ scan.requestMv then
    if scan.isRapid then scan.enterRapidWarmup input else scan.beginEquilibrium input
  else
    let stepMv := if scan.isRapid then scan.rapidProbeStepMv else 100
    scan.change input (min (saturatingAddU16 scan.requestMv stepMv) scan.sourceMaxMv)
      scan.requestMa

def lastSafePoint : Option BoundaryPoint :=
  (scan.lastTracking.filter fun point =>
    point.trackingRequestMv.toNat < scan.requestMv).or
  ((scan.boundary.recorded.filter fun point =>
      point.requestCurrentMa.toNat = scan.requestMa ∧
        point.trackingRequestMv.toNat < scan.requestMv).foldl
    (fun best point =>
      match best with
      | none => some point
      | some best => if best.trackingRequestMv ≤ point.trackingRequestMv then some point
          else some best) none)

/-- The failed request is remembered; two failures of the warm plate are the ceiling. -/
def noteRapidFailure : SupplyScan :=
  if scan.isRapid then
    { scan with
      rapidBoundaryReached := true
      rapidFailedProbeCount :=
        if minBoundaryCoverageCentiC ≤ input.temperatureCentiC then
          min 255 (scan.rapidFailedProbeCount + 1)
        else 0
      rapidFailedProbeMv := some scan.requestMv
      hotBoundaryReached := minBoundaryCoverageCentiC ≤ input.temperatureCentiC }
  else scan

def boundaryReturnMv : ℕ :=
  let coarseRecoveryMv := max (scan.requestMv - probeRecoveryStepMv) scan.sourceMinMv
  match scan.lastSafePoint with
  | none => coarseRecoveryMv
  | some point => max (min point.trackingRequestMv.toNat coarseRecoveryMv) scan.sourceMinMv

/-- The coarse step and the recovery step of the source are both 500 mV. -/
def beginSourceBoundaryRecovery : SupplyScan :=
  let returnRequestMv := scan.boundaryReturnMv
  if scan.requestMv ≤ returnRequestMv then { scan with returnRequestMv }.fail .supplyUnstable
  else
    { scan.noteRapidFailure input with
      returnRequestMv
      returnCurrentMa := scan.requestMa
      normalProbe := false
      lastTracking := none
      rapidTrackingConfirmations := 0
      phase := .sourceBoundaryRecovery
      previous := none
      flatCount := 0
      ambiguousCount := 0
      flatRequestMv := scan.requestMv
      requestMv := returnRequestMv
      changedAtMs := input.nowMs.toNat }

def handleAmbiguousConfirmation : SupplyScan :=
  if scan.rapidFlatBoundaryReady input then
    { scan with flatRequestMv := scan.requestMv }.beginEquilibrium input
  else { scan with ambiguousCount := 0 }.probeNextVoltage input

def handleFlatConfirmation : SupplyScan :=
  if !scan.rapidFlatBoundaryReady input then { scan with flatCount := 0 }.probeNextVoltage input
  else
    { scan with
      flatRequestMv := scan.requestMv
      lastTracking := scan.lastTracking.map fun point : BoundaryPoint =>
        { point with flatRequestMv := scan.requestMv.toUInt16 } }.beginEquilibrium input

/-- How VIN followed the last step of the request. -/
inductive Response where
  | tracking
  | thermalRamp
  | flat
  | ambiguous
deriving DecidableEq

def response (previous : ScanInput) : Response :=
  let expectedDelta := divCeil (scan.baselineVinMv * 100) (max scan.baselineRequestMv 1)
  let observedDelta := input.vinMv.toNat - previous.vinMv.toNat
  if expectedDelta * 80 ≤ observedDelta * 100 then .tracking
  else if 100 < (input.temperatureCentiC - previous.temperatureCentiC).natAbs then .thermalRamp
  else if observedDelta * 100 ≤ expectedDelta * 25 then .flat
  else .ambiguous

def flatConfirmations : ℕ := if scan.normalProbe then normalProbeFlatConfirmations else 2

def ambiguousConfirmations : ℕ := if scan.normalProbe then normalProbeAmbiguousConfirmations else 5

/-- The step of the sweep after a tracking or a flat response. -/
def continueSweep : SupplyScan :=
  let scan := { scan with previous := some input }
  if scan.flatConfirmations ≤ scan.flatCount then scan.handleFlatConfirmation input
  else scan.probeNextVoltage input

def sweepResponse (previous : ScanInput) : SupplyScan :=
  match scan.response input previous with
  | .tracking =>
      let observed := { scan with lastTracking := some (scan.point input) }
      let tracked := observed.retainNormalTracking input
      { tracked with flatCount := 0, ambiguousCount := 0 }.continueSweep input
  | .thermalRamp =>
      { scan with
        flatCount := 0
        ambiguousCount := 0
        previous := some input }.probeNextVoltage input
  | .flat => { scan with flatCount := scan.flatCount + 1 }.continueSweep input
  | .ambiguous =>
      let scan := { scan with
        ambiguousCount := min 255 (scan.ambiguousCount + 1)
        previous := some input
        changedAtMs := input.nowMs.toNat }
      if scan.ambiguousConfirmations ≤ scan.ambiguousCount then
        scan.handleAmbiguousConfirmation input
      else scan

/-- At the ceiling the rapid scan goes over to the warm-up. -/
def sweepAtCeiling : SupplyScan :=
  if scan.voltageTracksRequest input then
    { scan with
      phase := .rapidWarmup
      previous := some input
      rapidTrackingConfirmations := 0
      lastRapidProbeTemperatureCentiC := none
      changedAtMs := input.nowMs.toNat }
  else scan.beginSourceBoundaryRecovery input

def sweep : SupplyScan :=
  match scan.previous with
  | none =>
      let observed := { scan with lastTracking := some (scan.point input) }
      let tracked := observed.retainNormalTracking input
      { tracked with previous := some input }.probeNextVoltage input
  | some previous =>
      if scan.isRapid && !scan.voltageTracksRequest input then
        scan.beginSourceBoundaryRecovery input
      else if scan.isRapid && decide (scan.sourceMaxMv ≤ scan.requestMv) then
        scan.sweepAtCeiling input
      else scan.sweepResponse input previous

/-! ### The rapid warm-up -/

/-- The failed request, when it lies at most 500 mV above the current one. -/
def retestMv : Option ℕ :=
  scan.rapidFailedProbeMv.filter fun failed =>
    scan.requestMv < failed && decide (failed - scan.requestMv ≤ rapidFineRetestWindowMv)

def nextRequestMv : ℕ :=
  min (scan.retestMv.getD (saturatingAddU16 scan.requestMv scan.rapidProbeStepMv)) scan.sourceMaxMv

def beginRapidVoltageReprobe : SupplyScan :=
  if scan.nextRequestMv ≤ scan.requestMv then { scan with phase := .complete }
  else
    { scan with
      phase := .sweep
      normalProbe := false
      previous := some input
      lastTracking := some ({ scan with normalProbe := false }.point input)
      flatRequestMv := 0
      flatCount := 0
      ambiguousCount := 0
      equilibrium := {}
      stageStartedMs := input.nowMs.toNat
      rapidTrackingConfirmations := 0
      lastRapidProbeTemperatureCentiC := some input.temperatureCentiC
      rapidProbeSinceBoundary := true
      requestMv := scan.nextRequestMv
      requestMa := 3000
      changedAtMs := input.nowMs.toNat }

/-- `none` when the hot boundary asks for nothing. -/
def handleRapidHotBoundary : Option SupplyScan :=
  if !scan.hotBoundaryReached || decide (input.temperatureCentiC < minBoundaryCoverageCentiC) then
    none
  else if rapidSourceCeilingConfirmations ≤ scan.rapidFailedProbeCount then
    some (scan.beginTerminalProbeOrComplete input)
  else if scan.rapidFailedProbeMv.any fun failed => scan.requestMv < failed then
    some (scan.beginRapidVoltageReprobe input)
  else none

/-- The plate is ten degrees warmer than at the last probe. -/
def rapidHotHoldReady : Bool :=
  scan.lastRapidProbeTemperatureCentiC.any fun previous =>
    rapidReprobeStepCentiC ≤ saturatingSubI16 input.temperatureCentiC previous

def rapidReprobeDue : Bool :=
  if scan.rapidBoundaryReached then
    !scan.rapidProbeSinceBoundary || scan.rapidHotHoldReady input ||
      scan.rapidFailedProbeMv.any fun failed => failed ≤ scan.requestMv
  else scan.rapidHotHoldReady input

/-- The third branch of the source repeats the first. -/
def confirmedWarmup : SupplyScan :=
  let scan := scan.retainNormalTracking input
  match scan.handleRapidHotBoundary input with
  | some scan => scan
  | none =>
      if scan.rapidReprobeDue input && decide (scan.requestMv < scan.sourceMaxMv) then
        scan.beginRapidVoltageReprobe input
      else if decide (minBoundaryCoverageCentiC ≤ input.temperatureCentiC) &&
          decide (scan.sourceMaxMv ≤ scan.requestMv) && scan.rapidHotHoldReady input then
        scan.beginTerminalProbeOrComplete input
      else if !scan.rapidBoundaryReached && decide (scan.requestMv < scan.sourceMaxMv) &&
          scan.rapidHotHoldReady input then
        scan.beginRapidVoltageReprobe input
      else scan.hold input

def rapidWarmup : SupplyScan :=
  if !input.confirmed || input.physicalPercent != 100 then scan.hold input
  else if !scan.voltageTracksRequest input then scan.beginSourceBoundaryRecovery input
  else
    let scan := { scan with
      lastRapidProbeTemperatureCentiC :=
        some (scan.lastRapidProbeTemperatureCentiC.getD input.temperatureCentiC)
      rapidTrackingConfirmations := min 255 (scan.rapidTrackingConfirmations + 1) }
    if 2 ≤ scan.rapidTrackingConfirmations then scan.confirmedWarmup input
    else scan.hold input

/-! ### Recovery and equilibrium -/

/-- The heater is not yet in the state that the recovery needs. -/
def recoveryBlocked : Bool :=
  !input.confirmed ||
    (scan.rapidSameCurrentRecovery && input.physicalPercent != 100) ||
    (!scan.rapidSameCurrentRecovery && input.physicalPercent != 0)

def probeRecovery : SupplyScan :=
  if scan.recoveryBlocked input then scan.hold input
  else
    let returnRequestMv := max scan.returnRequestMv scan.sourceMinMv
    if scan.requestMv = returnRequestMv then { scan.hold input with phase := .sweep }
    else
      scan.change input (max (scan.requestMv - probeRecoveryStepMv) returnRequestMv)
        scan.returnCurrentMa

def sourceBoundaryRecovery : SupplyScan :=
  if scan.recoveryBlocked input then scan.hold input
  else if input.nowMs.toNat - scan.changedAtMs < scan.settleMs then scan
  else
    { scan with
      phase := .rapidWarmup
      previous := none
      flatRequestMv := 0
      rapidTrackingConfirmations := 0
      lastRapidProbeTemperatureCentiC :=
        if scan.rapidProbeSinceBoundary then scan.lastRapidProbeTemperatureCentiC else none
      changedAtMs := input.nowMs.toNat }

def finishThreeAmpEquilibrium : SupplyScan :=
  let scanCeilingReached := scan.lastTracking.any fun point =>
    decide (scan.sourceMaxMv ≤ saturatingAddU16 point.trackingRequestMv.toNat 100)
  if decide (minThermalCoverageCentiC ≤ input.temperatureCentiC) || scanCeilingReached then
    { scan with phase := .complete }
  else
    { scan with
      phase := .sweep
      previous := none
      lastTracking := none
      flatCount := 0
      ambiguousCount := 0
      flatRequestMv := 0
      equilibrium := {} }.probeNextVoltage input

def equilibriumReached : SupplyScan :=
  let scan := { scan with lastTracking := some (scan.point input) }.retainTracking
  if scan.requestMa = 3000 then scan.finishThreeAmpEquilibrium input
  else scan.beginThreeAmpProbe input

def observeEquilibrium : SupplyScan :=
  let observed := scan.equilibrium.observe input.nowMs.toNat input.temperatureCentiC
  let scan := { scan with equilibrium := observed.2 }
  if observed.1 then scan.equilibriumReached input
  else if scan.previous.any fun previous =>
      100 < input.temperatureCentiC - previous.temperatureCentiC then
    { scan with
      phase := .sweep
      previous := some input
      flatCount := 0
      flatRequestMv := 0
      equilibrium := {} }.probeNextVoltage input
  else scan

/-! ### Phases -/

def baseline : SupplyScan :=
  if input.physicalPercent ≠ 0 then scan.fail .supplyUnstable
  else
    { scan.hold input with
      baselineVinMv := input.vinMv.toNat
      baselineRequestMv := scan.requestMv
      phase := .preflight }

def preflight : SupplyScan :=
  if input.vinMv.toNat < scan.preflightMinVinMv then scan.fail .supplyUnstable
  else
    match scan.previous with
    | none => { scan.hold input with previous := some input }
    | some previous =>
        if input.vinMv.toNat * 100 < previous.vinMv.toNat * 99 then scan.fail .supplyUnstable
        else
          { scan with
            requestMa := if scan.isRapid then 3000 else minHeatedCurrentMa.toNat
            phase := .sweep
            previous := none
            normalProbe := false
            returnRequestMv := scan.sourceMinMv
            lastTracking := none
            flatRequestMv := 0
            flatCount := 0
            ambiguousCount := 0
            equilibrium := {}
            stageStartedMs := input.nowMs.toNat
            requestMv := scan.sourceMinMv
            changedAtMs := input.nowMs.toNat }

def preflightRecovery : SupplyScan :=
  if input.physicalPercent ≠ 0 ∨ input.vinMv.toNat < scan.preflightMinVinMv then
    scan.fail .supplyUnstable
  else { scan.hold input with phase := .sweep }

def temperatureSettle : SupplyScan :=
  let observed := scan.equilibrium.observe input.nowMs.toNat input.temperatureCentiC
  if observed.1 then { scan with equilibrium := observed.2, phase := .sweep, previous := none }
  else { scan with equilibrium := observed.2 }

/-- The phases in which the heater need not be on. -/
def advancesUnloaded : Bool :=
  scan.phase == .baseline || scan.phase == .preflight || scan.phase == .preflightRecovery ||
    scan.phase == .probeRecovery || scan.phase == .sourceBoundaryRecovery

def advance : SupplyScan :=
  if !scan.advancesUnloaded && input.physicalPercent != 100 then scan.hold input
  else
    match scan.phase with
    | .baseline => scan.baseline input
    | .preflight => scan.preflight input
    | .preflightRecovery => scan.preflightRecovery input
    | .probeRecovery => scan.probeRecovery input
    | .sourceBoundaryRecovery => scan.sourceBoundaryRecovery input
    | .sweep => scan.sweep input
    | .rapidWarmup => scan.rapidWarmup input
    | .terminalProbe => scan.terminalProbe input
    | .temperatureSettle => scan.temperatureSettle input
    | .equilibrium => scan.observeEquilibrium input
    | .complete | .failed => scan

/-! ### Samples -/

def cutOff : SupplyScan :=
  let retained := { scan with
    cutoffReached := true
    boundary := { scan.boundary with cutoffReached := true } }.retainTracking
  { retained with phase := .complete }

/-- The sample is refused: no reading, or a code of more than twelve bits. -/
def sampleIsInvalid : Bool :=
  input.rtdMv == 0 || input.vinMv == 0 || decide (4095 < input.rtdCode) ||
    decide (4095 < input.vinCode)

def normalProbeTimedOut : Bool :=
  scan.normalProbe && decide (normalProbeTimeoutMs ≤ input.nowMs.toNat - scan.normalProbeStartedMs)

def stageTimedOut : Bool := decide (stageTimeoutMs < input.nowMs.toNat - scan.stageStartedMs)

def coverageProbeDue : Bool :=
  decide (threeAmpCoverageStartCentiC ≤ input.temperatureCentiC) &&
    decide (scan.requestMa < 3000) && !scan.normalProbe &&
    (scan.phase == .sweep || scan.phase == .temperatureSettle) &&
    scan.lastNormalProbeTemperatureCentiC.all fun previous =>
      decide (normalProbeMinTemperatureStepCentiC ≤
        saturatingSubI16 input.temperatureCentiC previous)

/-- The branches of `update`, the first that applies. -/
def respond (stabilityTemperatureCentiC : ℤ) : SupplyScan :=
  if input.wifiStarted ≠ scan.boundary.wifiStarted then scan.fail .wifiChanged
  else if sampleIsInvalid input then scan.fail .invalidSample
  else if minThermalCoverageCentiC ≤ input.temperatureCentiC then scan.cutOff
  else if scan.normalProbeTimedOut input then scan.finishNormalProbe input
  else if scan.stageTimedOut input then scan.handleStageTimeout input
  else if scan.coverageProbeDue input then scan.beginThreeAmpProbe input
  else if !input.confirmed then scan.hold input
  else if scan.settleMs ≤ input.nowMs.toNat - scan.changedAtMs then
    scan.advance { input with temperatureCentiC := stabilityTemperatureCentiC }
  else scan

/-- The output is that of the new state. -/
def update : SupplyScan :=
  if scan.phase = .complete ∨ scan.phase = .failed then scan
  else
    let filtered := scan.filteredTemperature input.temperatureCentiC
    { scan with stabilityTemperatureCentiC := some filtered }.respond input (clampI16 filtered)

end SupplyScan

end FluxPurr.Supply
