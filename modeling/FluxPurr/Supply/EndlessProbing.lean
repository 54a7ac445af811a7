import FluxPurr.Supply.ScanTermination

/-!
# A scan that probes until its clock ends

A terminal probe that does not track goes back to the operational ceiling and the warm-up.  After
two failures of the hot plate the warm-up begins the next terminal probe as soon as it has
confirmed its request, at any temperature and for any source whose ceiling tracks.  Four samples
lead back to the same scan (`Cycling.cycle`), and the clock of the stage has started again.
-/

namespace FluxPurr.Supply

namespace SupplyScan

variable {scan : SupplyScan}

/-- A sample of a plate that stays at 120 °C. -/
def hotSample (nowMs : ℕ) (physicalPercent : ℕ) (vinMv : UInt16) : ScanInput :=
  sampleAt nowMs.toUInt32 12000 physicalPercent vinMv

theorem toNat_hotSample {nowMs physicalPercent : ℕ} {vinMv : UInt16} (h : nowMs < 2 ^ 32) :
    (hotSample nowMs physicalPercent vinMv).nowMs.toNat = nowMs :=
  UInt32.toNat_ofNat_of_lt' h

/-! ## Samples that are answered -/

/-- What a sample of the hot plate finds in a running rapid scan. -/
structure HotPlate (scan : SupplyScan) (nowMs : ℕ) : Prop where
  running : scan.phase ≠ .complete ∧ scan.phase ≠ .failed
  mode : scan.mode = .rapid
  wifi : scan.boundary.wifiStarted = false
  temperature : scan.stabilityTemperatureCentiC = some 12000
  probe : scan.normalProbe = false
  coverage : scan.requestMa = 3000 ∨ scan.phase = .terminalProbe
  clock : nowMs < 2 ^ 32
  stage : nowMs ≤ scan.stageStartedMs + stageTimeoutMs
  settled : scan.changedAtMs + rapidSettleTimeMs ≤ nowMs
  settles : scan.phase ≠ .temperatureSettle

section HotPlate

variable {nowMs : ℕ} {vinMv : UInt16} (h : scan.HotPlate nowMs)
include h

theorem HotPlate.coverageProbeDue : scan.coverageProbeDue (hotSample nowMs 100 vinMv) = false := by
  unfold SupplyScan.coverageProbeDue
  rcases h.coverage with hma | hphase
  · simp [hma]
  · simp [hphase]

theorem HotPlate.settleMs : scan.settleMs = rapidSettleTimeMs := by
  have hsettles := h.settles
  unfold SupplyScan.settleMs
  rw [h.mode]
  split
  case h_1 hphase => exact absurd hphase hsettles
  case h_2 hmode => cases hmode
  case h_3 => rfl

theorem HotPlate.update (hvin : vinMv ≠ 0) :
    scan.update (hotSample nowMs 100 vinMv) = scan.advance (hotSample nowMs 100 vinMv) := by
  have hnow : (hotSample nowMs 100 vinMv).nowMs.toNat = nowMs := toNat_hotSample h.clock
  have hfiltered : scan.filteredTemperature (hotSample nowMs 100 vinMv).temperatureCentiC
      = 12000 := by
    unfold filteredTemperature
    rw [h.temperature]
    rfl
  have hwifi : (hotSample nowMs 100 vinMv).wifiStarted = scan.boundary.wifiStarted := h.wifi.symm
  have hcool : ¬ minThermalCoverageCentiC ≤ (hotSample nowMs 100 vinMv).temperatureCentiC := by
    show ¬ (22000 : ℤ) ≤ 12000
    decide
  have hconfirmed : ¬ (!(hotSample nowMs 100 vinMv).confirmed) = true := Bool.false_ne_true
  have hvalid : sampleIsInvalid (hotSample nowMs 100 vinMv) = false := by
    simp [sampleIsInvalid, hotSample, sampleAt, hvin]
  have htimeout : scan.stageTimedOut (hotSample nowMs 100 vinMv) = false := by
    have hstage := h.stage
    simp only [stageTimedOut, hnow, decide_eq_false_iff_not]
    omega
  have hsettled : scan.settleMs ≤ (hotSample nowMs 100 vinMv).nowMs.toNat - scan.changedAtMs := by
    have hchanged := h.settled
    rw [hnow, h.settleMs]
    omega
  have hnormal : scan.normalProbeTimedOut (hotSample nowMs 100 vinMv) = false := by
    simp [normalProbeTimedOut, h.probe]
  unfold SupplyScan.update
  rw [if_neg (not_or.mpr h.running), hfiltered]
  dsimp only
  rw [← h.temperature]
  unfold respond
  rw [if_neg (not_not.mpr hwifi), if_neg (by rw [hvalid]; decide), if_neg hcool,
    if_neg (by rw [hnormal]; decide), if_neg (by rw [htimeout]; decide),
    if_neg (by rw [h.coverageProbeDue]; decide), if_neg hconfirmed, if_pos hsettled]
  rfl

end HotPlate

variable {nowMs : ℕ} {vinMv : UInt16}

theorem not_unheated (scan : SupplyScan) : ¬ (!scan.advancesUnloaded &&
    (hotSample nowMs 100 vinMv).physicalPercent != 100) = true := by
  show ¬ (!scan.advancesUnloaded && false) = true
  simp

theorem not_unanswered : ¬ (!(hotSample nowMs 100 vinMv).confirmed ||
    (hotSample nowMs 100 vinMv).physicalPercent != 100) = true := Bool.false_ne_true

theorem advance_sagging (hphase : scan.phase = .terminalProbe)
    (hsag : scan.voltageTracksRequest (hotSample nowMs 100 vinMv) = false) :
    scan.advance (hotSample nowMs 100 vinMv) =
      scan.leaveTerminalProbe (hotSample nowMs 100 vinMv) := by
  unfold advance
  rw [if_neg scan.not_unheated, hphase]
  dsimp only
  unfold terminalProbe
  rw [if_neg not_unanswered, hsag]
  exact if_pos rfl

theorem advance_recovering (hmode : scan.mode = .rapid)
    (hphase : scan.phase = .sourceBoundaryRecovery) (hclock : nowMs < 2 ^ 32)
    (hsettled : scan.changedAtMs + rapidSettleTimeMs ≤ nowMs) :
    scan.advance (hotSample nowMs 100 vinMv) =
      { scan with
        phase := .rapidWarmup
        previous := none
        flatRequestMv := 0
        rapidTrackingConfirmations := 0
        lastRapidProbeTemperatureCentiC :=
          if scan.rapidProbeSinceBoundary then scan.lastRapidProbeTemperatureCentiC else none
        changedAtMs := nowMs } := by
  have hnow : (hotSample nowMs 100 vinMv).nowMs.toNat = nowMs := toNat_hotSample hclock
  have hblocked : scan.recoveryBlocked (hotSample nowMs 100 vinMv) = false := by
    simp [recoveryBlocked, rapidSameCurrentRecovery, isRapid, hmode, hphase, hotSample, sampleAt]
  have hwaited : ¬ (hotSample nowMs 100 vinMv).nowMs.toNat - scan.changedAtMs < scan.settleMs := by
    have hsettle : scan.settleMs = rapidSettleTimeMs := by simp [settleMs, hmode, hphase]
    rw [hnow, hsettle]
    omega
  unfold advance
  rw [if_neg scan.not_unheated, hphase]
  dsimp only
  unfold sourceBoundaryRecovery
  rw [hblocked, if_neg Bool.false_ne_true, if_neg hwaited, hnow]

theorem advance_rapidWarmup (hphase : scan.phase = .rapidWarmup) :
    scan.advance (hotSample nowMs 100 vinMv) = scan.rapidWarmup (hotSample nowMs 100 vinMv) := by
  unfold advance
  rw [if_neg scan.not_unheated, hphase]

/-- The warm-up confirms a request once before it looks for the next one. -/
theorem advance_confirming (hphase : scan.phase = .rapidWarmup) (hclock : nowMs < 2 ^ 32)
    (htracks : scan.voltageTracksRequest (hotSample nowMs 100 vinMv) = true)
    (hfirst : scan.rapidTrackingConfirmations = 0) :
    scan.advance (hotSample nowMs 100 vinMv) =
      { scan with
        lastRapidProbeTemperatureCentiC := some (scan.lastRapidProbeTemperatureCentiC.getD 12000)
        rapidTrackingConfirmations := 1
        changedAtMs := nowMs } := by
  have hnow : (hotSample nowMs 100 vinMv).nowMs.toNat = nowMs := toNat_hotSample hclock
  rw [advance_rapidWarmup hphase]
  unfold rapidWarmup
  rw [if_neg not_unanswered, htracks, hfirst]
  show hold _ _ = _
  unfold hold
  rw [hnow]
  rfl

/-- The bin of the temperature holds an observation that is as strong. -/
def Binned (scan : SupplyScan) (temperature : ℤ) (requestMv : ℕ) : Prop :=
  (scan.normalBins[normalBin temperature].all fun previous =>
    decide (previous.trackingRequestMv < requestMv.toUInt16)) = false

theorem retainNormalTracking_of_binned {input : ScanInput} {temperature : ℤ}
    (htemperature : input.temperatureCentiC = temperature)
    (hbinned : scan.Binned temperature scan.requestMv) :
    scan.retainNormalTracking input = scan := by
  subst htemperature
  unfold retainNormalTracking
  split
  · rfl
  · exact if_neg fun hstronger => absurd (hbinned.symm.trans hstronger) (by decide)

/-- After two hot failures, a confirmed warm-up begins the terminal probe. -/
theorem confirmedWarmup_of_failures (scan : SupplyScan) (hbinned : scan.Binned 12000 scan.requestMv)
    (hhot : scan.hotBoundaryReached = true) (hfailures : 2 ≤ scan.rapidFailedProbeCount) :
    scan.confirmedWarmup (hotSample nowMs 100 vinMv) =
      scan.beginTerminalProbeOrComplete (hotSample nowMs 100 vinMv) := by
  have hwarm : ¬ (hotSample nowMs 100 vinMv).temperatureCentiC < minBoundaryCoverageCentiC := by
    show ¬ (12000 : ℤ) < 10000
    decide
  have hcovered : ¬ (!scan.hotBoundaryReached || decide
      ((hotSample nowMs 100 vinMv).temperatureCentiC < minBoundaryCoverageCentiC)) = true := by
    rw [hhot, decide_eq_false hwarm]
    exact Bool.false_ne_true
  have hretained : scan.retainNormalTracking (hotSample nowMs 100 vinMv) = scan :=
    retainNormalTracking_of_binned rfl hbinned
  have hboundary : scan.handleRapidHotBoundary (hotSample nowMs 100 vinMv) =
      some (scan.beginTerminalProbeOrComplete (hotSample nowMs 100 vinMv)) := by
    unfold handleRapidHotBoundary
    rw [if_neg hcovered]
    exact if_pos hfailures
  unfold confirmedWarmup
  rw [hretained]
  dsimp only
  rw [hboundary]

theorem beginTerminalProbe_of_target (scan : SupplyScan) {targetMv targetMa : ℕ}
    (hclock : nowMs < 2 ^ 32) (htarget : scan.terminalProbeTarget = some (targetMv, targetMa)) :
    scan.beginTerminalProbeOrComplete (hotSample nowMs 100 vinMv) =
      { scan with
        requestMv := targetMv
        requestMa := targetMa
        terminalProbeConfirmations := 0
        phase := .terminalProbe
        previous := none
        changedAtMs := nowMs
        stageStartedMs := nowMs } := by
  have hnow : (hotSample nowMs 100 vinMv).nowMs.toNat = nowMs := toNat_hotSample hclock
  unfold beginTerminalProbeOrComplete
  rw [htarget, hnow]

theorem advance_reentering (hphase : scan.phase = .rapidWarmup)
    (htracks : scan.voltageTracksRequest (hotSample nowMs 100 vinMv) = true)
    (hsecond : scan.rapidTrackingConfirmations = 1) :
    scan.advance (hotSample nowMs 100 vinMv) =
      confirmedWarmup { scan with
        lastRapidProbeTemperatureCentiC := some (scan.lastRapidProbeTemperatureCentiC.getD 12000)
        rapidTrackingConfirmations := 2 } (hotSample nowMs 100 vinMv) := by
  rw [advance_rapidWarmup hphase]
  unfold rapidWarmup
  rw [if_neg not_unanswered, htracks, hsecond]
  have htwo : 2 ≤ min 255 (1 + 1) := by decide
  exact (if_neg Bool.false_ne_true).trans (if_pos htwo)

/-! ## The cycle -/

/-- The terminal probe of a 60 W source with a ceiling of 20 V, after two hot failures and a
warm-up at the ceiling. -/
structure Cycling (scan : SupplyScan) : Prop where
  phase : scan.phase = .terminalProbe
  mode : scan.mode = .rapid
  wifi : scan.boundary.wifiStarted = false
  temperature : scan.stabilityTemperatureCentiC = some 12000
  probe : scan.normalProbe = false
  ceiling : scan.sourceMaxMv = 20000
  request : scan.requestMv = 21000
  target : scan.terminalProbeTarget = some (21000, scan.requestMa)
  baselineVin : scan.baselineVinMv = 2000
  baselineRequest : scan.baselineRequestMv = 20000
  tracking : scan.lastTracking = none
  binned : scan.Binned 12000 20000
  hot : scan.hotBoundaryReached = true
  failures : 2 ≤ scan.rapidFailedProbeCount
  previous : scan.previous = none
  returnRequest : scan.returnRequestMv = 20000
  returnCurrent : scan.returnCurrentMa = 3000
  confirmed : scan.rapidTrackingConfirmations = 2
  unconfirmed : scan.terminalProbeConfirmations = 0
  probed : scan.rapidProbeSinceBoundary = true
  lastProbe : scan.lastRapidProbeTemperatureCentiC = some 12000
  flat : scan.flatRequestMv = 0

/-- The same scan at another time. -/
def restarted (scan : SupplyScan) (nowMs : ℕ) : SupplyScan :=
  { scan with changedAtMs := nowMs, stageStartedMs := nowMs }

def sagged (scan : SupplyScan) (nowMs : ℕ) : SupplyScan :=
  { scan with
    terminalProbeConfirmations := 0
    phase := .sourceBoundaryRecovery
    previous := none
    returnRequestMv := scan.sourceMaxMv
    returnCurrentMa := 3000
    rapidTrackingConfirmations := 0
    rapidProbeSinceBoundary := true
    lastRapidProbeTemperatureCentiC := some 12000
    requestMv := scan.sourceMaxMv
    requestMa := 3000
    changedAtMs := nowMs }

def warming (scan : SupplyScan) (nowMs confirmations : ℕ) : SupplyScan :=
  { scan.sagged nowMs with
    phase := .rapidWarmup
    flatRequestMv := 0
    rapidTrackingConfirmations := confirmations }

section Cycling

variable (h : scan.Cycling) {startMs : ℕ}
include h

theorem Cycling.eta :
    { scan with
      terminalProbeConfirmations := 0
      phase := .terminalProbe
      previous := none
      returnRequestMv := scan.sourceMaxMv
      returnCurrentMa := 3000
      rapidTrackingConfirmations := 2
      rapidProbeSinceBoundary := true
      lastRapidProbeTemperatureCentiC := some 12000
      requestMv := 21000
      flatRequestMv := 0 } = scan := by
  have hrequest := h.request
  have hphase := h.phase
  have hprevious := h.previous
  have hreturn := h.returnRequest.trans h.ceiling.symm
  have hcurrent := h.returnCurrent
  have hconfirmed := h.confirmed
  have hunconfirmed := h.unconfirmed
  have hprobed := h.probed
  have hlast := h.lastProbe
  have hflat := h.flat
  clear h
  cases scan
  dsimp only at *
  subst hrequest hphase hprevious hcurrent hconfirmed hunconfirmed hprobed hlast hflat
  rw [← hreturn]

theorem Cycling.sags {nowMs : ℕ} :
    scan.voltageTracksRequest (hotSample nowMs 100 1000) = false := by
  unfold voltageTracksRequest
  rw [h.tracking, h.baselineVin, h.baselineRequest, h.request]
  simp [divCeil, hotSample, sampleAt]

theorem Cycling.tracks {startMs confirmations nowMs : ℕ} :
    (scan.warming startMs confirmations).voltageTracksRequest (hotSample nowMs 100 2000)
      = true := by
  have htracking : (scan.warming startMs confirmations).lastTracking = none := h.tracking
  have hvin : (scan.warming startMs confirmations).baselineVinMv = 2000 := h.baselineVin
  have hbaseline : (scan.warming startMs confirmations).baselineRequestMv = 20000 :=
    h.baselineRequest
  have hrequest : (scan.warming startMs confirmations).requestMv = 20000 := h.ceiling
  unfold voltageTracksRequest
  rw [htracking, hvin, hbaseline, hrequest]
  simp [divCeil, hotSample, sampleAt]

variable {startMs : ℕ} (hstage : scan.stageStartedMs = startMs)
  (hclock : startMs + 2000 < 2 ^ 32)
include hstage hclock

theorem Cycling.update_probe (hchanged : scan.changedAtMs = startMs) :
    scan.update (hotSample (startMs + 500) 100 1000) = scan.sagged (startMs + 500) := by
  have hlimit : stageTimeoutMs = 900000 := rfl
  have hsettle : rapidSettleTimeMs = 500 := rfl
  have hplate : scan.HotPlate (startMs + 500) :=
    { h with
      running := by rw [h.phase]; decide
      coverage := .inr h.phase
      clock := by omega
      stage := by omega
      settled := by omega
      settles := by rw [h.phase]; decide }
  have hnow : (hotSample (startMs + 500) 100 1000).nowMs.toNat = startMs + 500 :=
    toNat_hotSample (by omega)
  rw [hplate.update (by decide), advance_sagging h.phase h.sags]
  unfold leaveTerminalProbe
  rw [hnow]
  rfl

theorem Cycling.update_recovery :
    (scan.sagged (startMs + 500)).update (hotSample (startMs + 1000) 100 2000) =
      scan.warming (startMs + 1000) 0 := by
  have hlimit : stageTimeoutMs = 900000 := rfl
  have hsettle : rapidSettleTimeMs = 500 := rfl
  have hplate : (scan.sagged (startMs + 500)).HotPlate (startMs + 1000) :=
    { h with
      running := ⟨nofun, nofun⟩
      coverage := .inl rfl
      clock := by omega
      stage := by show _ ≤ scan.stageStartedMs + _; omega
      settled := by show startMs + 500 + _ ≤ _; omega
      settles := nofun }
  rw [hplate.update (by decide), advance_recovering hplate.mode rfl hplate.clock hplate.settled]
  rfl

theorem Cycling.plate_warming {nowMs confirmations : ℕ} (hfrom : startMs ≤ nowMs)
    (hto : nowMs + 500 ≤ startMs + 2000) :
    (scan.warming nowMs confirmations).HotPlate (nowMs + 500) := by
  have hlimit : stageTimeoutMs = 900000 := rfl
  have hsettle : rapidSettleTimeMs = 500 := rfl
  exact
    { h with
      running := ⟨nofun, nofun⟩
      coverage := .inl rfl
      clock := by omega
      stage := by show _ ≤ scan.stageStartedMs + _; omega
      settled := by show nowMs + _ ≤ _; omega
      settles := nofun }

theorem Cycling.update_first :
    (scan.warming (startMs + 1000) 0).update (hotSample (startMs + 1500) 100 2000) =
      scan.warming (startMs + 1500) 1 := by
  have hplate : (scan.warming (startMs + 1000) 0).HotPlate (startMs + 1500) :=
    h.plate_warming hstage hclock (by omega) (by omega)
  rw [hplate.update (by decide), advance_confirming rfl hplate.clock h.tracks rfl]
  rfl

theorem Cycling.update_second :
    (scan.warming (startMs + 1500) 1).update (hotSample (startMs + 2000) 100 2000) =
      scan.restarted (startMs + 2000) := by
  have hplate : (scan.warming (startMs + 1500) 1).HotPlate (startMs + 2000) :=
    h.plate_warming hstage hclock (by omega) (by omega)
  have hbinned : (scan.warming (startMs + 1500) 2).Binned 12000 scan.sourceMaxMv := by
    rw [h.ceiling]
    exact h.binned
  have hconfirmed : (scan.warming (startMs + 1500) 1).advance
      (hotSample (startMs + 2000) 100 2000) =
      (scan.warming (startMs + 1500) 2).confirmedWarmup (hotSample (startMs + 2000) 100 2000) :=
    advance_reentering rfl h.tracks rfl
  have htarget : (scan.warming (startMs + 1500) 2).terminalProbeTarget =
      some (21000, scan.requestMa) := h.target
  rw [hplate.update (by decide), hconfirmed,
    confirmedWarmup_of_failures _ hbinned h.hot h.failures,
    beginTerminalProbe_of_target _ hplate.clock htarget]
  exact congrArg (fun scan => scan.restarted (startMs + 2000)) h.eta

end Cycling

/-- The probe sags, and the ceiling tracks. -/
def cycle (startMs : ℕ) : List ScanInput :=
  [hotSample (startMs + 500) 100 1000, hotSample (startMs + 1000) 100 2000,
    hotSample (startMs + 1500) 100 2000, hotSample (startMs + 2000) 100 2000]

end SupplyScan

namespace ScanCourse

open SupplyScan

variable {course : ScanCourse} {startMs probes : ℕ}

/-- A terminal probe of the cycle has just begun. -/
structure Probing (course : ScanCourse) (startMs probes : ℕ) : Prop where
  cycling : course.scan.Cycling
  changed : course.scan.changedAtMs = startMs
  started : course.scan.stageStartedMs = startMs
  entries : course.entries = probes
  clock : course.clockMs = startMs

theorem entries_observe_of_entered {input : ScanInput}
    (hbefore : course.scan.phase ≠ .terminalProbe)
    (hafter : (course.scan.update input).phase = .terminalProbe) :
    (course.observe input).entries = course.entries + 1 :=
  if_pos ⟨hbefore, hafter⟩

/-- Before the last sample of a cycle the warm-up has confirmed its request once. -/
theorem Probing.scan_confirming (h : course.Probing startMs probes)
    (hclock : startMs + 2000 < 2 ^ 32) :
    (((cycle startMs).take 3).foldl observe course).scan =
      course.scan.warming (startMs + 1500) 1 := by
  show (((course.scan.update _).update _).update _) = _
  rw [h.cycling.update_probe h.started hclock h.changed,
    h.cycling.update_recovery h.started hclock, h.cycling.update_first h.started hclock]

/-- After the four samples of a cycle the scan is the same, at a later time. -/
theorem Probing.scan_cycle (h : course.Probing startMs probes) (hclock : startMs + 2000 < 2 ^ 32) :
    ((cycle startMs).foldl observe course).scan = course.scan.restarted (startMs + 2000) := by
  show (((cycle startMs).take 3).foldl observe course).scan.update _ = _
  rw [h.scan_confirming hclock, h.cycling.update_second h.started hclock]

theorem Probing.entries_cycle (h : course.Probing startMs probes)
    (hclock : startMs + 2000 < 2 ^ 32) :
    ((cycle startMs).foldl observe course).entries = probes + 1 := by
  have hleft : (course.observe (hotSample (startMs + 500) 100 1000)).scan =
      course.scan.sagged (startMs + 500) :=
    h.cycling.update_probe h.started hclock h.changed
  have hwarming : ((course.observe (hotSample (startMs + 500) 100 1000)).observe
      (hotSample (startMs + 1000) 100 2000)).scan = course.scan.warming (startMs + 1000) 0 := by
    show (course.observe _).scan.update _ = _
    rw [hleft, h.cycling.update_recovery h.started hclock]
  have hconfirming : (((course.observe (hotSample (startMs + 500) 100 1000)).observe
      (hotSample (startMs + 1000) 100 2000)).observe (hotSample (startMs + 1500) 100 2000)).scan =
      course.scan.warming (startMs + 1500) 1 := h.scan_confirming hclock
  have hentered : (course.scan.warming (startMs + 1500) 1).update
      (hotSample (startMs + 2000) 100 2000) = course.scan.restarted (startMs + 2000) :=
    h.cycling.update_second h.started hclock
  -- only the last sample enters the probe
  show ((((course.observe _).observe _).observe _).observe _).entries = probes + 1
  have hfirst : (course.scan.warming (startMs + 1500) 1).phase ≠ .terminalProbe := nofun
  have hrecovered : (course.scan.warming (startMs + 1000) 0).phase ≠ .terminalProbe := nofun
  rw [entries_observe_of_entered (by rw [hconfirming]; nofun)
      (by rw [hconfirming, hentered]; exact h.cycling.phase),
    entries_observe_of_not_entered fun hphase => ?_,
    entries_observe_of_not_entered fun hphase => ?_,
    entries_observe_of_not_entered fun _ => h.cycling.phase, h.entries]
  · exact absurd ((congrArg SupplyScan.phase hwarming).symm.trans hphase) hrecovered
  · exact absurd ((congrArg SupplyScan.phase hconfirming).symm.trans hphase) hfirst

theorem Probing.cycle (h : course.Probing startMs probes) (hclock : startMs + 2000 < 2 ^ 32) :
    ((SupplyScan.cycle startMs).foldl observe course).Probing (startMs + 2000) (probes + 1) := by
  have hscan := h.scan_cycle hclock
  have hcycling : (course.scan.restarted (startMs + 2000)).Cycling := { h.cycling with }
  exact
    { cycling := hscan ▸ hcycling
      changed := by rw [hscan]; rfl
      started := by rw [hscan]; rfl
      entries := h.entries_cycle hclock
      clock := by
        show (hotSample (startMs + 2000) 100 2000).nowMs.toNat = startMs + 2000
        exact toNat_hotSample hclock }

/-! ### The source of the cycle -/

/-- A 60 W source whose ceiling lies a volt above its floor. -/
def saggingSource : SupplyBoundary where
  adc := { dividerSupplyMv := 3300 }
  sourceMinMv := 19000
  sourceMaxMv := 20000
  sourceMaxMa := 3000
  sourcePowerLimitMw := 60000
  advertisedMinMv := 3300
  advertisedMaxMv := 21000

def saggingStart : SupplyScan := (newRapid saggingSource).get rfl

/-- The request above the floor fails twice at 120 °C; then the terminal probe sags once. -/
def samplesToCycle : List ScanInput :=
  [hotSample 1795 0 2000, hotSample 2295 0 2000, hotSample 2795 0 2000, hotSample 3295 100 1900,
    hotSample 3795 100 1000, hotSample 4295 100 1900, hotSample 4795 100 1900,
    hotSample 5295 100 1900, hotSample 5795 100 1000, hotSample 6295 100 1900,
    hotSample 6795 100 1900, hotSample 7295 100 1900, hotSample 7795 100 1000,
    hotSample 8295 100 2000, hotSample 8795 100 2000, hotSample 9295 100 2000]

def cycleStartMs (probes : ℕ) : ℕ := 9295 + 2000 * probes

theorem cycleStartMs_succ (probes : ℕ) :
    cycleStartMs (probes + 1) = cycleStartMs probes + 2000 := by
  unfold cycleStartMs
  rw [Nat.mul_succ, Nat.add_assoc]

def cycles : ℕ → List ScanInput
  | 0 => samplesToCycle
  | probes + 1 => cycles probes ++ cycle (cycleStartMs probes)

theorem probing_samplesToCycle :
    (samplesToCycle.foldl observe { scan := saggingStart }).Probing 9295 2 where
  cycling :=
    { phase := by decide +kernel
      mode := by decide +kernel
      wifi := by decide +kernel
      temperature := by decide +kernel
      probe := by decide +kernel
      ceiling := by decide +kernel
      request := by decide +kernel
      target := by decide +kernel
      baselineVin := by decide +kernel
      baselineRequest := by decide +kernel
      tracking := by decide +kernel
      binned := by unfold Binned; decide +kernel
      hot := by decide +kernel
      failures := by decide +kernel
      previous := by decide +kernel
      returnRequest := by decide +kernel
      returnCurrent := by decide +kernel
      confirmed := by decide +kernel
      unconfirmed := by decide +kernel
      probed := by decide +kernel
      lastProbe := by decide +kernel
      flat := by decide +kernel }
  changed := by decide +kernel
  started := by decide +kernel
  entries := by decide +kernel
  clock := by decide +kernel

theorem probing_cycles (probes : ℕ) (hclock : cycleStartMs probes < 2 ^ 32) :
    ((cycles probes).foldl observe { scan := saggingStart }).Probing (cycleStartMs probes)
      (2 + probes) := by
  induction probes with
  | zero => exact probing_samplesToCycle
  | succ probes ih =>
    rw [cycleStartMs_succ] at hclock ⊢
    have hbefore := ih (by omega)
    rw [cycles, List.foldl_append]
    exact hbefore.cycle hclock

/-! ### Samples in order -/

def Ordered (inputs : List ScanInput) : Prop :=
  inputs.Pairwise fun earlier later => earlier.nowMs ≤ later.nowMs

theorem hotSample_le {earlierMs laterMs : ℕ} {earlierVin laterVin : UInt16}
    (hle : earlierMs ≤ laterMs) (hclock : laterMs < 2 ^ 32) :
    (hotSample earlierMs 100 earlierVin).nowMs ≤ (hotSample laterMs 100 laterVin).nowMs := by
  rw [UInt32.le_iff_toNat_le, toNat_hotSample (hle.trans_lt hclock), toNat_hotSample hclock]
  exact hle

theorem toNat_mem_cycle {input : ScanInput} (hclock : startMs + 2000 < 2 ^ 32)
    (h : input ∈ cycle startMs) :
    startMs ≤ input.nowMs.toNat ∧ input.nowMs.toNat ≤ startMs + 2000 := by
  simp only [cycle, List.mem_cons, List.not_mem_nil, or_false] at h
  rcases h with rfl | rfl | rfl | rfl <;> rw [toNat_hotSample (by omega)] <;> omega

theorem ordered_cycle (hclock : startMs + 2000 < 2 ^ 32) : Ordered (cycle startMs) := by
  have hle (earlierMs laterMs : ℕ) (earlierVin laterVin : UInt16) (hle : earlierMs ≤ laterMs)
      (hlast : laterMs ≤ startMs + 2000) :
      (hotSample earlierMs 100 earlierVin).nowMs ≤ (hotSample laterMs 100 laterVin).nowMs :=
    hotSample_le hle (hlast.trans_lt hclock)
  simp only [Ordered, cycle, List.pairwise_cons, List.mem_cons, List.not_mem_nil, or_false,
    forall_eq_or_imp, forall_eq, false_imp_iff, implies_true, List.Pairwise.nil, and_true]
  refine ⟨⟨?_, ?_, ?_⟩, ⟨?_, ?_⟩, ?_⟩ <;> exact hle _ _ _ _ (by omega) (by omega)

theorem toNat_mem_cycles {input : ScanInput} (probes : ℕ) (hclock : cycleStartMs probes < 2 ^ 32)
    (h : input ∈ cycles probes) : input.nowMs.toNat ≤ cycleStartMs probes := by
  induction probes with
  | zero =>
    have hall : ∀ input ∈ samplesToCycle, input.nowMs.toNat ≤ cycleStartMs 0 := by decide +kernel
    exact hall input h
  | succ probes ih =>
    rw [cycleStartMs_succ] at hclock ⊢
    rcases List.mem_append.mp h with hbefore | hcycle
    · exact (ih (by omega) hbefore).trans (Nat.le_add_right _ _)
    · exact (toNat_mem_cycle hclock hcycle).2

theorem ordered_cycles (probes : ℕ) (hclock : cycleStartMs probes < 2 ^ 32) :
    Ordered (cycles probes) := by
  induction probes with
  | zero =>
    show samplesToCycle.Pairwise fun earlier later => earlier.nowMs ≤ later.nowMs
    decide +kernel
  | succ probes ih =>
    rw [cycleStartMs_succ] at hclock
    have hbefore : cycleStartMs probes < 2 ^ 32 := by omega
    refine List.pairwise_append.mpr ⟨ih hbefore, ordered_cycle hclock, ?_⟩
    intro earlier hearlier later hlater
    have hfirst := toNat_mem_cycles probes hbefore hearlier
    have hsecond := (toNat_mem_cycle hclock hlater).1
    exact UInt32.le_iff_toNat_le.mpr (hfirst.trans hsecond)

/-- The measure does not read the clock, no sample raises it, and each entry into the terminal
probe lowers it. -/
structure ClocklessMeasure (measure : SupplyScan → ℕ) : Prop where
  clockless : ∀ scan changedAtMs stageStartedMs,
    measure { scan with changedAtMs, stageStartedMs } = measure scan
  falls : ∀ (boundary : SupplyBoundary) (start : SupplyScan) (inputs : List ScanInput)
    (input : ScanInput), newRapid boundary = some start → Ordered (inputs ++ [input]) →
      measure ((inputs ++ [input]).foldl observe { scan := start }).scan ≤
          measure (inputs.foldl observe { scan := start }).scan ∧
        ((inputs.foldl observe { scan := start }).scan.phase ≠ .terminalProbe →
          ((inputs ++ [input]).foldl observe { scan := start }).scan.phase = .terminalProbe →
          measure ((inputs ++ [input]).foldl observe { scan := start }).scan <
            measure (inputs.foldl observe { scan := start }).scan)

/-- The measure would go down at the last sample of a cycle and come back to where it was. -/
theorem not_clocklessMeasure (measure : SupplyScan → ℕ) : ¬ ClocklessMeasure measure := by
  rintro ⟨hclockless, hmeasure⟩
  have hnew : newRapid saggingSource = some saggingStart := rfl
  have hnow := probing_samplesToCycle
  have hall : Ordered (samplesToCycle ++ cycle 9295) := ordered_cycles 1 (by decide)
  have hsame : measure ((samplesToCycle ++ cycle 9295).foldl observe { scan := saggingStart }).scan
      = measure (samplesToCycle.foldl observe { scan := saggingStart }).scan := by
    rw [List.foldl_append, hnow.scan_cycle (by decide)]
    exact hclockless _ _ _
  have hdown : ∀ rest : List ScanInput, Ordered (samplesToCycle ++ rest) →
      measure ((samplesToCycle ++ rest).foldl observe { scan := saggingStart }).scan ≤
        measure (samplesToCycle.foldl observe { scan := saggingStart }).scan := by
    intro rest
    induction rest using List.reverseRecOn with
    | nil =>
      rw [List.append_nil]
      exact fun _ => le_rfl
    | append_singleton rest last ih =>
      intro hrest
      rw [← List.append_assoc] at hrest ⊢
      have hprefix : Ordered (samplesToCycle ++ rest) := (List.pairwise_append.mp hrest).1
      exact (hmeasure _ _ _ _ hnew hrest).1.trans (ih hprefix)
  have hcycle : samplesToCycle ++ cycle 9295 =
      (samplesToCycle ++ (cycle 9295).take 3) ++ [hotSample 11295 100 2000] := by
    rw [List.append_assoc]
    rfl
  rw [hcycle] at hall hsame
  have hthree : Ordered (samplesToCycle ++ (cycle 9295).take 3) := (List.pairwise_append.mp hall).1
  have hbefore : ((samplesToCycle ++ (cycle 9295).take 3).foldl observe
      { scan := saggingStart }).scan.phase ≠ .terminalProbe := by
    rw [List.foldl_append, hnow.scan_confirming (by decide)]
    nofun
  have hafter : (((samplesToCycle ++ (cycle 9295).take 3) ++
      [hotSample 11295 100 2000]).foldl observe { scan := saggingStart }).scan.phase =
      .terminalProbe := by
    rw [← hcycle, List.foldl_append, hnow.scan_cycle (by decide)]
    exact hnow.cycling.phase
  have hlower := (hmeasure _ _ _ _ hnew hall).2 hbefore hafter
  rw [hsame] at hlower
  exact absurd hlower (not_lt.mpr (hdown _ hthree))

/-- Neither the probes nor the time are bounded but by the 32 bits of the clock, and no measure
that does not read the clock goes down with each probe. -/
theorem probes_until_clock_ends :
    (¬ ∀ boundary : SupplyBoundary, ∃ probes < 2147481, ∀ (start : SupplyScan)
      (inputs : List ScanInput), newRapid boundary = some start → Ordered inputs →
        (inputs.foldl observe { scan := start }).entries ≤ probes) ∧
    (¬ ∀ (boundary : SupplyBoundary) (start : SupplyScan) (inputs : List ScanInput),
      newRapid boundary = some start → Ordered inputs →
        (inputs.foldl observe { scan := start }).clockMs = 2 ^ 32 - 1 →
        (inputs.foldl observe { scan := start }).scan.phase = .complete ∨
          (inputs.foldl observe { scan := start }).scan.phase = .failed) ∧
    ¬ ∃ measure : SupplyScan → ℕ, ClocklessMeasure measure := by
  have hnew : newRapid saggingSource = some saggingStart := rfl
  have hprobing := probing_cycles 2147479 (by decide)
  have hordered := ordered_cycles 2147479 (by decide)
  refine ⟨?_, ?_, ?_⟩
  · intro h
    obtain ⟨probes, hfew, hbound⟩ := h saggingSource
    have hentries := hbound saggingStart _ hnew hordered
    rw [hprobing.entries] at hentries
    omega
  · intro h
    have hended := h saggingSource saggingStart _ hnew hordered hprobing.clock
    rw [hprobing.cycling.phase] at hended
    exact absurd hended (by decide)
  · rintro ⟨measure, hmeasure⟩
    exact not_clocklessMeasure measure hmeasure

end ScanCourse

end FluxPurr.Supply
