import FluxPurr.Supply.ScanSteps

/-!
# What the probes of a rapid scan depend on

`ProbeState` is the part of the scan that decides when the next probe begins and when the stage
clock starts again, and `ProbeStep` lists what one sample can make of it.  `probeStep_update`
says that the rapid scan does nothing else, as long as no probe is wasted (`MakesProgress`).
-/

namespace FluxPurr.Supply

structure ProbeState where
  phase : ScanPhase
  mode : ScanMode
  normalProbe : Bool
  requestMv : ℕ
  requestMa : ℕ
  sourceMaxMv : ℕ
  stageStartedMs : ℕ
  rapidBoundaryReached : Bool
  rapidProbeSinceBoundary : Bool
  rapidFailedProbeMv : Option ℕ
  rapidFailedProbeCount : ℕ
  hotBoundaryReached : Bool
  lastRapidProbeTemperatureCentiC : Option ℤ

namespace ProbeState

variable (state : ProbeState)

def Ended : Prop := state.phase = .complete ∨ state.phase = .failed

/-- The request did not track at this temperature, and the scan falls back to a lower one. -/
def fellBack (temperature : ℤ) (requestMv : ℕ) : ProbeState :=
  { state with
    phase := .sourceBoundaryRecovery
    normalProbe := false
    requestMv
    rapidBoundaryReached := true
    rapidFailedProbeMv := some state.requestMv
    rapidFailedProbeCount :=
      if minBoundaryCoverageCentiC ≤ temperature then min 255 (state.rapidFailedProbeCount + 1)
      else 0
    hotBoundaryReached := minBoundaryCoverageCentiC ≤ temperature }

/-- The warm-up confirms its request, and holds it. -/
def warmed (temperature : ℤ) : ProbeState :=
  { state with
    lastRapidProbeTemperatureCentiC :=
      some (state.lastRapidProbeTemperatureCentiC.getD temperature) }

/-- The sweep begins again above the request. -/
def reprobed (nowMs : ℕ) (temperature : ℤ) (requestMv : ℕ) : ProbeState :=
  { state with
    phase := .sweep
    normalProbe := false
    requestMv
    requestMa := 3000
    stageStartedMs := nowMs
    rapidProbeSinceBoundary := true
    lastRapidProbeTemperatureCentiC := some temperature }

/-- The probe above the operational range begins. -/
def terminal (nowMs : ℕ) (requestMv requestMa : ℕ) : ProbeState :=
  { state with
    phase := .terminalProbe
    requestMv
    requestMa
    stageStartedMs := nowMs }

/-- The plate is ten degrees warmer than when the request was confirmed. -/
def HotHold (temperature : ℤ) : Prop :=
  ∃ previous ∈ state.lastRapidProbeTemperatureCentiC,
    previous + rapidReprobeStepCentiC ≤ temperature

/-- Why the warm-up probes a higher request. -/
inductive ReprobeDue (state : ProbeState) (temperature : ℤ) : Prop
  | hotRetest : state.hotBoundaryReached = true → minBoundaryCoverageCentiC ≤ temperature →
      state.rapidFailedProbeCount < 2 → ReprobeDue state temperature
  | firstProbe : state.rapidProbeSinceBoundary = false → ReprobeDue state temperature
  | hotHold : state.HotHold temperature → ReprobeDue state temperature
  | retested {failedMv : ℕ} : state.rapidBoundaryReached = true →
      state.rapidFailedProbeMv = some failedMv → failedMv ≤ state.requestMv →
      ReprobeDue state temperature

/-- Why the warm-up goes over to the terminal probe. -/
inductive TerminalDue (state : ProbeState) (temperature : ℤ) : Prop
  | hotBoundary : state.hotBoundaryReached = true → 2 ≤ state.rapidFailedProbeCount →
      TerminalDue state temperature
  | ceiling : state.sourceMaxMv ≤ state.requestMv → state.HotHold temperature →
      TerminalDue state temperature

/-- The terminal probe that follows two hot failures is the last step of the scan. -/
def LastProbe : Prop :=
  state.phase = .terminalProbe ∧ state.hotBoundaryReached = true ∧ 2 ≤ state.rapidFailedProbeCount

/-- What one sample can make of the state.  The last probe began at `probedAt`. -/
inductive Step (nowMs : ℕ) (temperature : ℤ) (probedAt : Option ℤ) (state : ProbeState) :
    ProbeState → Prop
  | kept : Step nowMs temperature probedAt state state
  | ended {after : ProbeState} : after.Ended → Step nowMs temperature probedAt state after
  | baselined : state.phase = .baseline →
      Step nowMs temperature probedAt state { state with phase := .preflight }
  | opened {requestMv : ℕ} : state.phase = .preflight →
      Step nowMs temperature probedAt state
        { state with
          phase := .sweep
          normalProbe := false
          requestMv
          requestMa := 3000
          stageStartedMs := nowMs }
  | climbed {requestMv : ℕ} : state.phase = .sweep →
      Step nowMs temperature probedAt state { state with requestMv }
  | topped : state.phase = .sweep → state.sourceMaxMv ≤ state.requestMv →
      Step nowMs temperature probedAt state
        { state with phase := .rapidWarmup, lastRapidProbeTemperatureCentiC := none }
  | flattened {requestMv : ℕ} : state.phase = .sweep →
      (state.rapidBoundaryReached = true → state.rapidFailedProbeCount ≠ 1 ∧
        ∀ failedMv ∈ state.rapidFailedProbeMv, requestMv < failedMv) →
      Step nowMs temperature probedAt state
        { state with
          phase := .rapidWarmup
          requestMv
          lastRapidProbeTemperatureCentiC := none }
  | fellBack {requestMv : ℕ} : state.phase = .sweep ∨ state.phase = .rapidWarmup →
      (∀ probed ∈ probedAt, probed ≤ temperature) → requestMv < state.requestMv →
      Step nowMs temperature probedAt state (state.fellBack temperature requestMv)
  | recovered {previous : Option ℤ} : state.phase = .sourceBoundaryRecovery →
      (previous = state.lastRapidProbeTemperatureCentiC ∨ previous = none) →
      Step nowMs temperature probedAt state
        { state with phase := .rapidWarmup, lastRapidProbeTemperatureCentiC := previous }
  | warmed : state.phase = .rapidWarmup → (∀ probed ∈ probedAt, probed ≤ temperature) →
      Step nowMs temperature probedAt state (state.warmed temperature)
  | reprobed {requestMv : ℕ} : state.phase = .rapidWarmup →
      (∀ probed ∈ probedAt, probed ≤ temperature) → state.requestMv < state.sourceMaxMv →
      (state.warmed temperature).ReprobeDue temperature →
      Step nowMs temperature probedAt state
        ((state.warmed temperature).reprobed nowMs temperature requestMv)
  | terminal {requestMv requestMa : ℕ} : state.phase = .rapidWarmup →
      (∀ probed ∈ probedAt, probed ≤ temperature) → state.sourceMaxMv ≤ requestMv →
      (state.warmed temperature).TerminalDue temperature →
      Step nowMs temperature probedAt state
        ((state.warmed temperature).terminal nowMs requestMv requestMa)
  | left : state.phase = .terminalProbe → ¬ state.LastProbe →
      (∀ probed ∈ probedAt, probed ≤ temperature) →
      Step nowMs temperature probedAt state
        { state with
          phase := .sourceBoundaryRecovery
          requestMv := state.sourceMaxMv
          requestMa := 3000
          rapidProbeSinceBoundary := true
          lastRapidProbeTemperatureCentiC := some temperature }

end ProbeState

namespace SupplyScan

open ProbeState

def probeState (scan : SupplyScan) : ProbeState where
  phase := scan.phase
  mode := scan.mode
  normalProbe := scan.normalProbe
  requestMv := scan.requestMv
  requestMa := scan.requestMa
  sourceMaxMv := scan.sourceMaxMv
  stageStartedMs := scan.stageStartedMs
  rapidBoundaryReached := scan.rapidBoundaryReached
  rapidProbeSinceBoundary := scan.rapidProbeSinceBoundary
  rapidFailedProbeMv := scan.rapidFailedProbeMv
  rapidFailedProbeCount := scan.rapidFailedProbeCount
  hotBoundaryReached := scan.hotBoundaryReached
  lastRapidProbeTemperatureCentiC := scan.lastRapidProbeTemperatureCentiC

/-- The sample as the phases of the scan see it. -/
def steadied (scan : SupplyScan) (input : ScanInput) : ScanInput :=
  { input with
    temperatureCentiC := clampI16 (scan.filteredTemperature input.temperatureCentiC) }

/-- The sample is one the heated phases answer. -/
structure Answers (scan : SupplyScan) (input : ScanInput) : Prop where
  confirmed : input.confirmed = true
  conducting : input.physicalPercent = 100
  settled : scan.settleMs ≤ input.nowMs.toNat - scan.changedAtMs

/-- The sample is the last confirmation of a flat response above the tracking point. -/
structure ConfirmsFlat (scan : SupplyScan) (input : ScanInput) (point : BoundaryPoint) : Prop where
  tracked : scan.lastTracking = some point
  ready : scan.rapidFlatBoundaryReady input = true
  response : ∃ previous, scan.previous = some previous ∧
    (scan.response input previous = .flat ∧ scan.flatConfirmations ≤ scan.flatCount + 1 ∨
      scan.response input previous = .ambiguous ∧
        scan.ambiguousConfirmations ≤ min 255 (scan.ambiguousCount + 1))

/-- A flat response at the point leaves the failed request to be tried again. -/
def FlatBelowFailure (scan : SupplyScan) (point : BoundaryPoint) : Prop :=
  scan.rapidBoundaryReached = true → scan.rapidFailedProbeCount ≠ 1 ∧
    ∀ failedMv ∈ scan.rapidFailedProbeMv, point.trackingRequestMv.toNat < failedMv

def Heats (scan : SupplyScan) : Prop :=
  scan.phase = .sweep ∨ scan.phase = .rapidWarmup ∨ scan.phase = .terminalProbe

/-- No probe is wasted: the plate has not cooled since the last one began, the probe that follows
two hot failures tracks, a flat response above a boundary leaves the failed request to be tried
again, and a terminal probe below 3 A is answered in time. -/
structure MakesProgress (scan : SupplyScan) (probedAt : Option ℤ) (input : ScanInput) : Prop where
  warm : scan.Answers input → scan.Heats →
    ∀ probed ∈ probedAt, probed ≤ (scan.steadied input).temperatureCentiC
  tracks : scan.Answers input → scan.phase = .terminalProbe → scan.hotBoundaryReached = true →
    2 ≤ scan.rapidFailedProbeCount → scan.voltageTracksRequest input = true
  flat : scan.Answers input → scan.phase = .sweep →
    ∀ point, scan.ConfirmsFlat (scan.steadied input) point → scan.FlatBelowFailure point
  answered : scan.phase = .terminalProbe → scan.requestMa < 3000 →
    scan.stageTimedOut input = false

variable {scan : SupplyScan} {input : ScanInput} {probedAt : Option ℤ}

/-- The sample makes one of the steps. -/
def Takes (scan : SupplyScan) (input : ScanInput) (probedAt : Option ℤ) (after : SupplyScan) :
    Prop :=
  Step input.nowMs.toNat input.temperatureCentiC probedAt scan.probeState after.probeState

/-! ## Retaining observations -/

theorem sameHeader_foldl_retain (points : List BoundaryPoint) (boundary : SupplyBoundary) :
    boundary.SameHeader
      (points.foldl (fun boundary point => (boundary.retain point).2) boundary) := by
  induction points generalizing boundary with
  | nil => exact .refl boundary
  | cons point points ih => exact (boundary.sameHeader_retain point).trans (ih _)

theorem probeState_retainNormalTracking (scan : SupplyScan) (input : ScanInput) :
    (scan.retainNormalTracking input).probeState = scan.probeState := by
  unfold retainNormalTracking
  dsimp only
  split
  · rfl
  · split
    · unfold rebuildNormalPoints
      dsimp only
      have hheader := scan.boundary.sameHeader_keepEquilibria.trans
        (sameHeader_foldl_retain ((scan.normalBins.set (normalBin input.temperatureCentiC)
          (some { scan.point input with trackingOnly := true })).toList.reduceOption) _)
      simp only [probeState, sourceMaxMv, hheader.sourceMaxMv]
    · rfl

/-! ## The sweep -/

theorem takes_probeNextVoltage (scan : SupplyScan) (hmode : scan.mode = .rapid)
    (hphase : scan.phase = .sweep) :
    scan.Takes input probedAt (scan.probeNextVoltage input) := by
  unfold probeNextVoltage
  rw [if_pos ((isRapid_iff scan).mpr hmode)]
  split
  case isTrue hceiling => exact .topped hphase hceiling
  case isFalse => exact .climbed hphase

section Sweep

variable (scan : SupplyScan) (hmode : scan.mode = .rapid) (hphase : scan.phase = .sweep)
  (hprobe : scan.normalProbe = false)
include hmode hphase hprobe

theorem takes_beginEquilibrium
    (hflat : ∀ point, scan.lastTracking = some point → scan.FlatBelowFailure point) :
    scan.Takes input probedAt (scan.beginEquilibrium input) := by
  unfold beginEquilibrium
  split
  case h_1 => exact .ended (.inr rfl)
  case h_2 point hpoint =>
    rw [hprobe, if_neg Bool.false_ne_true, if_pos ((isRapid_iff scan).mpr hmode)]
    exact .flattened hphase (hflat point hpoint)

theorem takes_handleAmbiguousConfirmation
    (hflat : scan.rapidFlatBoundaryReady input = true → ∀ point,
      scan.lastTracking = some point → scan.FlatBelowFailure point) :
    scan.Takes input probedAt (scan.handleAmbiguousConfirmation input) := by
  unfold handleAmbiguousConfirmation
  split
  case isTrue hready =>
    exact takes_beginEquilibrium { scan with flatRequestMv := scan.requestMv } hmode hphase hprobe
      (hflat hready)
  case isFalse => exact takes_probeNextVoltage { scan with ambiguousCount := 0 } hmode hphase

theorem takes_handleFlatConfirmation (hflat : scan.rapidFlatBoundaryReady input = true → ∀ point,
      scan.lastTracking = some point → scan.FlatBelowFailure point) :
    scan.Takes input probedAt (scan.handleFlatConfirmation input) := by
  unfold handleFlatConfirmation
  split
  case isTrue => exact takes_probeNextVoltage { scan with flatCount := 0 } hmode hphase
  case isFalse hready =>
    have hready' : scan.rapidFlatBoundaryReady input = true := by simpa using hready
    refine takes_beginEquilibrium { scan with
      flatRequestMv := scan.requestMv
      lastTracking := scan.lastTracking.map fun point : BoundaryPoint =>
        { point with flatRequestMv := scan.requestMv.toUInt16 } } hmode hphase hprobe ?_
    intro point hpoint
    obtain ⟨last, hlast, rfl⟩ := Option.map_eq_some_iff.mp hpoint
    exact hflat hready' last hlast

theorem takes_continueSweep
    (hflat : scan.flatConfirmations ≤ scan.flatCount → scan.rapidFlatBoundaryReady input = true →
      ∀ point, scan.lastTracking = some point → scan.FlatBelowFailure point) :
    scan.Takes input probedAt (scan.continueSweep input) := by
  unfold continueSweep
  dsimp only
  split
  case isTrue hcount =>
    exact takes_handleFlatConfirmation { scan with previous := some input } hmode hphase hprobe
      (hflat hcount)
  case isFalse => exact takes_probeNextVoltage { scan with previous := some input } hmode hphase

theorem takes_sweepResponse {previous : ScanInput} (hprevious : scan.previous = some previous)
    (hflat : ∀ point, scan.ConfirmsFlat input point → scan.FlatBelowFailure point) :
    scan.Takes input probedAt (scan.sweepResponse input previous) := by
  unfold sweepResponse
  split
  case h_1 =>
    -- no flat response is left to count
    have hstate : (retainNormalTracking { scan with lastTracking := some (scan.point input) }
        input).probeState = scan.probeState := probeState_retainNormalTracking _ input
    dsimp only
    generalize retainNormalTracking { scan with lastTracking := some (scan.point input) } input
      = tracked at hstate
    have hmode' : tracked.mode = .rapid := (congrArg ProbeState.mode hstate).trans hmode
    have hphase' : tracked.phase = .sweep := (congrArg ProbeState.phase hstate).trans hphase
    have hprobe' : tracked.normalProbe = false :=
      (congrArg ProbeState.normalProbe hstate).trans hprobe
    unfold Takes
    rw [← hstate]
    refine takes_continueSweep { tracked with flatCount := 0, ambiguousCount := 0 } hmode' hphase'
      hprobe' ?_
    intro hcount
    have htwo : 2 ≤ 0 :=
      (two_le_flatConfirmations { tracked with flatCount := 0, ambiguousCount := 0 }).trans hcount
    exact absurd htwo (by decide)
  case h_2 =>
    exact takes_probeNextVoltage
      { scan with flatCount := 0, ambiguousCount := 0, previous := some input } hmode hphase
  case h_3 hresponse =>
    refine takes_continueSweep { scan with flatCount := scan.flatCount + 1 } hmode hphase hprobe ?_
    intro hcount hready point hpoint
    exact hflat point ⟨hpoint, hready, previous, hprevious, .inl ⟨hresponse, hcount⟩⟩
  case h_4 hresponse =>
    dsimp only
    split
    case isTrue hcount =>
      refine takes_handleAmbiguousConfirmation { scan with
        ambiguousCount := min 255 (scan.ambiguousCount + 1)
        previous := some input
        changedAtMs := input.nowMs.toNat } hmode hphase hprobe ?_
      intro hready point hpoint
      exact hflat point ⟨hpoint, hready, previous, hprevious, .inr ⟨hresponse, hcount⟩⟩
    case isFalse => exact .kept

end Sweep

theorem takes_beginSourceBoundaryRecovery (hmode : scan.mode = .rapid)
    (hphase : scan.phase = .sweep ∨ scan.phase = .rapidWarmup)
    (hwarm : ∀ probed ∈ probedAt, probed ≤ input.temperatureCentiC) :
    scan.Takes input probedAt (scan.beginSourceBoundaryRecovery input) := by
  unfold beginSourceBoundaryRecovery
  dsimp only
  split
  case isTrue => exact .ended (.inr rfl)
  case isFalse hlower =>
    unfold noteRapidFailure
    rw [if_pos ((isRapid_iff scan).mpr hmode)]
    exact .fellBack hphase hwarm (not_le.mp hlower)

theorem takes_sweep (hmode : scan.mode = .rapid) (hphase : scan.phase = .sweep)
    (hprobe : scan.normalProbe = false)
    (hwarm : ∀ probed ∈ probedAt, probed ≤ input.temperatureCentiC)
    (hflat : ∀ point, scan.ConfirmsFlat input point → scan.FlatBelowFailure point) :
    scan.Takes input probedAt (scan.sweep input) := by
  unfold sweep
  split
  case h_1 =>
    have hstate : (retainNormalTracking { scan with lastTracking := some (scan.point input) }
        input).probeState = scan.probeState := probeState_retainNormalTracking _ input
    dsimp only
    generalize retainNormalTracking { scan with lastTracking := some (scan.point input) } input
      = tracked at hstate
    have hmode' : tracked.mode = .rapid := (congrArg ProbeState.mode hstate).trans hmode
    have hphase' : tracked.phase = .sweep := (congrArg ProbeState.phase hstate).trans hphase
    unfold Takes
    rw [← hstate]
    exact takes_probeNextVoltage { tracked with previous := some input } hmode' hphase'
  case h_2 previous hprevious =>
    split
    · exact takes_beginSourceBoundaryRecovery hmode (.inl hphase) hwarm
    · split
      case isTrue hceiling =>
        unfold sweepAtCeiling
        split
        · have hmost : scan.sourceMaxMv ≤ scan.requestMv :=
            of_decide_eq_true (Bool.and_eq_true_iff.mp hceiling).2
          exact .topped hphase hmost
        · exact takes_beginSourceBoundaryRecovery hmode (.inl hphase) hwarm
      case isFalse => exact takes_sweepResponse scan hmode hphase hprobe hprevious hflat

/-! ## The warm-up -/

section Warmup

variable {state : ProbeState} (hphase : state.phase = .rapidWarmup)
  (hwarm : ∀ probed ∈ probedAt, probed ≤ input.temperatureCentiC)
  (hwarmed : scan.probeState = state.warmed input.temperatureCentiC)
include hphase hwarm hwarmed

theorem step_beginTerminalProbeOrComplete
    (hdue : scan.probeState.TerminalDue input.temperatureCentiC) :
    Step input.nowMs.toNat input.temperatureCentiC probedAt state
      (scan.beginTerminalProbeOrComplete input).probeState := by
  unfold beginTerminalProbeOrComplete
  split
  case h_1 => exact .ended (.inl rfl)
  case h_2 targetMv targetMa htarget =>
    obtain ⟨mv, ma, rfl, rfl, habove, -⟩ := terminalProbeTarget_spec htarget
    have hmost : state.sourceMaxMv ≤ mv.toNat := by
      have hsource : scan.sourceMaxMv = state.sourceMaxMv := congrArg ProbeState.sourceMaxMv hwarmed
      rw [← hsource]
      exact (UInt16.lt_iff_toNat_lt.mp habove).le
    rw [hwarmed] at hdue
    have hstep : Step input.nowMs.toNat input.temperatureCentiC probedAt state
        (ProbeState.terminal _ _ mv.toNat ma.toNat) := .terminal hphase hwarm hmost hdue
    rw [← hwarmed] at hstep
    exact hstep

theorem step_beginRapidVoltageReprobe (hdue : scan.probeState.ReprobeDue input.temperatureCentiC) :
    Step input.nowMs.toNat input.temperatureCentiC probedAt state
      (scan.beginRapidVoltageReprobe input).probeState := by
  unfold beginRapidVoltageReprobe
  split
  case isTrue => exact .ended (.inl rfl)
  case isFalse hraised =>
    have hbelow : state.requestMv < state.sourceMaxMv := by
      have hrequest : scan.requestMv = state.requestMv := congrArg ProbeState.requestMv hwarmed
      have hsource : scan.sourceMaxMv = state.sourceMaxMv := congrArg ProbeState.sourceMaxMv hwarmed
      rw [← hrequest, ← hsource]
      exact (not_le.mp hraised).trans_le (Nat.min_le_right _ _)
    rw [hwarmed] at hdue
    have hstep : Step input.nowMs.toNat input.temperatureCentiC probedAt state
        (ProbeState.reprobed _ _ _ scan.nextRequestMv) := .reprobed hphase hwarm hbelow hdue
    rw [← hwarmed] at hstep
    exact hstep

theorem step_handleRapidHotBoundary {handled : SupplyScan}
    (hhandled : scan.handleRapidHotBoundary input = some handled) :
    Step input.nowMs.toNat input.temperatureCentiC probedAt state handled.probeState := by
  unfold handleRapidHotBoundary at hhandled
  split at hhandled
  case isTrue => cases hhandled
  case isFalse hguard =>
    obtain ⟨hhot, hcovered⟩ : scan.hotBoundaryReached = true ∧
        minBoundaryCoverageCentiC ≤ input.temperatureCentiC := by simpa using hguard
    split at hhandled
    case isTrue hcount =>
      obtain rfl := Option.some.inj hhandled
      exact step_beginTerminalProbeOrComplete hphase hwarm hwarmed (.hotBoundary hhot hcount)
    case isFalse hcount =>
      split at hhandled
      · obtain rfl := Option.some.inj hhandled
        exact step_beginRapidVoltageReprobe hphase hwarm hwarmed
          (.hotRetest hhot hcovered (not_le.mp hcount))
      · cases hhandled

omit hphase hwarm hwarmed in
theorem hotHold_of_ready (h : scan.rapidHotHoldReady input = true) :
    scan.probeState.HotHold input.temperatureCentiC := by
  unfold rapidHotHoldReady at h
  obtain ⟨previous, hprevious, hrise⟩ := (Option.any_eq_true _ _).mp h
  have hrise' := of_decide_eq_true hrise
  have hstep : rapidReprobeStepCentiC = 1000 := rfl
  unfold saturatingSubI16 at hrise'
  exact ⟨previous, hprevious, by omega⟩

omit hphase hwarm hwarmed in
theorem reprobeDue_of_due (h : scan.rapidReprobeDue input = true) :
    scan.probeState.ReprobeDue input.temperatureCentiC := by
  unfold rapidReprobeDue at h
  split at h
  case isTrue hreached =>
    rcases (Bool.or_eq_true _ _).mp h with h' | hretested
    · rcases (Bool.or_eq_true _ _).mp h' with hfirst | hhold
      · have hunprobed : scan.rapidProbeSinceBoundary = false := by simpa using hfirst
        exact .firstProbe hunprobed
      · exact .hotHold (hotHold_of_ready hhold)
    · obtain ⟨failedMv, hfailed, hle⟩ := (Option.any_eq_true _ _).mp hretested
      exact .retested hreached hfailed (of_decide_eq_true hle)
  case isFalse => exact .hotHold (hotHold_of_ready h)

theorem step_confirmedWarmup : Step input.nowMs.toNat input.temperatureCentiC probedAt state
      (scan.confirmedWarmup input).probeState := by
  have htracked := (probeState_retainNormalTracking scan input).trans hwarmed
  unfold confirmedWarmup
  dsimp only
  generalize scan.retainNormalTracking input = tracked at htracked
  split
  case h_1 handled hhandled =>
    exact step_handleRapidHotBoundary hphase hwarm htracked hhandled
  case h_2 =>
    split
    case isTrue hdue =>
      have hready := (Bool.and_eq_true_iff.mp hdue).1
      exact step_beginRapidVoltageReprobe hphase hwarm htracked (reprobeDue_of_due hready)
    case isFalse =>
      split
      case isTrue hdue =>
        obtain ⟨hceiling, hhold⟩ := Bool.and_eq_true_iff.mp hdue
        have hmost := of_decide_eq_true (Bool.and_eq_true_iff.mp hceiling).2
        exact step_beginTerminalProbeOrComplete hphase hwarm htracked
          (.ceiling hmost (hotHold_of_ready hhold))
      case isFalse =>
        split
        case isTrue hdue =>
          have hhold := (Bool.and_eq_true_iff.mp hdue).2
          exact step_beginRapidVoltageReprobe hphase hwarm htracked
            (.hotHold (hotHold_of_ready hhold))
        case isFalse =>
          have hstep : Step input.nowMs.toNat input.temperatureCentiC probedAt state
              (state.warmed input.temperatureCentiC) := .warmed hphase hwarm
          rw [← htracked] at hstep
          exact hstep

end Warmup

theorem takes_rapidWarmup (hmode : scan.mode = .rapid) (hphase : scan.phase = .rapidWarmup)
    (hwarm : ∀ probed ∈ probedAt, probed ≤ input.temperatureCentiC) :
    scan.Takes input probedAt (scan.rapidWarmup input) := by
  unfold rapidWarmup
  split
  · exact .kept
  · split
    · exact takes_beginSourceBoundaryRecovery hmode (.inr hphase) hwarm
    · dsimp only
      split
      · exact step_confirmedWarmup hphase hwarm rfl
      · exact .warmed hphase hwarm

/-! ## The other phases -/

theorem takes_terminalProbe (hphase : scan.phase = .terminalProbe)
    (hwarm : ∀ probed ∈ probedAt, probed ≤ input.temperatureCentiC)
    (htracks : scan.hotBoundaryReached = true → 2 ≤ scan.rapidFailedProbeCount →
      scan.voltageTracksRequest input = true) :
    scan.Takes input probedAt (scan.terminalProbe input) := by
  unfold terminalProbe
  split
  · exact .kept
  · split
    case isTrue hsag =>
      have hlast : ¬ scan.probeState.LastProbe := by
        rintro ⟨-, hhot, hcount⟩
        rw [htracks hhot hcount] at hsag
        exact absurd hsag (by decide)
      exact .left hphase hlast hwarm
    case isFalse =>
      dsimp only
      split
      · unfold retainTerminalPoint
        dsimp only
        split
        · exact .ended (.inl rfl)
        · exact .ended (.inr rfl)
      · exact .kept

theorem takes_sourceBoundaryRecovery (hphase : scan.phase = .sourceBoundaryRecovery) :
    scan.Takes input probedAt (scan.sourceBoundaryRecovery input) := by
  unfold sourceBoundaryRecovery
  split
  · exact .kept
  · split
    · exact .kept
    · refine .recovered hphase ?_
      split
      · exact .inl rfl
      · exact .inr rfl

theorem takes_baseline (hphase : scan.phase = .baseline) :
    scan.Takes input probedAt (scan.baseline input) := by
  unfold baseline
  split
  · exact .ended (.inr rfl)
  · exact .baselined hphase

theorem takes_preflight (hmode : scan.mode = .rapid) (hphase : scan.phase = .preflight) :
    scan.Takes input probedAt (scan.preflight input) := by
  unfold preflight
  rw [if_pos ((isRapid_iff scan).mpr hmode)]
  split
  · exact .ended (.inr rfl)
  · split
    · exact .kept
    · split
      · exact .ended (.inr rfl)
      · exact .opened hphase

end SupplyScan

namespace ProbeState

/-- The phases that a rapid scan goes through. -/
def rapidPhase : ScanPhase → Bool
  | .preflightRecovery | .probeRecovery | .temperatureSettle | .equilibrium => false
  | _ => true

/-- The scan is in one of the phases of the rapid mode, at 3 A outside the terminal probe. -/
structure Rapid (state : ProbeState) : Prop where
  mode : state.mode = .rapid
  probe : state.normalProbe = false
  current : ¬ state.Ended → state.phase ≠ .terminalProbe → state.requestMa = 3000
  phase : rapidPhase state.phase = true

end ProbeState

namespace SupplyScan

open ProbeState

variable {scan : SupplyScan} {input : ScanInput} {probedAt : Option ℤ}

theorem takes_advance (scan : SupplyScan) (input : ScanInput)
    (hrapid : scan.probeState.Rapid) (hconfirmed : input.confirmed = true)
    (hsettled : scan.settleMs ≤ input.nowMs.toNat - scan.changedAtMs)
    (hwarm : scan.Answers input → scan.Heats →
      ∀ probed ∈ probedAt, probed ≤ input.temperatureCentiC)
    (htracks : scan.Answers input → scan.phase = .terminalProbe →
      scan.hotBoundaryReached = true → 2 ≤ scan.rapidFailedProbeCount →
        scan.voltageTracksRequest input = true)
    (hflat : scan.Answers input → scan.phase = .sweep →
      ∀ point, scan.ConfirmsFlat input point → scan.FlatBelowFailure point) :
    scan.Takes input probedAt (scan.advance input) := by
  have hmode : scan.mode = .rapid := hrapid.mode
  have hprobe : scan.normalProbe = false := hrapid.probe
  have hphases : rapidPhase scan.phase = true := hrapid.phase
  unfold advance
  split
  case isTrue => exact .kept
  case isFalse hguard =>
    have hanswers : scan.advancesUnloaded = false → scan.Answers input := by
      intro hheated
      refine ⟨hconfirmed, ?_, hsettled⟩
      simpa [hheated] using hguard
    split
    case h_1 hphase => exact takes_baseline hphase
    case h_2 hphase => exact takes_preflight hmode hphase
    case h_3 hphase => exact absurd (hphase ▸ hphases) (by decide)
    case h_4 hphase => exact absurd (hphase ▸ hphases) (by decide)
    case h_5 hphase => exact takes_sourceBoundaryRecovery hphase
    case h_6 hphase =>
      have hheated := hanswers (by simp [advancesUnloaded, hphase])
      exact takes_sweep hmode hphase hprobe (hwarm hheated (.inl hphase)) (hflat hheated hphase)
    case h_7 hphase =>
      have hheated := hanswers (by simp [advancesUnloaded, hphase])
      exact takes_rapidWarmup hmode hphase (hwarm hheated (.inr (.inl hphase)))
    case h_8 hphase =>
      have hheated := hanswers (by simp [advancesUnloaded, hphase])
      exact takes_terminalProbe hphase (hwarm hheated (.inr (.inr hphase)))
        (htracks hheated hphase)
    case h_9 hphase => exact absurd (hphase ▸ hphases) (by decide)
    case h_10 hphase => exact absurd (hphase ▸ hphases) (by decide)
    case h_11 => exact .kept
    case h_12 => exact .kept

theorem takes_handleStageTimeout (scan : SupplyScan) (observed : ScanInput)
    (hcurrent : scan.phase ≠ .terminalProbe → scan.requestMa = 3000)
    (hanswered : scan.phase = .terminalProbe → 3000 ≤ scan.requestMa) :
    scan.Takes observed probedAt (scan.handleStageTimeout input) := by
  have hthreeAmps : 3000 ≤ scan.requestMa := by
    by_cases hphase : scan.phase = .terminalProbe
    · exact hanswered hphase
    · exact (hcurrent hphase).ge
  unfold handleStageTimeout
  rw [if_pos hthreeAmps]
  exact .ended (.inr rfl)

theorem coverageProbeDue_eq_false (hcurrent : scan.phase ≠ .terminalProbe → scan.requestMa = 3000) :
    scan.coverageProbeDue input = false := by
  by_contra hdue
  simp only [coverageProbeDue, Bool.not_eq_false, Bool.and_eq_true, Bool.or_eq_true,
    decide_eq_true_eq, beq_iff_eq] at hdue
  obtain ⟨⟨⟨⟨-, hbelow⟩, -⟩, hphase⟩, -⟩ := hdue
  have hother : scan.phase ≠ .terminalProbe := by
    rcases hphase with hphase | hphase <;> rw [hphase] <;> decide
  exact absurd (hcurrent hother) hbelow.ne

/-- A rapid scan whose probes are not wasted makes no other step. -/
theorem takes_update (hrapid : scan.probeState.Rapid)
    (hprogress : scan.MakesProgress probedAt input) :
    scan.Takes (scan.steadied input) probedAt (scan.update input) := by
  unfold update
  split
  case isTrue => exact .kept
  case isFalse hrunning =>
    have hcurrent : scan.phase ≠ .terminalProbe → scan.requestMa = 3000 := hrapid.current hrunning
    have hprobe : scan.normalProbe = false := hrapid.probe
    dsimp only
    unfold respond
    split
    · exact .ended (.inr rfl)
    split
    · exact .ended (.inr rfl)
    split
    · exact .ended (.inl rfl)
    split
    case isTrue hprobing =>
      have hnormal : scan.normalProbe = true := (Bool.and_eq_true_iff.mp hprobing).1
      exact absurd (hnormal.symm.trans hprobe) (by decide)
    split
    case isTrue htimeout =>
      have htimeout' : scan.stageTimedOut input = true := htimeout
      refine takes_handleStageTimeout { scan with stabilityTemperatureCentiC := some _ } _ hcurrent
        fun hphase => ?_
      by_contra hbelow
      have hanswered := hprogress.answered hphase (not_le.mp hbelow)
      exact absurd (hanswered.symm.trans htimeout') (by decide)
    split
    case isTrue hcoverage =>
      have hcoverage' : scan.coverageProbeDue input = true := hcoverage
      exact absurd ((coverageProbeDue_eq_false hcurrent).symm.trans hcoverage') (by decide)
    split
    · exact .kept
    case isFalse hunconfirmed =>
      have hconfirmed : input.confirmed = true := by simpa using hunconfirmed
      split
      case isFalse => exact .kept
      case isTrue hsettled =>
        refine takes_advance { scan with stabilityTemperatureCentiC := some _ }
          (scan.steadied input) hrapid hconfirmed hsettled ?_ ?_ ?_
        · exact fun h => hprogress.warm { h with }
        · exact fun h => hprogress.tracks { h with }
        · intro h hphase point hpoint
          exact hprogress.flat { h with } hphase point
            { hpoint with }

end SupplyScan

end FluxPurr.Supply
