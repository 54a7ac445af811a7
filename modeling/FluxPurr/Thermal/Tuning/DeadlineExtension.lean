import FluxPurr.Thermal.Tuning.TrialRecorder

/-!
# What the runtime records is what the check accepts

The evidence of a trial passes `validExtension` exactly if the trial was extended
(`Extends.accepted`), after any samples in the order of their times.  The decision is taken at the
first sample from the original deadline on, and the limit is extended then or never.

The end of the warm-up is known to the trial before it gets into the evidence: a paused
measurement does not pass it on.  A pause ends within a second of an accepted measurement
(`DeadlineTracked.synced`), so the evidence has it before the deadline.
-/

namespace FluxPurr.Thermal.Tuning

open ThermalTuningTrial ThermalTuningTimingEvidence

variable {trial : ThermalTuningTrial} {sample : ThermalTuningSample}
  {timing : ThermalTuningTimingEvidence} {nowMs : ℕ}

/-! ## What bears upon the deadline -/

/-- The part of a trial that the deadline depends on. -/
structure DeadlineView where
  timing : ThermalTuningTimingEvidence
  warmupExitedAtMs : Option ℕ
  qualificationContinuity : QualificationContinuity
  finished : Bool

def ThermalTuningTrial.view (trial : ThermalTuningTrial) : DeadlineView :=
  ⟨trial.timing, trial.warmupExitedAtMs, trial.qualificationContinuity, trial.finished⟩

@[simp] theorem view_updateWarmupOutputEvidence (trial : ThermalTuningTrial)
    (sample : ThermalTuningSample) :
    (trial.updateWarmupOutputEvidence sample).view = trial.view := by
  unfold updateWarmupOutputEvidence
  dsimp only
  split_ifs <;> rfl

@[simp] theorem view_holdExtremes (trial : ThermalTuningTrial) (sample : ThermalTuningSample) :
    (trial.holdExtremes sample).view = trial.view := by
  unfold holdExtremes
  split_ifs <;> rfl

@[simp] theorem view_updateStableWindow (trial : ThermalTuningTrial)
    (sample : ThermalTuningSample) :
    (trial.updateStableWindow sample).view = trial.view := by
  have hstart : (trial.startStableWindow sample).view = trial.view := by
    unfold startStableWindow
    dsimp only
    split_ifs <;> rfl
  unfold updateStableWindow
  split
  · rfl
  · dsimp only
    split_ifs <;> exact hstart

/-- The warm-up ends with the first sample of another phase. -/
def exitAfter (warmupExit : Option ℕ) (sample : ThermalTuningSample) : Option ℕ :=
  if sample.phase = .approach ∨ sample.phase = .hold then warmupExit.or (some sample.elapsedMs)
  else warmupExit

theorem view_recordTrialPhase (trial : ThermalTuningTrial) (sample : ThermalTuningSample) :
    (trial.recordTrialPhase sample).view =
      { trial.view with
        warmupExitedAtMs := exitAfter trial.view.warmupExitedAtMs sample } := by
  unfold recordTrialPhase exitAfter
  cases hphase : sample.phase <;> simp [view]

theorem view_interrupt (trial : ThermalTuningTrial) :
    ∃ started, trial.interruptMeasurementQualification.view =
      { trial.view with
        timing :=
          { trial.timing with
            warmupExitedAtMs := trial.warmupExitedAtMs
            stableWindowStartedAtMs := started } } :=
  ⟨_, rfl⟩

/-- The fields of the evidence that mirror the trial. -/
def mirrored (timing : ThermalTuningTimingEvidence) (warmupExit started verified : Option ℕ) :
    ThermalTuningTimingEvidence :=
  { timing with
    warmupExitedAtMs := warmupExit
    stableWindowStartedAtMs := started
    stableWindowVerifiedAtMs := verified }

theorem observe_mirrored (timing : ThermalTuningTimingEvidence)
    (warmupExit started verified : Option ℕ) (elapsedMs : ℕ) (requestedPermille : UInt16) :
    (mirrored timing warmupExit started verified).observeApproachRequest elapsedMs
        requestedPermille =
      mirrored (timing.observeApproachRequest elapsedMs requestedPermille) warmupExit started
        verified := by
  have heligible : (mirrored timing warmupExit started verified).floorEligible =
      timing.floorEligible := rfl
  have hextended : (mirrored timing warmupExit started verified).extendedAtMs =
      timing.extendedAtMs := rfl
  have hallowed : (mirrored timing warmupExit started verified).allowedApproachFloorPermille =
      timing.allowedApproachFloorPermille := rfl
  unfold observeApproachRequest
  rw [heligible, hextended, hallowed]
  split_ifs <;> rfl

/-- The request of a sample, as the evidence takes it. -/
def observeSample (timing : ThermalTuningTimingEvidence) (sample : ThermalTuningSample) :
    ThermalTuningTimingEvidence :=
  if sample.phase = .approach then
    timing.observeApproachRequest sample.elapsedMs sample.heaterRequestedOutputPermille
  else timing

theorem view_updateTiming (trial : ThermalTuningTrial) (sample : ThermalTuningSample) :
    ∃ started verified, (trial.updateTiming sample).view =
      { trial.view with
        timing := mirrored (observeSample trial.view.timing sample) trial.view.warmupExitedAtMs
          started verified } :=
  ⟨_, _, rfl⟩

theorem observeSample_mirrored (timing : ThermalTuningTimingEvidence)
    (sample : ThermalTuningSample) (warmupExit started verified : Option ℕ) :
    observeSample (mirrored timing warmupExit started verified) sample =
      mirrored (observeSample timing sample) warmupExit started verified := by
  unfold observeSample
  split
  · exact observe_mirrored timing warmupExit started verified _ _
  · rfl

theorem mirrored_mirrored (timing : ThermalTuningTimingEvidence)
    (warmupExit started verified warmupExit' started' verified' : Option ℕ) :
    mirrored (mirrored timing warmupExit started verified) warmupExit' started' verified' =
      mirrored timing warmupExit' started' verified' := rfl

/-- The trial before the measurement of a sample is used. -/
def beforeMeasurement (trial : ThermalTuningTrial) (sample : ThermalTuningSample) :
    ThermalTuningTrial :=
  let observed := trial.qualificationContinuity.observe (sample.observation trial.targetC)
  let trial :=
    { trial with
      trialStartElapsedMs := trial.trialStartElapsedMs.or (some sample.elapsedMs)
      currentElapsedMs := sample.elapsedMs
      qualificationContinuity := observed.1 }
  let trial :=
    if observed.2 = .freshAfterGap then trial.interruptMeasurementQualification else trial
  (trial.updateWarmupOutputEvidence sample).recordTrialPhase sample

theorem view_beforeMeasurement (trial : ThermalTuningTrial) (sample : ThermalTuningSample) :
    ∃ timing, (beforeMeasurement trial sample).view =
        { timing := timing
          warmupExitedAtMs := exitAfter trial.warmupExitedAtMs sample
          qualificationContinuity := (trial.qualificationContinuity.observe
            (sample.observation trial.targetC)).1
          finished := trial.finished } ∧
      (timing = trial.timing ∨
        (trial.qualificationContinuity.observe
            (sample.observation trial.targetC)).2 = .freshAfterGap ∧
          ∃ warmupExit started verified,
            timing = mirrored trial.timing warmupExit started verified) := by
  unfold beforeMeasurement
  rw [view_recordTrialPhase, view_updateWarmupOutputEvidence]
  by_cases hgap : (trial.qualificationContinuity.observe
      (sample.observation trial.targetC)).2 = .freshAfterGap
  · rw [if_pos hgap]
    exact ⟨_, rfl, .inr ⟨hgap, _, _, trial.timing.stableWindowVerifiedAtMs, rfl⟩⟩
  · rw [if_neg hgap]
    exact ⟨_, rfl, .inl rfl⟩

/-- What a sample does to the evidence.  Only a paused measurement leaves it behind the trial. -/
inductive MetricsCase (trial : ThermalTuningTrial) (sample : ThermalTuningSample) :
    ThermalTuningTimingEvidence → Prop
  | paused (hfresh : sample.hasFreshMeasurement = false)
      (hpause : (trial.qualificationContinuity.observe
        (sample.observation trial.targetC)).2 = .ppsPause) :
      MetricsCase trial sample trial.timing
  | interrupted (started verified : Option ℕ) :
      MetricsCase trial sample
        (mirrored trial.timing (exitAfter trial.warmupExitedAtMs sample) started verified)
  | observed (started verified : Option ℕ) :
      MetricsCase trial sample
        (mirrored (observeSample trial.timing sample) (exitAfter trial.warmupExitedAtMs sample)
          started verified)

theorem view_updateTrialMetrics (trial : ThermalTuningTrial) (sample : ThermalTuningSample) :
    ∃ timing, MetricsCase trial sample timing ∧ (trial.updateTrialMetrics sample).view =
      { timing := timing
        warmupExitedAtMs := exitAfter trial.warmupExitedAtMs sample
        qualificationContinuity := (trial.qualificationContinuity.observe
          (sample.observation trial.targetC)).1
        finished := trial.finished } := by
  obtain ⟨timing, hview, htiming⟩ := view_beforeMeasurement trial sample
  generalize hbefore : beforeMeasurement trial sample = before at hview
  have hupdate : trial.updateTrialMetrics sample =
      if sample.hasFreshMeasurement = false then
        if (trial.qualificationContinuity.observe
            (sample.observation trial.targetC)).2 = .ppsPause ∧
            before.timing.policyVersion = ppsContinuityTimingPolicyVersion then before
        else before.interruptMeasurementQualification
      else
        ((((({ before with previousSampleAtMs := some sample.elapsedMs } :
          ThermalTuningTrial).holdExtremes sample).updateStableWindow sample).updateTiming
            sample).recordMaximum sample) := by
    rw [← hbefore]
    rfl
  have hbeforeTiming : before.timing = timing := congrArg DeadlineView.timing hview
  have hbeforeExit : before.warmupExitedAtMs = exitAfter trial.warmupExitedAtMs sample :=
    congrArg DeadlineView.warmupExitedAtMs hview
  obtain ⟨warmupExit, started, verified, hmirrored⟩ : ∃ warmupExit started verified,
      timing = mirrored trial.timing warmupExit started verified := by
    rcases htiming with rfl | ⟨-, hmirrored⟩
    · exact ⟨trial.timing.warmupExitedAtMs, trial.timing.stableWindowStartedAtMs,
        trial.timing.stableWindowVerifiedAtMs, rfl⟩
    · exact hmirrored
  rw [hupdate]
  split_ifs with hfresh hpause
  · refine ⟨timing, ?_, hview⟩
    rcases htiming with rfl | ⟨hgap, -⟩
    · exact .paused hfresh hpause.1
    · rw [hpause.1] at hgap
      cases hgap
  · obtain ⟨started, hinterrupt⟩ := view_interrupt before
    refine ⟨_, ?_, hinterrupt.trans (by rw [hview])⟩
    rw [hbeforeTiming, hbeforeExit, hmirrored]
    exact .interrupted started _
  · obtain ⟨started, verified, htimed⟩ := view_updateTiming
      ((({ before with previousSampleAtMs := some sample.elapsedMs } :
        ThermalTuningTrial).holdExtremes sample).updateStableWindow sample) sample
    rw [view_updateStableWindow, view_holdExtremes] at htimed
    refine ⟨_, ?_, htimed.trans (by rw [show ({ before with
      previousSampleAtMs := some sample.elapsedMs } : ThermalTuningTrial).view = before.view from
        rfl, hview])⟩
    show MetricsCase trial sample (mirrored (observeSample timing sample)
      (exitAfter trial.warmupExitedAtMs sample) started verified)
    rw [hmirrored, observeSample_mirrored, mirrored_mirrored]
    exact .observed started verified

/-! ## The evidence alone -/

/-- The limits of a trial are fixed from its start. -/
def HasLimits (timing : ThermalTuningTimingEvidence) : Prop :=
  (timing.originalLimitMs = 5000 ∨ timing.originalLimitMs = 10000) ∧
    timing.extensionLimitMs = timing.originalLimitMs * 3

theorem hasLimits_forPoint (point : Memory.ThermalControlProfilePointConfig) :
    HasLimits (forPoint point) := by
  refine ⟨?_, rfl⟩
  show originalSettleLimitMs point.targetTempC = 5000 ∨
    originalSettleLimitMs point.targetTempC = 10000
  unfold originalSettleLimitMs
  split <;> simp

theorem hasLimits_forModelPoint (point : Memory.ThermalControlProfilePointConfig) :
    HasLimits (forModelPoint point) := hasLimits_forPoint point

theorem extends?_spec {deadlineMs : ℕ} {originalTimedOut : Bool} {phase : ThermalTuningPhase}
    (h : timing.extends? deadlineMs originalTimedOut phase = true) :
    phase = .approach ∧ timing.floorEligible = true ∧
      ∃ floorMs, timing.floorObservedAtMs = some floorMs ∧ floorMs < deadlineMs := by
  rw [extends?, Bool.and_eq_true, Bool.and_eq_true, Bool.and_eq_true, decide_eq_true_iff] at h
  obtain ⟨⟨⟨-, hphase⟩, heligible⟩, hfloor⟩ := h
  obtain ⟨floorMs, hsome, hbefore⟩ := (Option.any_eq_true _ _).mp hfloor
  exact ⟨hphase, heligible, floorMs, hsome, of_decide_eq_true hbefore⟩

/-- What the decision at the original deadline can be. -/
inductive ExtendCase (timing : ThermalTuningTimingEvidence) (elapsedMs : ℕ)
    (phase : ThermalTuningPhase) : ThermalTuningTimingEvidence → Prop
  | unchanged (h : timing.originalDeadlineObservedAtMs = none → timing.extendedAtMs = none →
      ∀ exitMs, timing.warmupExitedAtMs = some exitMs →
        elapsedMs < exitMs + timing.originalLimitMs) :
      ExtendCase timing elapsedMs phase timing
  | refused (exitMs : ℕ) (hexit : timing.warmupExitedAtMs = some exitMs)
      (hdue : exitMs + timing.originalLimitMs ≤ elapsedMs)
      (hnone : timing.originalDeadlineObservedAtMs = none)
      (hextended : timing.extendedAtMs = none) :
      ExtendCase timing elapsedMs phase
        { timing with
          originalDeadlineObservedAtMs := some elapsedMs
          originalDeadlinePhase := some phase }
  | extended (exitMs floorMs : ℕ) (hexit : timing.warmupExitedAtMs = some exitMs)
      (hdue : exitMs + timing.originalLimitMs ≤ elapsedMs)
      (hnone : timing.originalDeadlineObservedAtMs = none)
      (hextended : timing.extendedAtMs = none) (hphase : phase = .approach)
      (heligible : timing.floorEligible = true) (hfloor : timing.floorObservedAtMs = some floorMs)
      (hbefore : floorMs < exitMs + timing.originalLimitMs) :
      ExtendCase timing elapsedMs phase
        { timing with
          originalDeadlineObservedAtMs := some elapsedMs
          originalDeadlinePhase := some phase
          extendedAtMs := some elapsedMs }

theorem tryExtend_case (timing : ThermalTuningTimingEvidence) (elapsedMs : ℕ)
    (originalTimedOut : Bool) (phase : ThermalTuningPhase) :
    ExtendCase timing elapsedMs phase (timing.tryExtend elapsedMs originalTimedOut phase).1 := by
  unfold tryExtend
  split
  · next hextended =>
      exact .unchanged fun _ hnone => by rw [hnone] at hextended; cases hextended
  · next hextended =>
      have hextended : timing.extendedAtMs = none := by simpa using hextended
      rcases Option.eq_none_or_eq_some timing.warmupExitedAtMs with hexit | ⟨exitMs, hexit⟩
      · have hdeadline : timing.deadlineMs = none := by
          rw [deadlineMs, hexit]
          rfl
        rw [hdeadline]
        exact .unchanged fun _ _ exitMs h => by rw [hexit] at h; cases h
      · have hdeadline : timing.deadlineMs = some (exitMs + timing.originalLimitMs) := by
          rw [deadlineMs, hexit]
          rfl
        rw [hdeadline]
        dsimp only
        split_ifs with hearly hextends
        · refine .unchanged fun hnone _ other hother => ?_
          rw [hexit] at hother
          obtain rfl := Option.some.inj hother
          rcases hearly with hearly | hobserved
          · exact hearly
          · rw [hnone] at hobserved
            cases hobserved
        · obtain ⟨hdue, hobserved⟩ := not_or.mp hearly
          obtain ⟨hphase, heligible, floorMs, hfloor, hbefore⟩ := extends?_spec hextends
          exact .extended exitMs floorMs hexit (not_lt.mp hdue) (by simpa using hobserved)
            hextended hphase heligible hfloor hbefore
        · obtain ⟨hdue, hobserved⟩ := not_or.mp hearly
          exact .refused exitMs hexit (not_lt.mp hdue) (by simpa using hobserved) hextended

/-! ## The invariant -/

/-- The floor of a sample is no earlier than the end of the warm-up. -/
theorem floor_observeSample {floorMs : ℕ}
    (h : (observeSample timing sample).floorObservedAtMs = some floorMs) :
    timing.floorObservedAtMs = some floorMs ∨
      sample.phase = .approach ∧ floorMs = sample.elapsedMs := by
  unfold observeSample observeApproachRequest at h
  split_ifs at h with happroach hextended hfloor hzero
  · exact .inl h
  · rcases Option.eq_none_or_eq_some timing.floorObservedAtMs with hnone | ⟨_, hsome⟩
    · rw [hnone] at h
      exact .inr ⟨happroach, (Option.some.inj h).symm⟩
    · rw [hsome] at h ⊢
      exact .inl h
  · exact .inl h
  · exact .inl h

/-- A request changes the floor only, and that only before the extension. -/
theorem observeSample_frame (timing : ThermalTuningTimingEvidence) (sample : ThermalTuningSample) :
    observeSample timing sample =
        { timing with floorObservedAtMs := (observeSample timing sample).floorObservedAtMs } ∧
      (timing.extendedAtMs.isSome = true → observeSample timing sample = timing) := by
  unfold observeSample observeApproachRequest
  split_ifs with happroach hextended hfloor hzero
  · exact ⟨rfl, fun _ => rfl⟩
  · exact ⟨rfl, fun h => absurd h hextended⟩
  · exact ⟨rfl, fun h => absurd h hextended⟩
  · exact ⟨rfl, fun _ => rfl⟩
  · exact ⟨rfl, fun _ => rfl⟩

/-- What the evidence says of the trial, at the time of its last sample. -/
structure DeadlineTracked (nowMs : ℕ) (view : DeadlineView) : Prop where
  limits : HasLimits view.timing
  exit (exitMs : ℕ) : view.warmupExitedAtMs = some exitMs → exitMs ≤ nowMs
  /-- The evidence knows the end of the warm-up, or every measurement since then is paused. -/
  synced : view.timing.warmupExitedAtMs = view.warmupExitedAtMs ∨
    view.timing.warmupExitedAtMs = none ∧ ∃ exitMs acceptedMs,
      view.warmupExitedAtMs = some exitMs ∧
        view.qualificationContinuity.lastAcceptedAtMs = some acceptedMs ∧ acceptedMs ≤ exitMs
  floor (floorMs : ℕ) : view.timing.floorObservedAtMs = some floorMs →
    ∃ exitMs, view.warmupExitedAtMs = some exitMs ∧ exitMs ≤ floorMs
  decided (decidedMs : ℕ) : view.timing.originalDeadlineObservedAtMs = some decidedMs →
    ∃ exitMs, view.timing.warmupExitedAtMs = some exitMs ∧
      exitMs + view.timing.originalLimitMs ≤ decidedMs
  extended (extendedMs : ℕ) : view.timing.extendedAtMs = some extendedMs →
    view.timing.originalDeadlineObservedAtMs = some extendedMs ∧
      view.timing.originalDeadlinePhase = some .approach ∧ view.timing.floorEligible = true ∧
      ∃ exitMs floorMs, view.timing.warmupExitedAtMs = some exitMs ∧
        view.timing.floorObservedAtMs = some floorMs ∧
        floorMs < exitMs + view.timing.originalLimitMs

theorem exitAfter_eq_some {warmupExit : Option ℕ} {exitMs : ℕ}
    (h : exitAfter warmupExit sample = some exitMs) :
    warmupExit = some exitMs ∨ warmupExit = none ∧ exitMs = sample.elapsedMs := by
  unfold exitAfter at h
  cases warmupExit with
  | some known =>
    left
    split_ifs at h <;> exact h
  | none =>
    split_ifs at h
    exact .inr ⟨rfl, (Option.some.inj h).symm⟩

theorem exitAfter_some (exitMs : ℕ) (sample : ThermalTuningSample) :
    exitAfter (some exitMs) sample = some exitMs := by
  unfold exitAfter
  split_ifs <;> rfl

theorem exitAfter_approach (warmupExit : Option ℕ) (h : sample.phase = .approach) :
    ∃ exitMs, exitAfter warmupExit sample = some exitMs := by
  unfold exitAfter
  rw [if_pos (.inl h)]
  cases warmupExit with
  | none => exact ⟨_, rfl⟩
  | some exitMs => exact ⟨exitMs, rfl⟩

/-- A pause keeps the last accepted measurement, which is not older than a second. -/
theorem lastAccepted_of_pause {continuity : QualificationContinuity}
    {observation : QualificationObservation}
    (hpause : (continuity.observe observation).2 = .ppsPause) :
    ∃ acceptedMs, continuity.lastAcceptedAtMs = some acceptedMs ∧
      (continuity.observe observation).1.lastAcceptedAtMs = some acceptedMs ∧
      acceptedMs ≤ observation.elapsedMs ∧
      observation.elapsedMs ≤ acceptedMs + qualificationPauseMs := by
  have hcase := observe_case continuity observation
  rw [hpause] at hcase
  generalize (continuity.observe observation).1 = after at hcase
  generalize hmeasured : QualificationMeasurement.ppsPause = measurement at hcase
  cases hcase with
  | accepted => exact absurd hmeasured.symm (accept_ne_ppsPause _ _)
  | rejected => cases hmeasured
  | pause hnot hedge hrecent =>
    obtain ⟨acceptedMs, haccepted, hwithin⟩ := (Option.any_eq_true _ _).mp hrecent
    have hwithin := of_decide_eq_true hwithin
    exact ⟨acceptedMs, haccepted, haccepted, hwithin.1, by omega⟩

namespace DeadlineTracked

variable {view : DeadlineView}

theorem known (h : DeadlineTracked nowMs view) {exitMs : ℕ}
    (hexit : view.timing.warmupExitedAtMs = some exitMs) :
    view.warmupExitedAtMs = some exitMs := by
  rcases h.synced with hsame | ⟨hnone, -⟩
  · exact hsame ▸ hexit
  · rw [hnone] at hexit
    cases hexit

theorem mirror (h : DeadlineTracked nowMs view)
    (hnow : nowMs ≤ sample.elapsedMs) {timing : ThermalTuningTimingEvidence}
    (htiming : timing = view.timing ∨ timing = observeSample view.timing sample)
    (continuity : QualificationContinuity) (started verified : Option ℕ) :
    DeadlineTracked sample.elapsedMs
      { timing :=
          mirrored timing (exitAfter view.warmupExitedAtMs sample) started verified
        warmupExitedAtMs := exitAfter view.warmupExitedAtMs sample
        qualificationContinuity := continuity
        finished := view.finished } := by
  obtain ⟨floorMs?, hframe, hfloor, hkept⟩ : ∃ floorMs?,
      timing = { view.timing with floorObservedAtMs := floorMs? } ∧
      (∀ floorMs, floorMs? = some floorMs → view.timing.floorObservedAtMs = some floorMs ∨
        sample.phase = .approach ∧ floorMs = sample.elapsedMs) ∧
      (view.timing.extendedAtMs.isSome = true → timing = view.timing) := by
    rcases htiming with rfl | rfl
    · exact ⟨_, rfl, fun floorMs hsome => .inl hsome, fun _ => rfl⟩
    · obtain ⟨hframe, hkept⟩ := observeSample_frame view.timing sample
      exact ⟨_, hframe, fun floorMs hsome => floor_observeSample hsome, hkept⟩
  have hexitAfter {exitMs : ℕ} (hexit : view.timing.warmupExitedAtMs = some exitMs) :
      exitAfter view.warmupExitedAtMs sample = some exitMs := by
    rw [h.known hexit, exitAfter_some]
  subst hframe
  refine ⟨h.limits, ?_, .inl rfl, ?_, ?_, ?_⟩
  · intro exitMs hexit
    rcases exitAfter_eq_some hexit with hold | ⟨-, rfl⟩
    · exact (h.exit exitMs hold).trans hnow
    · exact le_rfl
  · intro floorMs hsome
    rcases hfloor floorMs hsome with hold | ⟨happroach, rfl⟩
    · obtain ⟨exitMs, hexit, hle⟩ := h.floor floorMs hold
      exact ⟨exitMs, by simp only [hexit, exitAfter_some], hle⟩
    · -- the first request is made when the warm-up has ended
      obtain ⟨exitMs, hexit⟩ := exitAfter_approach view.warmupExitedAtMs happroach
      refine ⟨exitMs, hexit, ?_⟩
      rcases exitAfter_eq_some hexit with hold | ⟨-, rfl⟩
      · exact (h.exit exitMs hold).trans hnow
      · exact le_rfl
  · intro decidedMs hdecided
    obtain ⟨exitMs, hexit, hle⟩ := h.decided decidedMs hdecided
    exact ⟨exitMs, hexitAfter hexit, hle⟩
  · intro extendedMs hextended
    obtain ⟨hdecided, hphase, heligible, exitMs, floorMs, hexit, hsome, hbefore⟩ :=
      h.extended extendedMs hextended
    have hsame := hkept (Option.isSome_of_eq_some hextended)
    have hfloorKept : floorMs? = view.timing.floorObservedAtMs :=
      congrArg ThermalTuningTimingEvidence.floorObservedAtMs hsame
    exact ⟨hdecided, hphase, heligible, exitMs, floorMs, hexitAfter hexit,
      hfloorKept.trans hsome, hbefore⟩

/-- A paused measurement may leave the evidence behind the trial. -/
theorem pause (h : DeadlineTracked nowMs view)
    (hnow : nowMs ≤ sample.elapsedMs) {continuity : QualificationContinuity} {acceptedMs : ℕ}
    (hbefore : view.qualificationContinuity.lastAcceptedAtMs = some acceptedMs)
    (hafter : continuity.lastAcceptedAtMs = some acceptedMs)
    (hle : acceptedMs ≤ sample.elapsedMs) :
    DeadlineTracked sample.elapsedMs
      { view with
        warmupExitedAtMs := exitAfter view.warmupExitedAtMs sample
        qualificationContinuity := continuity } := by
  refine ⟨h.limits, ?_, ?_, ?_, h.decided, h.extended⟩
  · intro exitMs hexit
    rcases exitAfter_eq_some hexit with hold | ⟨-, rfl⟩
    · exact (h.exit exitMs hold).trans hnow
    · exact le_rfl
  · rcases Option.eq_none_or_eq_some view.warmupExitedAtMs with hnone | ⟨exitMs, hsome⟩
    · have hunknown : view.timing.warmupExitedAtMs = none := by
        rcases h.synced with hsame | ⟨hunknown, -⟩
        · rw [hsame, hnone]
        · exact hunknown
      rcases Option.eq_none_or_eq_some (exitAfter view.warmupExitedAtMs sample) with
        hstill | ⟨exitMs, hexit⟩
      · exact .inl (hunknown.trans hstill.symm)
      · rcases exitAfter_eq_some hexit with hold | ⟨-, rfl⟩
        · rw [hnone] at hold
          cases hold
        · exact .inr ⟨hunknown, _, acceptedMs, hexit, hafter, hle⟩
    · have hexit : exitAfter view.warmupExitedAtMs sample = some exitMs := by
        rw [hsome, exitAfter_some]
      rcases h.synced with hsame | ⟨hunknown, otherMs, lastMs, hother, hlast, hwithin⟩
      · exact .inl (hsame.trans (hsome.trans hexit.symm))
      · rw [hsome] at hother
        rw [hbefore] at hlast
        obtain rfl := Option.some.inj hother
        obtain rfl := Option.some.inj hlast
        exact .inr ⟨hunknown, exitMs, acceptedMs, hexit, hafter, hwithin⟩
  · intro floorMs hsome
    obtain ⟨exitMs, hexit, hfloor⟩ := h.floor floorMs hsome
    exact ⟨exitMs, by simp only [hexit, exitAfter_some], hfloor⟩

/-- A sample keeps the invariant, and a pause with an evidence that is behind is short. -/
theorem metrics (h : DeadlineTracked nowMs trial.view) (hnow : nowMs ≤ sample.elapsedMs) :
    DeadlineTracked sample.elapsedMs (trial.updateTrialMetrics sample).view ∧
      ((trial.updateTrialMetrics sample).timing.warmupExitedAtMs =
          (trial.updateTrialMetrics sample).warmupExitedAtMs ∨
        ∀ exitMs, (trial.updateTrialMetrics sample).warmupExitedAtMs = some exitMs →
          sample.elapsedMs ≤ exitMs + qualificationPauseMs) := by
  obtain ⟨timing, hcase, hview⟩ := view_updateTrialMetrics trial sample
  have htiming : (trial.updateTrialMetrics sample).timing = timing :=
    congrArg DeadlineView.timing hview
  have hexit : (trial.updateTrialMetrics sample).warmupExitedAtMs =
      exitAfter trial.warmupExitedAtMs sample :=
    congrArg DeadlineView.warmupExitedAtMs hview
  rw [hview, htiming, hexit]
  cases hcase with
  | interrupted started verified =>
    exact ⟨h.mirror hnow (.inl rfl) _ started verified, .inl rfl⟩
  | observed started verified =>
    exact ⟨h.mirror hnow (.inr rfl) _ started verified, .inl rfl⟩
  | paused hfresh hpause =>
    obtain ⟨acceptedMs, hbefore, hafter, hle, hrecent⟩ := lastAccepted_of_pause hpause
    have htracked := h.pause hnow hbefore hafter hle
    refine ⟨htracked, ?_⟩
    rcases htracked.synced with hsame | ⟨-, otherMs, lastMs, hother, hlast, hwithin⟩
    · exact .inl hsame
    · refine .inr fun exitMs hsome => ?_
      obtain rfl := Option.some.inj (hsome.symm.trans hother)
      obtain rfl := Option.some.inj (hlast.symm.trans hafter)
      have hrecent : sample.elapsedMs ≤ lastMs + qualificationPauseMs := hrecent
      omega

theorem extend (h : DeadlineTracked nowMs view)
    {phase : ThermalTuningPhase} {timing : ThermalTuningTimingEvidence}
    (hcase : ExtendCase view.timing nowMs phase timing) (finished : Bool) :
    DeadlineTracked nowMs { view with timing := timing, finished := finished } := by
  cases hcase with
  | unchanged => exact { h with }
  | refused exitMs hexit hdue hnone hextended =>
    refine { h with decided := ?_, extended := ?_ }
    · intro decidedMs hdecided
      obtain rfl := Option.some.inj hdecided
      exact ⟨exitMs, hexit, hdue⟩
    · intro extendedMs hsome
      rw [show view.timing.extendedAtMs = some extendedMs from hsome] at hextended
      cases hextended
  | extended exitMs floorMs hexit hdue hnone hextended hphase heligible hfloor hbefore =>
    refine { h with decided := ?_, extended := ?_ }
    · intro decidedMs hdecided
      obtain rfl := Option.some.inj hdecided
      exact ⟨exitMs, hexit, hdue⟩
    · intro extendedMs hsome
      obtain rfl := Option.some.inj hsome
      exact ⟨rfl, congrArg some hphase, heligible, exitMs, floorMs, hexit, hfloor, hbefore⟩

end DeadlineTracked

/-! ## One sample -/

/-- A sample keeps the decision, the extension and what they rest on. -/
theorem metrics_keeps (h : DeadlineTracked nowMs trial.view) (sample : ThermalTuningSample) :
    let after := trial.updateTrialMetrics sample
    after.timing.originalDeadlineObservedAtMs = trial.timing.originalDeadlineObservedAtMs ∧
      after.timing.originalLimitMs = trial.timing.originalLimitMs ∧
      after.timing.extendedAtMs = trial.timing.extendedAtMs ∧
      ∀ exitMs, trial.timing.warmupExitedAtMs = some exitMs →
        after.timing.warmupExitedAtMs = some exitMs := by
  intro after
  obtain ⟨timing, hcase, hview⟩ := view_updateTrialMetrics trial sample
  have htiming : after.timing = timing := congrArg DeadlineView.timing hview
  have hexit (exitMs : ℕ) (hsome : trial.timing.warmupExitedAtMs = some exitMs) :
      exitAfter trial.warmupExitedAtMs sample = some exitMs := by
    rw [show trial.warmupExitedAtMs = some exitMs from h.known hsome, exitAfter_some]
  rw [htiming]
  cases hcase with
  | paused => exact ⟨rfl, rfl, rfl, fun _ hsome => hsome⟩
  | interrupted => exact ⟨rfl, rfl, rfl, hexit⟩
  | observed =>
    rw [(observeSample_frame trial.timing sample).1]
    exact ⟨rfl, rfl, rfl, hexit⟩

/-- The deadline is looked at, unless the trial ends before that. -/
theorem recordSample_case (trial : ThermalTuningTrial) (sample : ThermalTuningSample) :
    (trial.recordSample sample).view =
        { (trial.updateTrialMetrics sample).view with finished := true } ∨
      ∃ timing finished,
        ExtendCase (trial.updateTrialMetrics sample).timing sample.elapsedMs sample.phase timing ∧
        (trial.recordSample sample).view =
          { (trial.updateTrialMetrics sample).view with timing := timing, finished := finished } := by
  unfold recordSample
  dsimp only
  split_ifs
  · exact .inl rfl
  · exact .inr ⟨_, _, tryExtend_case _ _ _ _, rfl⟩

/-- The decision is the first sample from the original deadline on. -/
def DecidedAt (samples : List ThermalTuningSample) (timing : ThermalTuningTimingEvidence)
    (decidedMs : ℕ) : Prop :=
  ∃ before sample after exitMs, samples = before ++ sample :: after ∧
    sample.elapsedMs = decidedMs ∧ timing.warmupExitedAtMs = some exitMs ∧
    exitMs + timing.originalLimitMs ≤ decidedMs ∧
    ∀ earlier ∈ before, earlier.elapsedMs < exitMs + timing.originalLimitMs

structure RunTracked (samples : List ThermalTuningSample) (nowMs : ℕ)
    (trial : ThermalTuningTrial) : Prop where
  tracked : DeadlineTracked nowMs trial.view
  within (sample : ThermalTuningSample) : sample ∈ samples → sample.elapsedMs ≤ nowMs
  undecided (exitMs : ℕ) : trial.finished = false →
    trial.timing.originalDeadlineObservedAtMs = none → trial.warmupExitedAtMs = some exitMs →
      nowMs < exitMs + trial.timing.originalLimitMs
  decided (decidedMs : ℕ) : trial.timing.originalDeadlineObservedAtMs = some decidedMs →
    DecidedAt samples trial.timing decidedMs

namespace RunTracked

variable {samples : List ThermalTuningSample}

theorem within_concat (h : RunTracked samples nowMs trial) (hnow : nowMs ≤ sample.elapsedMs) :
    ∀ other ∈ samples ++ [sample], other.elapsedMs ≤ sample.elapsedMs := by
  intro other hmem
  rcases List.mem_append.mp hmem with hold | hnew
  · exact (h.within other hold).trans hnow
  · rw [List.mem_singleton.mp hnew]

theorem decidedAt_concat {timing : ThermalTuningTimingEvidence} {decidedMs : ℕ}
    (h : DecidedAt samples timing decidedMs) {timing' : ThermalTuningTimingEvidence}
    (hlimit : timing'.originalLimitMs = timing.originalLimitMs)
    (hexit : ∀ exitMs, timing.warmupExitedAtMs = some exitMs →
      timing'.warmupExitedAtMs = some exitMs) (sample : ThermalTuningSample) :
    DecidedAt (samples ++ [sample]) timing' decidedMs := by
  obtain ⟨before, other, after, exitMs, rfl, helapsed, hknown, hdue, hearlier⟩ := h
  refine ⟨before, other, after ++ [sample], exitMs, ?_, helapsed, hexit exitMs hknown, ?_, ?_⟩
  · rw [List.append_assoc, List.cons_append]
  · rw [hlimit]
    exact hdue
  · rw [hlimit]
    exact hearlier

/-- A sample that is left out comes before the deadline, or the trial is finished. -/
theorem skip (h : RunTracked samples nowMs trial) (hnow : nowMs ≤ sample.elapsedMs)
    (hskip : trial.finished = true ∨ trial.sampleDue sample = false) :
    RunTracked (samples ++ [sample]) sample.elapsedMs trial := by
  refine ⟨?_, h.within_concat hnow, ?_, ?_⟩
  · obtain ⟨hlimits, hexit, hsynced, hfloor, hdecided, hextended⟩ := h.tracked
    exact ⟨hlimits, fun exitMs hsome => (hexit exitMs hsome).trans hnow, hsynced, hfloor, hdecided,
      hextended⟩
  · intro exitMs hrunning hnone hexit
    rcases hskip with hfinished | hdue
    · rw [hrunning] at hfinished
      cases hfinished
    · by_contra hlate
      have hcheck : trial.deadlineCheckDue sample = true := by
        simp only [deadlineCheckDue, firstOriginalCheckDue, hexit, hnone, Option.any_some,
          Option.isNone_none, Bool.true_and, decide_eq_true (not_lt.mp hlate), Bool.true_or]
      simp [sampleDue, hcheck] at hdue
  · intro decidedMs hdecided
    exact decidedAt_concat (h.decided decidedMs hdecided) rfl (fun _ hsome => hsome) sample

theorem limit_pos {timing : ThermalTuningTimingEvidence} (h : HasLimits timing) :
    qualificationPauseMs < timing.originalLimitMs := by
  rcases h.1 with hlimit | hlimit
  · rw [hlimit]
    decide
  · rw [hlimit]
    decide

theorem decidedAt_new (h : RunTracked samples nowMs trial) (hnow : nowMs ≤ sample.elapsedMs)
    (hrunning : trial.finished = false) {timing : ThermalTuningTimingEvidence} {exitMs : ℕ}
    (hlimit : timing.originalLimitMs = (trial.updateTrialMetrics sample).timing.originalLimitMs)
    (hknown : timing.warmupExitedAtMs = some exitMs)
    (hexit : (trial.updateTrialMetrics sample).timing.warmupExitedAtMs = some exitMs)
    (hdue : exitMs + (trial.updateTrialMetrics sample).timing.originalLimitMs ≤ sample.elapsedMs)
    (hnone : (trial.updateTrialMetrics sample).timing.originalDeadlineObservedAtMs = none) :
    DecidedAt (samples ++ [sample]) timing sample.elapsedMs := by
  obtain ⟨hobserved, hsameLimit, -, -⟩ := metrics_keeps h.tracked sample
  obtain ⟨htracked, -⟩ := h.tracked.metrics hnow
  refine ⟨samples, sample, [], exitMs, rfl, rfl, hknown, hlimit ▸ hdue, fun earlier hmem => ?_⟩
  have hafter : (trial.updateTrialMetrics sample).warmupExitedAtMs =
      exitAfter trial.warmupExitedAtMs sample := by
    obtain ⟨_, -, hview⟩ := view_updateTrialMetrics trial sample
    exact congrArg DeadlineView.warmupExitedAtMs hview
  have htrial : exitAfter trial.warmupExitedAtMs sample = some exitMs :=
    hafter.symm.trans (htracked.known hexit)
  have hlimits := limit_pos h.tracked.limits
  have hlimits : qualificationPauseMs < trial.timing.originalLimitMs := hlimits
  rw [hlimit, hsameLimit]
  rw [hsameLimit] at hdue
  rcases exitAfter_eq_some htrial with hold | ⟨-, rfl⟩
  · exact (h.within earlier hmem).trans_lt
      (h.undecided exitMs hrunning (hobserved.symm.trans hnone) hold)
  · omega

theorem record (h : RunTracked samples nowMs trial) (hnow : nowMs ≤ sample.elapsedMs)
    (hrunning : trial.finished = false) :
    RunTracked (samples ++ [sample]) sample.elapsedMs (trial.recordSample sample) := by
  obtain ⟨hobserved, hlimit, -, hknown⟩ := metrics_keeps h.tracked sample
  obtain ⟨htracked, hbehind⟩ := h.tracked.metrics hnow
  have hdecided (decidedMs : ℕ)
      (hsome : (trial.updateTrialMetrics sample).timing.originalDeadlineObservedAtMs =
        some decidedMs) :
      DecidedAt (samples ++ [sample]) (trial.updateTrialMetrics sample).timing decidedMs :=
    decidedAt_concat (h.decided decidedMs (hobserved.symm.trans hsome)) hlimit hknown sample
  rcases recordSample_case trial sample with hview | ⟨timing, finished, hcase, hview⟩
  · have htiming : (trial.recordSample sample).timing = (trial.updateTrialMetrics sample).timing :=
      congrArg DeadlineView.timing hview
    have hfinished : (trial.recordSample sample).finished = true :=
      congrArg DeadlineView.finished hview
    refine ⟨?_, h.within_concat hnow, ?_, ?_⟩
    · rw [hview]
      exact { htracked with }
    · intro exitMs hstill
      rw [hfinished] at hstill
      cases hstill
    · rw [htiming]
      exact hdecided
  · have htiming : (trial.recordSample sample).timing = timing :=
      congrArg DeadlineView.timing hview
    have hexit : (trial.recordSample sample).warmupExitedAtMs =
        (trial.updateTrialMetrics sample).warmupExitedAtMs :=
      congrArg DeadlineView.warmupExitedAtMs hview
    refine ⟨hview ▸ htracked.extend hcase finished, h.within_concat hnow, ?_, ?_⟩
    · intro exitMs _ hnone hsome
      rw [htiming] at hnone ⊢
      rw [hexit] at hsome
      cases hcase with
      | refused | extended => cases hnone
      | unchanged hearly =>
        rcases hbehind with hsame | hpaused
        · have hnotExtended : (trial.updateTrialMetrics sample).timing.extendedAtMs = none := by
            by_contra hsomeExtended
            obtain ⟨extendedMs, hextended⟩ := Option.ne_none_iff_exists'.mp hsomeExtended
            obtain ⟨hdecidedAt, -⟩ := htracked.extended extendedMs hextended
            rw [show (trial.updateTrialMetrics sample).timing.originalDeadlineObservedAtMs =
              some extendedMs from hdecidedAt] at hnone
            cases hnone
          exact hearly hnone hnotExtended exitMs (hsame.trans hsome)
        · exact (hpaused exitMs hsome).trans_lt
            (Nat.add_lt_add_left (limit_pos htracked.limits) exitMs)
    · intro decidedMs hsome
      rw [htiming] at hsome ⊢
      cases hcase with
      | unchanged => exact hdecided decidedMs hsome
      | refused exitMs hknownExit hdue hnone _
      | extended exitMs floorMs hknownExit hdue hnone _ _ _ _ _ =>
        obtain rfl := Option.some.inj hsome
        exact h.decidedAt_new hnow hrunning rfl hknownExit hknownExit hdue hnone

theorem step (h : RunTracked samples nowMs trial) (hnow : nowMs ≤ sample.elapsedMs) :
    RunTracked (samples ++ [sample]) sample.elapsedMs (trial.recordLiveSample sample) := by
  unfold recordLiveSample
  split
  · next hskip => exact h.skip hnow hskip
  · next hrecord =>
      have hrunning : trial.finished = false :=
        eq_false_of_ne_true fun hfinished => hrecord (.inl hfinished)
      obtain ⟨htracked, hwithin, hundecided, hdecided⟩ := h.record hnow hrunning
      exact ⟨htracked, hwithin, hundecided, hdecided⟩

end RunTracked

/-! ## Runs -/

/-- A trial at its start. -/
def ThermalTuningTrial.begin (targetC : Int16) (purpose : ThermalTuningTrialPurpose)
    (targetStartedElapsedMs : ℕ) (timing : ThermalTuningTimingEvidence) : ThermalTuningTrial where
  targetC := targetC
  purpose := purpose
  targetStartedElapsedMs := targetStartedElapsedMs
  timing := timing

def ThermalTuningTrial.recordAll (trial : ThermalTuningTrial)
    (samples : List ThermalTuningSample) : ThermalTuningTrial :=
  samples.foldl recordLiveSample trial

/-- The times do not go back. -/
def InTime (samples : List ThermalTuningSample) : Prop :=
  samples.Pairwise fun earlier later => earlier.elapsedMs ≤ later.elapsedMs

instance (samples : List ThermalTuningSample) : Decidable (InTime samples) :=
  inferInstanceAs (Decidable (samples.Pairwise _))

/-- Nothing of the deadline is known when the trial begins. -/
def Begins (timing : ThermalTuningTimingEvidence) : Prop :=
  ∃ point, timing = forPoint point ∨ timing = forModelPoint point

theorem runTracked_begin {timing : ThermalTuningTimingEvidence} (h : Begins timing)
    (targetC : Int16) (purpose : ThermalTuningTrialPurpose) (startedMs : ℕ) :
    RunTracked [] 0 (.begin targetC purpose startedMs timing) := by
  obtain ⟨point, rfl | rfl⟩ := h
  · exact ⟨⟨hasLimits_forPoint point, nofun, .inl rfl, nofun, nofun, nofun⟩, nofun, nofun, nofun⟩
  · exact ⟨⟨hasLimits_forModelPoint point, nofun, .inl rfl, nofun, nofun, nofun⟩, nofun, nofun,
      nofun⟩

theorem recordAll_concat (trial : ThermalTuningTrial) (samples : List ThermalTuningSample)
    (sample : ThermalTuningSample) :
    trial.recordAll (samples ++ [sample]) = (trial.recordAll samples).recordLiveSample sample :=
  List.foldl_concat ..

/-- The invariant holds after every sample, at the time of the last one. -/
theorem runTracked_recordAll (hstart : RunTracked [] 0 trial)
    {samples : List ThermalTuningSample} (hsamples : InTime samples) :
    ∃ nowMs, RunTracked samples nowMs (trial.recordAll samples) ∧
      ∀ boundMs, (∀ sample ∈ samples, sample.elapsedMs ≤ boundMs) → nowMs ≤ boundMs := by
  induction samples using List.reverseRecOn with
  | nil => exact ⟨0, hstart, fun boundMs _ => Nat.zero_le boundMs⟩
  | append_singleton samples sample ih =>
    obtain ⟨hbefore, -, hlast⟩ := List.pairwise_append.mp hsamples
    obtain ⟨nowMs, htracked, hbound⟩ := ih hbefore
    have hnow : nowMs ≤ sample.elapsedMs :=
      hbound sample.elapsedMs fun other hmem => hlast other hmem sample (List.mem_singleton_self _)
    rw [recordAll_concat]
    exact ⟨sample.elapsedMs, htracked.step hnow,
      fun boundMs h => h sample (List.mem_append_right _ (List.mem_singleton_self _))⟩

/-! ## The law -/

theorem DeadlineTracked.validExtension_eq {view : DeadlineView} (h : DeadlineTracked nowMs view) :
    view.timing.validExtension = view.timing.extendedAtMs.isSome := by
  rcases Option.eq_none_or_eq_some view.timing.extendedAtMs with hnone | ⟨extendedMs, hextended⟩
  · have hinvalid : view.timing.validExtension = false := by
      unfold validExtension
      rw [hnone]
      cases view.timing.floorObservedAtMs <;> simp
    rw [hinvalid, hnone]
    rfl
  · obtain ⟨hdecided, hphase, heligible, exitMs, floorMs, hexit, hfloor, hbefore⟩ :=
      h.extended extendedMs hextended
    obtain ⟨otherMs, hother, hdue⟩ := h.decided extendedMs hdecided
    obtain rfl := Option.some.inj (hexit.symm.trans hother)
    obtain ⟨knownMs, hknown, hafter⟩ := h.floor floorMs hfloor
    obtain rfl := Option.some.inj (hknown.symm.trans (h.known hexit))
    obtain ⟨hlimit, hextension⟩ := h.limits
    have hlimits : (view.timing.originalLimitMs = 5000 || view.timing.originalLimitMs = 10000) =
        true := by
      simpa using hlimit
    have htimes : (knownMs ≤ floorMs && floorMs < knownMs + view.timing.originalLimitMs &&
        knownMs ≤ extendedMs && view.timing.originalLimitMs ≤ extendedMs - knownMs) = true := by
      simp only [Bool.and_eq_true, decide_eq_true_iff]
      omega
    unfold validExtension
    rw [heligible, hlimits, hphase, hdecided, hextended, hfloor, hexit]
    simpa [hextension] using htimes

theorem DeadlineTracked.activeLimitMs_le {view : DeadlineView} (h : DeadlineTracked nowMs view) :
    view.timing.activeLimitMs ≤ 3 * view.timing.originalLimitMs := by
  unfold activeLimitMs
  split
  · rw [h.limits.2]
    omega
  · omega

theorem extendedAtMs_recordLiveSample {samples : List ThermalTuningSample} {extendedMs : ℕ}
    (h : RunTracked samples nowMs trial) (hextended : trial.timing.extendedAtMs = some extendedMs)
    (sample : ThermalTuningSample) :
    (trial.recordLiveSample sample).timing.extendedAtMs = some extendedMs := by
  obtain ⟨-, -, hkept, -⟩ := metrics_keeps h.tracked sample
  have hrecorded : (trial.recordSample sample).timing.extendedAtMs = some extendedMs := by
    rcases recordSample_case trial sample with hview | ⟨timing, finished, hcase, hview⟩
    · rw [show (trial.recordSample sample).timing = _ from congrArg DeadlineView.timing hview]
      exact hkept.trans hextended
    · rw [show (trial.recordSample sample).timing = _ from congrArg DeadlineView.timing hview]
      have hbefore := hkept.trans hextended
      cases hcase with
      | unchanged => exact hbefore
      | refused _ _ _ _ hnone | extended _ _ _ _ _ hnone =>
        exact absurd (hbefore.symm.trans hnone) nofun
  unfold recordLiveSample
  split
  · exact hextended
  · exact hrecorded

theorem extendedAtMs_recordAll (hstart : RunTracked [] 0 trial)
    {samples later : List ThermalTuningSample} (hsamples : InTime (samples ++ later))
    {extendedMs : ℕ}
    (hextended : (trial.recordAll samples).timing.extendedAtMs = some extendedMs) :
    (trial.recordAll (samples ++ later)).timing.extendedAtMs = some extendedMs := by
  induction later using List.reverseRecOn with
  | nil => rwa [List.append_nil]
  | append_singleton later sample ih =>
    rw [← List.append_assoc] at hsamples ⊢
    obtain ⟨hbefore, -, -⟩ := List.pairwise_append.mp hsamples
    obtain ⟨nowMs, htracked, -⟩ := runTracked_recordAll hstart hbefore
    rw [recordAll_concat]
    exact extendedAtMs_recordLiveSample htracked (ih hbefore) sample

/-- What the runtime does with the deadline of a trial, and what it records of it. -/
structure Extends (start : ThermalTuningTrial) (samples : List ThermalTuningSample) : Prop where
  /-- The evidence of an extension is valid, and there is no other valid evidence. -/
  accepted : (start.recordAll samples).timing.validExtension =
    (start.recordAll samples).timing.extendedAtMs.isSome
  once (extendedMs : ℕ) (later : List ThermalTuningSample) : InTime (samples ++ later) →
    (start.recordAll samples).timing.extendedAtMs = some extendedMs →
      (start.recordAll (samples ++ later)).timing.extendedAtMs = some extendedMs
  atDecision (extendedMs : ℕ) :
    (start.recordAll samples).timing.extendedAtMs = some extendedMs →
      (start.recordAll samples).timing.originalDeadlineObservedAtMs = some extendedMs
  decision (decidedMs : ℕ) :
    (start.recordAll samples).timing.originalDeadlineObservedAtMs = some decidedMs →
      DecidedAt samples (start.recordAll samples).timing decidedMs
  limit : (start.recordAll samples).timing.activeLimitMs ≤
    3 * (start.recordAll samples).timing.originalLimitMs

theorem extends_recordAll {timing : ThermalTuningTimingEvidence} (hbegins : Begins timing)
    (targetC : Int16) (purpose : ThermalTuningTrialPurpose) (startedMs : ℕ)
    {samples : List ThermalTuningSample} (hsamples : InTime samples) :
    Extends (.begin targetC purpose startedMs timing) samples := by
  have hstart := runTracked_begin hbegins targetC purpose startedMs
  obtain ⟨nowMs, htracked, -⟩ := runTracked_recordAll hstart hsamples
  exact
    { accepted := htracked.tracked.validExtension_eq
      once := fun _ _ hlater hextended => extendedAtMs_recordAll hstart hlater hextended
      atDecision := fun extendedMs hextended => (htracked.tracked.extended extendedMs hextended).1
      decision := htracked.decided
      limit := htracked.tracked.activeLimitMs_le }

/-- A trial at 60 °C that approaches at the lowest power, and is late. -/
def lateTrial : ThermalTuningTrial :=
  .begin 60 .scout 0 (forModelPoint
    { targetTempC := 60, brakeDistanceCentiC := 1400, warmupPowerPermille := 1000,
      warmupReenterCentiC := 1000, approachPowerPermille := 350,
      approachFloorPowerPermille := 100, approachDampingExponentPermille := 4000,
      approachTailWindowCentiC := 375, holdPowerPermille := 60, holdReheatPowerPermille := 120,
      holdEntryCentiC := 320, holdExitCentiC := 300, holdOnCentiC := 30, holdOffCentiC := 50,
      overshootCutoffCentiC := 90, holdKpPermillePerC := 8, holdKiPermillePerCTick := 1,
      holdBlendTicks := 1, approachLeadTicks := 6, holdLeadTicks := 6 })

def lateSample (elapsedMs : ℕ) (outputPermille : UInt16) (phase : ThermalTuningPhase) :
    ThermalTuningSample where
  elapsedMs := elapsedMs
  temperatureCentiC := 5000
  rawTemperatureCentiC := none
  requestedMv := 20000
  confirmedContractMv := some 20000
  heaterRequestedOutputPermille := outputPermille
  heaterOutputPermille := outputPermille
  measurementValid := true
  measurementAccepted := none
  phase := phase

def lateSamples : List ThermalTuningSample :=
  [lateSample 0 1000 .warmup, lateSample 1000 50 .approach, lateSample 11000 0 .approach]

theorem extends_lateSamples : (lateTrial.recordAll lateSamples).timing.extendedAtMs = some 11000 ∧
      Extends lateTrial lateSamples :=
  ⟨by decide, extends_recordAll ⟨_, .inr rfl⟩ 60 .scout 0 (by decide)⟩

end FluxPurr.Thermal.Tuning
