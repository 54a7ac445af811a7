import FluxPurr.Heater.RtdGuard

/-!
# The control temperature after a fault

A history is the state of the loop with the valid temperatures since the last fault.  The
measurement guard has measured its last temperature where that is one of them.

The transition guard survives a fault.  When it seeds the measurement guard before a sample
was accepted, the seed is the placeholder (`placeholder_of_not_meets`), and the samples of a
warm plate are too far from it (`not_all_measured`).  In a run where the measurement guard
holds a temperature whenever it is seeded, every temperature it holds was measured and the
first sample outside the window ends the fault (`measured_and_recovers`).
-/

namespace FluxPurr.Heater

open FluxPurr.Runs

/-- The heater and the power request as one call of `runtimeApplyRtdSample` finds them. -/
structure SampleCall where
  heaterEnabled : Bool
  lastHeaterDuty : ℕ
  sample : RtdSample
  currentRequestMv : ℕ
  elapsedMs : ℕ

structure RtdHistory where
  state : RtdRuntime
  /-- The temperatures of the valid samples since the last fault. -/
  measured : List ℚ
  /-- No valid sample outside the window since the last fault. -/
  faulted : Bool
  lastMs : ℕ

variable (guard : RtdPpsTransitionGuard) {measurement : RtdMeasurement}

/-- The sample is outside the window of the transition guard. -/
def RtdPpsTransitionGuard.Outside (requestMv nowMs : ℕ) : Prop :=
  guard.requestMv = some requestMv ∧ ∀ untilMs ∈ guard.blockedUntilMs, untilMs ≤ nowMs

instance (guard : RtdPpsTransitionGuard) (requestMv nowMs : ℕ) :
    Decidable (guard.Outside requestMv nowMs) :=
  inferInstanceAs (Decidable (_ ∧ _))

namespace RtdHistory

/-- The state in which the call finds the loop. -/
def enter (history : RtdHistory) (call : SampleCall) : RtdRuntime :=
  { history.state with
    heaterEnabled := call.heaterEnabled
    lastHeaterDuty := call.lastHeaterDuty }

def step (history : RtdHistory) (call : SampleCall) : RtdHistory where
  state := (runtimeApplyRtdSample (history.enter call) call.sample call.currentRequestMv
    call.elapsedMs).2
  measured := match call.sample with
    | .valid measurement => history.measured ++ [measurement.tempC]
    | .fault _ _ => []
  faulted := match call.sample with
    | .valid _ => history.faulted &&
        ¬ history.state.rtdPpsTransitionGuard.Outside call.currentRequestMv call.elapsedMs
    | .fault _ _ => true
  lastMs := call.elapsedMs

/-- The history of a boot. -/
def start (heaterEnabled eepromRestorePending : Bool) (sample : RtdSample) : RtdHistory where
  state := applyInitialRtdSample heaterEnabled eepromRestorePending sample
  measured := match sample with
    | .valid measurement => [measurement.tempC]
    | .fault _ _ => []
  faulted := match sample with
    | .valid _ => false
    | .fault _ _ => true
  lastMs := 0

end RtdHistory

/-- One call, not before the last one. -/
def Next (before : RtdHistory) (call : SampleCall) (after : RtdHistory) : Prop :=
  before.lastMs ≤ call.elapsedMs ∧ after = before.step call

/-- The measurement guard holds no temperature that was not measured since the last fault. -/
def Measured (history : RtdHistory) : Prop :=
  ∀ tempC ∈ history.state.rtdControlMeasurementGuard.lastAcceptedTempC, tempC ∈ history.measured

/-- The first valid sample outside the window after a fault is the control temperature. -/
def Recovers (before : RtdHistory) (call : SampleCall) (after : RtdHistory) : Prop :=
  ∀ measurement, call.sample = .valid measurement → before.faulted = true →
    before.state.rtdPpsTransitionGuard.Outside call.currentRequestMv call.elapsedMs →
      after.state.latestTempC = measurement.tempC ∧
        after.state.rtdControlMeasurementGuard.lastAcceptedTempC = some measurement.tempC

/-- The request has changed since the last valid sample, or the window ends with this one. -/
def Seeds (requestMv nowMs : ℕ) : Prop :=
  guard.requestMv ≠ some requestMv ∨ ∃ untilMs ∈ guard.blockedUntilMs, untilMs ≤ nowMs

instance (guard : RtdPpsTransitionGuard) (requestMv nowMs : ℕ) :
    Decidable (Seeds guard requestMv nowMs) :=
  inferInstanceAs (Decidable (_ ∨ _))

/-- The sample passes for a step from the placeholder within 25 ms. -/
def NearPlaceholder (tempC : ℚ) (heaterDutyPercent : ℕ) : Prop :=
  |tempC| ≤ 7 / 8 ∧ (heaterDutyPercent = 0 → tempC ≤ 3 / 5)

/-- Where a valid sample seeds the measurement guard, that guard holds a temperature, or the
sample itself is outside the window and passes for a step from the placeholder. -/
def Meets (before : RtdHistory) (call : SampleCall) : Prop :=
  ∀ measurement, call.sample = .valid measurement →
    Seeds before.state.rtdPpsTransitionGuard call.currentRequestMv call.elapsedMs →
      before.state.rtdControlMeasurementGuard.lastAcceptedTempC.isSome ∨
        before.state.rtdPpsTransitionGuard.Outside call.currentRequestMv call.elapsedMs ∧
          NearPlaceholder measurement.tempC call.lastHeaterDuty

/-! ## The measurement guard -/

namespace RtdControlMeasurementGuard

theorem observeWithHeaterDuty_none {guard : RtdControlMeasurementGuard}
    (h : guard.lastAcceptedTempC = none) (tempC : ℚ) (nowMs duty : ℕ) :
    guard.observeWithHeaterDuty tempC nowMs duty = (some tempC, .reseed tempC nowMs) := by
  have hrises : ¬ guard.RisesUnpowered tempC nowMs duty := by
    rintro ⟨_, hlast, -⟩
    rw [h] at hlast
    cases hlast
  rw [observeWithHeaterDuty, if_neg hrises, observe, h]

/-- A sample is accepted and becomes the last temperature, or the last temperature stays. -/
theorem observeWithHeaterDuty_cases (guard : RtdControlMeasurementGuard) (tempC : ℚ)
    (nowMs duty : ℕ) :
    guard.observeWithHeaterDuty tempC nowMs duty = (some tempC, .reseed tempC nowMs) ∨
      ((guard.observeWithHeaterDuty tempC nowMs duty).1 = none ∧
        (guard.observeWithHeaterDuty tempC nowMs duty).2.lastAcceptedTempC =
          guard.lastAcceptedTempC ∧ guard.lastAcceptedTempC.isSome) := by
  rw [observeWithHeaterDuty]
  split
  · rename_i hrises
    obtain ⟨lastTempC, hlast, -⟩ := hrises
    exact .inr ⟨rfl, rfl, Option.isSome_of_mem hlast⟩
  rw [observe]
  split
  · exact .inl rfl
  rename_i lastTempC hlast
  dsimp only
  have hsome : guard.lastAcceptedTempC.isSome := by rw [hlast]; rfl
  split
  · split
    · exact .inl rfl
    · split
      · exact .inr ⟨rfl, rfl, hsome⟩
      · exact .inr ⟨rfl, rfl, hsome⟩
  · exact .inl rfl

/-- From a seed of the same moment a sample is accepted that is not further away than the
plate can go in 25 ms. -/
theorem observeWithHeaterDuty_reseed (seedC tempC : ℚ) (nowMs duty : ℕ) :
    ((reseed seedC nowMs).observeWithHeaterDuty tempC nowMs duty).1 = some tempC ↔
      |tempC - seedC| ≤ 7 / 8 ∧ (duty = 0 → tempC - seedC ≤ 3 / 5) := by
  have helapsed : elapsedSince nowMs nowMs = 25 := by simp [elapsedSince]
  have hdelta : maxDeltaC 25 = 7 / 8 := by
    norm_num [maxDeltaC, rtdControlMaxSlewCPerS, rtdControlMaxAcceptedStepC]
  have hrise : maxUnpoweredRiseC 25 = 3 / 5 := by
    norm_num [maxUnpoweredRiseC, rtdControlMaxUnpoweredRiseCPerS,
      rtdControlMinUnpoweredRiseStepC, rtdControlMaxUnpoweredRiseStepC]
  have hrises : (reseed seedC nowMs).RisesUnpowered tempC nowMs duty ↔
      duty = 0 ∧ 3 / 5 < tempC - seedC := by
    simp only [RisesUnpowered, reseed, Option.mem_def, Option.some.injEq, exists_eq_left',
      helapsed, hrise]
    constructor
    · rintro ⟨hduty, -, hstep⟩
      exact ⟨hduty, hstep⟩
    · rintro ⟨hduty, hstep⟩
      exact ⟨hduty, by linarith, hstep⟩
  rw [observeWithHeaterDuty]
  split
  · rename_i h
    obtain ⟨hduty, hstep⟩ := hrises.mp h
    simp only [reduceCtorEq, false_iff]
    rintro ⟨-, hle⟩
    exact absurd (hle hduty) (not_le.mpr hstep)
  rename_i hnot
  have hunpowered : duty = 0 → tempC - seedC ≤ 3 / 5 := fun hduty =>
    le_of_not_gt fun hstep => hnot (hrises.mpr ⟨hduty, hstep⟩)
  simp only [observe, reseed, Option.getD_some, helapsed, hdelta, Option.any_none,
    Bool.false_eq_true, false_and, if_false]
  split
  · rename_i hfar
    simp only [reduceCtorEq, false_iff]
    exact fun h => absurd h.1 (not_le.mpr hfar)
  · rename_i hnear
    exact ⟨fun _ => ⟨not_lt.mp hnear, hunpowered⟩, fun _ => rfl⟩

end RtdControlMeasurementGuard

open RtdControlMeasurementGuard

/-! ## One sample -/

theorem RtdPpsTransitionGuard.observe_flags
    (requestMv nowMs : ℕ) : (guard.observe requestMv nowMs).1 =
      (decide (guard.Outside requestMv nowMs), decide (Seeds guard requestMv nowMs)) := by
  obtain ⟨request, blocked⟩ := guard
  by_cases hrequest : request = some requestMv
  · subst hrequest
    cases blocked with
    | none => simp [observe, Outside, Seeds]
    | some untilMs =>
      by_cases hlt : nowMs < untilMs
      · simp [observe, Outside, Seeds, hlt]
      · simp [observe, Outside, Seeds, hlt, not_lt.mp hlt]
  · simp [observe, Outside, Seeds, hrequest]

/-- The measurement guard as the sample finds it. -/
def seededGuard (state : RtdRuntime) (requestMv nowMs : ℕ) : RtdControlMeasurementGuard :=
  if Seeds state.rtdPpsTransitionGuard requestMv nowMs then
    .reseed state.latestTempC (state.rtdControlMeasurementGuard.lastAcceptedAtMs.getD nowMs)
  else state.rtdControlMeasurementGuard

/-- A valid sample outside the window is observed by the seeded guard, and one inside it is
not. -/
theorem runtimeApplyRtdSample_valid (state : RtdRuntime) (measurement : RtdMeasurement)
    (requestMv nowMs : ℕ) :
    let observed := if state.rtdPpsTransitionGuard.Outside requestMv nowMs then
      (seededGuard state requestMv nowMs).observeWithHeaterDuty measurement.tempC nowMs
        state.lastHeaterDuty else (none, seededGuard state requestMv nowMs)
    let after := (runtimeApplyRtdSample state (.valid measurement) requestMv nowMs).2
    after.rtdControlMeasurementGuard = observed.2 ∧
      after.latestTempC = observed.1.getD state.latestTempC := by
  have hflags := state.rtdPpsTransitionGuard.observe_flags requestMv nowMs
  obtain ⟨haccept, hseed⟩ := Prod.mk.inj hflags
  simp only [runtimeApplyRtdSample, applyValidRtdMeasurement, updateRuntimeDisplayTemperature,
    acceptRtdControlSampleAfterPpsTransitionWithOutput, seededGuard, haccept, hseed,
    decide_eq_true_eq]
  split <;> split <;> simp_all

/-- The measurement guard is empty and the control temperature is the placeholder, or the
guard holds the control temperature and it was measured. -/
structure Invariant (history : RtdHistory) : Prop where
  empty : history.state.rtdControlMeasurementGuard.lastAcceptedTempC = none →
    history.state.rtdControlMeasurementGuard.lastAcceptedAtMs = none ∧ history.state.latestTempC = 0
  held : ∀ tempC, history.state.rtdControlMeasurementGuard.lastAcceptedTempC = some tempC →
    history.state.latestTempC = tempC ∧ tempC ∈ history.measured
  faulted : history.faulted = true →
    history.state.rtdControlMeasurementGuard.lastAcceptedTempC = none

theorem Invariant.measured {history : RtdHistory} (h : Invariant history) : Measured history :=
  fun _ htemp => (h.held _ htemp).2

variable {before after : RtdHistory} {call : SampleCall}

theorem invariant_start (heaterEnabled eepromRestorePending : Bool) (sample : RtdSample) :
    Invariant (.start heaterEnabled eepromRestorePending sample) := by
  cases sample with
  | valid measurement =>
    refine ⟨fun h => (nomatch h), fun tempC h => ?_, fun h => (nomatch h)⟩
    obtain rfl : measurement.tempC = tempC := Option.some.inj h
    exact ⟨rfl, List.mem_singleton_self _⟩
  | fault adcMv reason => exact ⟨fun _ => ⟨rfl, rfl⟩, fun _ h => (nomatch h), fun _ => rfl⟩

theorem invariant_fault (history : RtdHistory) {adcMv : Option ℕ} {reason : HeaterFaultReason}
    (hsample : call.sample = .fault adcMv reason) : Invariant (history.step call) := by
  obtain ⟨heaterEnabled, lastHeaterDuty, sample, currentRequestMv, elapsedMs⟩ := call
  obtain rfl : sample = .fault adcMv reason := hsample
  exact ⟨fun _ => ⟨rfl, rfl⟩, fun _ h => (nomatch h), fun _ => rfl⟩

/-- The guard that observes a valid sample holds the control temperature or nothing. -/
theorem seededGuard_held (hinv : Invariant before) (requestMv nowMs : ℕ) {tempC : ℚ}
    (h : (seededGuard (before.enter call) requestMv nowMs).lastAcceptedTempC = some tempC) :
    before.state.latestTempC = tempC := by
  rw [seededGuard] at h
  split at h
  · exact Option.some.inj h
  · exact (hinv.held tempC h).1

/-- A seed of an empty guard is the placeholder, with the age of this sample. -/
theorem seededGuard_placeholder (hinv : Invariant before)
    (hempty : before.state.rtdControlMeasurementGuard.lastAcceptedTempC = none)
    {requestMv nowMs : ℕ} (hseeds : Seeds before.state.rtdPpsTransitionGuard requestMv nowMs) :
    seededGuard (before.enter call) requestMv nowMs = .reseed 0 nowMs := by
  obtain ⟨hat, hzero⟩ := hinv.empty hempty
  rw [seededGuard]
  simp only [RtdHistory.enter, if_pos hseeds, hat, hzero, Option.getD_none]

/-- An empty guard accepts what it observes in a run that meets the condition. -/
theorem accepted_of_empty (hinv : Invariant before)
    (hsample : call.sample = .valid measurement) (hmeets : Meets before call)
    (hempty : before.state.rtdControlMeasurementGuard.lastAcceptedTempC = none) :
    (seededGuard (before.enter call) call.currentRequestMv call.elapsedMs).observeWithHeaterDuty
      measurement.tempC call.elapsedMs call.lastHeaterDuty =
        (some measurement.tempC, .reseed measurement.tempC call.elapsedMs) := by
  by_cases hseeds : Seeds before.state.rtdPpsTransitionGuard call.currentRequestMv call.elapsedMs
  · rw [seededGuard_placeholder hinv hempty hseeds]
    obtain hsome | ⟨-, hnear⟩ := hmeets measurement hsample hseeds
    · rw [hempty] at hsome
      cases hsome
    · have haccepted := (observeWithHeaterDuty_reseed 0
        measurement.tempC call.elapsedMs call.lastHeaterDuty).mpr (by simpa [NearPlaceholder] using hnear)
      obtain h | ⟨hnone, -⟩ := (reseed 0
        call.elapsedMs).observeWithHeaterDuty_cases measurement.tempC call.elapsedMs
          call.lastHeaterDuty
      · exact h
      · rw [hnone] at haccepted
        cases haccepted
  · refine observeWithHeaterDuty_none ?_ _ _ _
    rw [seededGuard, RtdHistory.enter, if_neg hseeds]
    exact hempty

theorem seededGuard_inside (hsample : ∃ measurement, call.sample = .valid measurement)
    (hmeets : Meets before call)
    (hempty : before.state.rtdControlMeasurementGuard.lastAcceptedTempC = none)
    (hinside : ¬ before.state.rtdPpsTransitionGuard.Outside call.currentRequestMv call.elapsedMs) :
    seededGuard (before.enter call) call.currentRequestMv call.elapsedMs =
      before.state.rtdControlMeasurementGuard := by
  obtain ⟨measurement, hsample⟩ := hsample
  rw [seededGuard, if_neg]
  · rfl
  · intro hseeds
    obtain hsome | ⟨houtside, -⟩ := hmeets measurement hsample hseeds
    · rw [hempty] at hsome
      cases hsome
    · exact hinside houtside

/-- The sample is not used for control. -/
structure Kept (before after : RtdRuntime) : Prop where
  latestTempC : after.latestTempC = before.latestTempC
  lastAcceptedTempC : after.rtdControlMeasurementGuard.lastAcceptedTempC =
    before.rtdControlMeasurementGuard.lastAcceptedTempC
  lastAcceptedAtMs : before.rtdControlMeasurementGuard.lastAcceptedTempC = none →
    after.rtdControlMeasurementGuard.lastAcceptedAtMs =
      before.rtdControlMeasurementGuard.lastAcceptedAtMs

/-- The sample is the control temperature. -/
structure Accepted (tempC : ℚ) (after : RtdRuntime) : Prop where
  latestTempC : after.latestTempC = tempC
  lastAcceptedTempC : after.rtdControlMeasurementGuard.lastAcceptedTempC = some tempC

/-- A valid sample is accepted or leaves the control temperature as it is.  An empty guard
accepts every sample outside the window. -/
theorem valid_outcome (hinv : Invariant before)
    (hsample : call.sample = .valid measurement) (hmeets : Meets before call) :
    Accepted measurement.tempC (before.step call).state ∧
        before.state.rtdPpsTransitionGuard.Outside call.currentRequestMv call.elapsedMs ∨
      Kept before.state (before.step call).state ∧
        (before.state.rtdControlMeasurementGuard.lastAcceptedTempC = none →
          ¬ before.state.rtdPpsTransitionGuard.Outside call.currentRequestMv call.elapsedMs) := by
  obtain ⟨hguard, htemp⟩ := runtimeApplyRtdSample_valid (before.enter call) measurement
    call.currentRequestMv call.elapsedMs
  rw [← hsample] at hguard htemp
  change (before.step call).state.rtdControlMeasurementGuard = _ at hguard
  change (before.step call).state.latestTempC = _ at htemp
  by_cases houtside :
      (before.enter call).rtdPpsTransitionGuard.Outside call.currentRequestMv call.elapsedMs
  · rw [if_pos houtside] at hguard htemp
    cases hlast : before.state.rtdControlMeasurementGuard.lastAcceptedTempC with
    | none =>
      have haccepted := accepted_of_empty hinv hsample hmeets hlast
      rw [show (before.enter call).lastHeaterDuty = call.lastHeaterDuty from rfl,
        haccepted] at hguard htemp
      exact .inl ⟨⟨htemp, congrArg _ hguard⟩, houtside⟩
    | some lastTempC =>
      obtain haccepted | ⟨hnone, hkept, hsome⟩ :=
        (seededGuard (before.enter call) call.currentRequestMv
          call.elapsedMs).observeWithHeaterDuty_cases measurement.tempC call.elapsedMs
            (before.enter call).lastHeaterDuty
      · rw [haccepted] at hguard htemp
        exact .inl ⟨⟨htemp, congrArg _ hguard⟩, houtside⟩
      · obtain ⟨seedC, hseed⟩ := Option.isSome_iff_exists.mp hsome
        have hheld := seededGuard_held hinv _ _ hseed
        rw [hnone] at htemp
        rw [← hguard, hseed, ← hheld, (hinv.held lastTempC hlast).1] at hkept
        exact .inr ⟨⟨htemp, hkept.trans hlast.symm, fun h => (nomatch hlast.symm.trans h)⟩,
          fun h => (nomatch h)⟩
  · rw [if_neg houtside] at hguard htemp
    refine .inr ⟨⟨htemp, ?_, fun hempty => ?_⟩, fun _ => houtside⟩
    · cases hlast : before.state.rtdControlMeasurementGuard.lastAcceptedTempC with
      | none => rw [hguard, seededGuard_inside ⟨_, hsample⟩ hmeets hlast houtside, hlast]
      | some lastTempC =>
        rw [hguard, seededGuard]
        split
        · exact congrArg some (hinv.held lastTempC hlast).1
        · exact hlast
    · rw [hguard, seededGuard_inside ⟨_, hsample⟩ hmeets hempty houtside]

theorem invariant_valid (hinv : Invariant before)
    (hsample : call.sample = .valid measurement) (hmeets : Meets before call) :
    Invariant (before.step call) := by
  have hmeasured : (before.step call).measured = before.measured ++ [measurement.tempC] := by
    simp only [RtdHistory.step, hsample]
  have hfaulted : (before.step call).faulted = (before.faulted &&
      ¬ before.state.rtdPpsTransitionGuard.Outside call.currentRequestMv call.elapsedMs) := by
    simp only [RtdHistory.step, hsample]
  obtain ⟨haccepted, houtside⟩ | ⟨hkept, -⟩ := valid_outcome hinv hsample hmeets
  · refine ⟨fun h => ?_, fun tempC h => ?_, fun h => ?_⟩
    · rw [haccepted.lastAcceptedTempC] at h
      cases h
    · obtain rfl := Option.some.inj (haccepted.lastAcceptedTempC.symm.trans h)
      exact ⟨haccepted.latestTempC, by rw [hmeasured]; exact List.mem_append_right _ (by simp)⟩
    · simp [hfaulted, houtside] at h
  · refine ⟨fun h => ?_, fun tempC h => ?_, fun h => ?_⟩
    · rw [hkept.lastAcceptedTempC] at h
      rw [hkept.lastAcceptedAtMs h, hkept.latestTempC]
      exact hinv.empty h
    · rw [hkept.lastAcceptedTempC] at h
      rw [hkept.latestTempC, hmeasured]
      exact ⟨(hinv.held tempC h).1, List.mem_append_left _ (hinv.held tempC h).2⟩
    · rw [hfaulted, Bool.and_eq_true] at h
      rw [hkept.lastAcceptedTempC]
      exact hinv.faulted h.1

theorem invariant_step (hinv : Invariant before) (hmeets : Meets before call)
    (hnext : Next before call after) : Invariant after := by
  obtain rfl := hnext.2
  cases hsample : call.sample with
  | valid measurement => exact invariant_valid hinv hsample hmeets
  | fault adcMv reason => exact invariant_fault before hsample

theorem recovers_of_meets (hinv : Invariant before) (hmeets : Meets before call)
    (hnext : Next before call after) : Recovers before call after := by
  intro measurement hsample hfaulted houtside
  obtain rfl := hnext.2
  obtain ⟨haccepted, -⟩ | ⟨-, hinside⟩ := valid_outcome hinv hsample hmeets
  · exact ⟨haccepted.latestTempC, haccepted.lastAcceptedTempC⟩
  · exact absurd houtside (hinside (hinv.faulted hfaulted))

/-- In a run that meets the condition the measurement guard only ever holds a temperature
that was measured since the last fault, and the first sample outside the window recovers. -/
theorem measured_and_recovers {heaterEnabled eepromRestorePending : Bool} {sample : RtdSample}
    {calls : List SampleCall}
    (hrun : Reaches (fun before call after => Meets before call ∧ Next before call after)
      (.start heaterEnabled eepromRestorePending sample) calls before) :
    Measured before ∧
      ∀ call after, Meets before call → Next before call after → Recovers before call after := by
  have hinv : Invariant before := hrun.invariant
    (invariant_start heaterEnabled eepromRestorePending sample)
    fun _ _ _ hinv hstep => invariant_step hinv hstep.1 hstep.2
  exact ⟨hinv.measured, fun _ _ hmeets hnext => recovers_of_meets hinv hmeets hnext⟩

/-- Where the condition fails, the measurement guard holds the placeholder. -/
theorem placeholder_of_not_meets (hinv : Invariant before) (hnot : ¬ Meets before call)
    (hnext : Next before call after) :
    after.state.rtdControlMeasurementGuard.lastAcceptedTempC = some 0 ∧
      after.state.latestTempC = 0 := by
  obtain rfl := hnext.2
  simp only [Meets, not_forall, not_or, exists_prop] at hnot
  obtain ⟨measurement, hsample, hseeds, hnone, hfar⟩ := hnot
  have hempty : before.state.rtdControlMeasurementGuard.lastAcceptedTempC = none := by
    simpa using hnone
  obtain ⟨hguard, htemp⟩ := runtimeApplyRtdSample_valid (before.enter call) measurement
    call.currentRequestMv call.elapsedMs
  rw [← hsample] at hguard htemp
  change (before.step call).state.rtdControlMeasurementGuard = _ at hguard
  change (before.step call).state.latestTempC = _ at htemp
  have hzero : (before.enter call).latestTempC = 0 := (hinv.empty hempty).2
  rw [seededGuard_placeholder hinv hempty hseeds, hzero] at htemp
  rw [seededGuard_placeholder hinv hempty hseeds] at hguard
  by_cases houtside :
      (before.enter call).rtdPpsTransitionGuard.Outside call.currentRequestMv call.elapsedMs
  · rw [if_pos houtside] at hguard htemp
    obtain haccepted | ⟨hrejected, hlast, -⟩ := (reseed 0
      call.elapsedMs).observeWithHeaterDuty_cases measurement.tempC call.elapsedMs
        (before.enter call).lastHeaterDuty
    · have hnear := (observeWithHeaterDuty_reseed 0 _ _ _).mp
        (congrArg Prod.fst haccepted)
      rw [sub_zero] at hnear
      exact absurd ⟨houtside, hnear⟩ hfar
    · rw [hrejected] at htemp
      exact ⟨by rw [hguard, hlast]; rfl, htemp⟩
  · rw [if_neg houtside] at hguard htemp
    exact ⟨by rw [hguard]; rfl, htemp⟩

/-! ## A fault and a change of the request -/

def exampleMeasurement : RtdMeasurement where
  rawAdcCode := 1480
  rawAdcMv := 1078
  rawAdcMinMv := 1076
  rawAdcMaxMv := 1081
  tempC := 25

/-- A boot with a valid sample. -/
def bootedHistory : RtdHistory := .start false false (.valid exampleMeasurement)

/-- The heater is off. -/
def exampleCall (sample : RtdSample) (currentRequestMv elapsedMs : ℕ) : SampleCall where
  heaterEnabled := false
  lastHeaterDuty := 0
  sample := sample
  currentRequestMv := currentRequestMv
  elapsedMs := elapsedMs

def faultCall : SampleCall := exampleCall (.fault none .sensorOpen) 0 100

/-- After the fault the first valid sample comes with another request. -/
theorem not_all_measured : ¬ ∀ (heaterEnabled eepromRestorePending : Bool) (sample : RtdSample)
        (calls : List SampleCall) (history : RtdHistory),
        Reaches Next (.start heaterEnabled eepromRestorePending sample) calls history →
          Measured history ∧
            ∀ call after, Next history call after → Recovers history call after := by
  intro h
  have hfault : Reaches Next bootedHistory ([] ++ [faultCall]) (bootedHistory.step faultCall) :=
    .step .refl ⟨Nat.zero_le _, rfl⟩
  have hrun := hfault.step
    (⟨by decide, rfl⟩ : Next _ (exampleCall (.valid exampleMeasurement) 5000 200) _)
  have hmem := (h _ _ _ _ _ hrun).1 0 rfl
  have hmeasured : (0 : ℚ) ∈ [(25 : ℚ)] := hmem
  norm_num at hmeasured

/-- After the fault the request is that of the last valid sample. -/
theorem measured_and_recovers_example : Measured (bootedHistory.step faultCall) ∧ ∀ call after,
      Meets (bootedHistory.step faultCall) call → Next (bootedHistory.step faultCall) call after →
        Recovers (bootedHistory.step faultCall) call after := by
  have hrun : Reaches (fun before call after => Meets before call ∧ Next before call after)
      bootedHistory ([] ++ [faultCall]) (bootedHistory.step faultCall) :=
    .step .refl ⟨fun _ h => (nomatch h), Nat.zero_le _, rfl⟩
  exact measured_and_recovers hrun

end FluxPurr.Heater
