import FluxPurr.Heater.RtdRecovery

/-!
# The slew law of the control temperature

A `ControlRun` is the state of the loop with what the law speaks of: the last accepted sample,
the last change of the power request, and the samples that were rejected since then.

No sample is accepted within 300 ms of a change.  An accepted one is a step that the plate can
make since the last one, or the step was seen for the recovery window; and without heat it is no
large rise (`slew_law`).  The guard counts at least 25 ms between two samples.
-/

namespace FluxPurr.Heater

open FluxPurr.Runs RtdControlMeasurementGuard
open FluxPurr.Usb (saturatingAddU64)

/-- A valid sample, with the power request and the duty that was applied. -/
structure ControlSample where
  requestMv : ℕ
  nowMs : ℕ
  measurement : RtdMeasurement
  dutyPercent : ℕ

def ControlSample.tempC (sample : ControlSample) : ℚ := sample.measurement.tempC

structure ControlRun where
  state : RtdRuntime
  /-- The last accepted sample. -/
  acceptedC : ℚ
  acceptedMs : ℕ
  /-- The last change of the request. -/
  changedMs : Option ℕ
  /-- The samples in a row that were rejected after both. -/
  rejected : List ControlSample
  lastMs : ℕ

namespace ControlRun

variable (run : ControlRun) (sample : ControlSample)

/-- The state in which the sample finds the loop. -/
def enter : RtdRuntime := { run.state with lastHeaterDuty := sample.dutyPercent }

def accepted : Option ℚ :=
  (acceptRtdControlSampleAfterPpsTransitionWithOutput (run.enter sample) sample.requestMv
    sample.nowMs sample.tempC).1

/-- The request is not that of the sample before. -/
def Changes : Prop := run.state.rtdPpsTransitionGuard.requestMv ≠ some sample.requestMv

instance : Decidable (run.Changes sample) := inferInstanceAs (Decidable (_ ≠ _))

def step : ControlRun where
  state := (runtimeApplyRtdSample (run.enter sample) (.valid sample.measurement)
    sample.requestMv sample.nowMs).2
  acceptedC := if (run.accepted sample).isSome then sample.tempC else run.acceptedC
  acceptedMs := if (run.accepted sample).isSome then sample.nowMs else run.acceptedMs
  changedMs := if run.Changes sample then some sample.nowMs else run.changedMs
  rejected :=
    if run.Changes sample ∨ (run.accepted sample).isSome then [] else run.rejected ++ [sample]
  lastMs := sample.nowMs

/-- The control temperature of the state was accepted at this time.  A sample that the guard
already holds back was rejected before. -/
def start (state : RtdRuntime) (acceptedMs nowMs : ℕ) : ControlRun where
  state := state
  acceptedC := state.latestTempC
  acceptedMs := acceptedMs
  changedMs := none
  rejected :=
    match state.rtdControlMeasurementGuard.guardedCandidateTempC,
      state.rtdControlMeasurementGuard.guardedCandidateSinceMs with
    | some tempC, some sinceMs => [⟨0, sinceMs, ⟨0, 0, 0, 0, tempC⟩, 0⟩]
    | _, _ => []
  lastMs := nowMs

def Next (before : ControlRun) (sample : ControlSample) (after : ControlRun) : Prop :=
  before.lastMs ≤ sample.nowMs ∧ after = before.step sample

/-- The samples in a row end with a period in which all are within the recovery band of the
first, and the band has held for the recovery window at the time of the sample. -/
def Recovered : Prop :=
  ∃ front first rest, run.rejected = front ++ first :: rest ∧
    first.nowMs + rtdControlGuardRecoveryWindowMs ≤ sample.nowMs ∧
    ∀ other ∈ rest ++ [sample], |other.tempC - first.tempC| ≤ rtdControlGuardRecoveryBandC

/-- What the sample satisfies if it is accepted. -/
structure Lawful : Prop where
  unchanged : ¬run.Changes sample
  stable : ∀ changedMs ∈ run.changedMs,
    saturatingAddU64 changedMs rtdControlSampleStableAfterRequestMs ≤ sample.nowMs
  slew : |sample.tempC - run.acceptedC| ≤
      maxDeltaC
        (elapsedSince run.acceptedMs sample.nowMs) ∨
    run.Recovered sample
  unpowered : sample.dutyPercent = 0 → sample.tempC - run.acceptedC ≤
    maxUnpoweredRiseC
      (elapsedSince run.acceptedMs sample.nowMs)

variable {run sample}

/-! ## The guards -/

/-- A sample from which the guard waits for the step to persist. -/
def Waits (guard : RtdControlMeasurementGuard) (tempC : ℚ) (sinceMs : ℕ) : Prop :=
  guard.guardedCandidateTempC = some tempC ∧ guard.guardedCandidateSinceMs = some sinceMs

theorem observeWithHeaterDuty_held {guard : RtdControlMeasurementGuard} {lastC : ℚ} {lastMs : ℕ}
    (hlast : guard.lastAcceptedTempC = some lastC) (hat : guard.lastAcceptedAtMs = some lastMs)
    (tempC : ℚ) (nowMs duty : ℕ) :
    guard.observeWithHeaterDuty tempC nowMs duty = (some tempC, .reseed tempC nowMs) ∧
        (duty = 0 → tempC - lastC ≤ maxUnpoweredRiseC
          (elapsedSince lastMs nowMs)) ∧
        (|tempC - lastC| ≤ maxDeltaC
            (elapsedSince lastMs nowMs) ∨
          ∃ candidateC sinceMs, Waits guard candidateC sinceMs ∧ sinceMs + 750 ≤ nowMs ∧
            |tempC - candidateC| ≤ 3) ∨
      ∃ after, guard.observeWithHeaterDuty tempC nowMs duty = (none, after) ∧
        after.lastAcceptedTempC = some lastC ∧ after.lastAcceptedAtMs = some lastMs ∧
        ∀ candidateC sinceMs, Waits after candidateC sinceMs →
          candidateC = tempC ∧ sinceMs = nowMs ∨
            Waits guard candidateC sinceMs ∧ |tempC - candidateC| ≤ 3 := by
  rw [observeWithHeaterDuty]
  split
  · exact .inr ⟨_, rfl, hlast, hat, by rintro candidateC sinceMs ⟨⟨⟩, -⟩⟩
  · next hrises =>
    have hunpowered : duty = 0 → tempC - lastC ≤ maxUnpoweredRiseC
        (elapsedSince lastMs nowMs) := by
      intro hduty
      by_contra hlarge
      have hpositive : 0 < maxUnpoweredRiseC
          (elapsedSince lastMs nowMs) :=
        lt_min (lt_max_of_lt_right (by decide +kernel)) (by decide +kernel)
      have hrise := not_le.mp hlarge
      exact hrises ⟨lastC, hlast, lastMs, hat, hduty, by linarith, hrise⟩
    rw [RtdControlMeasurementGuard.observe, hlast, hat]
    dsimp only [Option.getD_some]
    split
    · -- the step is too large, and has to persist
      cases hcandidate : guard.guardedCandidateTempC with
      | none =>
        simp only [Option.any_none, Bool.false_eq_true, false_and, if_false]
        exact .inr ⟨_, rfl, rfl, rfl, fun _ _ h =>
          .inl ⟨(Option.some.inj h.1).symm, (Option.some.inj h.2).symm⟩⟩
      | some candidateC =>
        simp only [Option.any_some, decide_eq_true_eq]
        split
        · next hpersists =>
          refine .inl ⟨rfl, hunpowered, .inr ?_⟩
          cases hsince : guard.guardedCandidateSinceMs with
          | none =>
            rw [hsince, Option.getD_none, Nat.sub_self] at hpersists
            exact absurd hpersists.2 (by decide)
          | some sinceMs =>
            rw [hsince, Option.getD_some] at hpersists
            have hwindow : 750 ≤ nowMs - sinceMs := hpersists.2
            exact ⟨candidateC, sinceMs, ⟨hcandidate, hsince⟩, by omega, hpersists.1⟩
        · split
          · next hnear =>
            refine .inr ⟨_, rfl, rfl, rfl, fun otherC sinceMs h => .inr ⟨?_, ?_⟩⟩
            · exact ⟨hcandidate.trans h.1, h.2⟩
            · obtain rfl := Option.some.inj h.1
              exact hnear
          · exact .inr ⟨_, rfl, rfl, rfl, fun _ _ h =>
              .inl ⟨(Option.some.inj h.1).symm, (Option.some.inj h.2).symm⟩⟩
    · next hnear => exact .inl ⟨rfl, hunpowered, .inl (not_lt.mp hnear)⟩

/-- The seeded guard sees a sample outside the window of the transition guard. -/
theorem step_state (run : ControlRun) (sample : ControlSample) :
    let observed :=
      if run.state.rtdPpsTransitionGuard.Outside sample.requestMv sample.nowMs then
        (seededGuard run.state sample.requestMv sample.nowMs).observeWithHeaterDuty sample.tempC
          sample.nowMs sample.dutyPercent
      else (none, seededGuard run.state sample.requestMv sample.nowMs)
    run.accepted sample = observed.1 ∧
      (run.step sample).state.rtdControlMeasurementGuard = observed.2 ∧
      (run.step sample).state.latestTempC = observed.1.getD run.state.latestTempC ∧
      (run.step sample).state.rtdPpsTransitionGuard =
        (run.state.rtdPpsTransitionGuard.observe sample.requestMv sample.nowMs).2 := by
  have hflags := run.state.rtdPpsTransitionGuard.observe_flags sample.requestMv sample.nowMs
  obtain ⟨haccept, hseed⟩ := Prod.mk.inj hflags
  obtain ⟨hguard, htemp⟩ := runtimeApplyRtdSample_valid (run.enter sample) sample.measurement
    sample.requestMv sample.nowMs
  refine ⟨?_, hguard, htemp, ?_⟩
  · simp only [ControlRun.accepted, acceptRtdControlSampleAfterPpsTransitionWithOutput,
      ControlRun.enter, haccept, hseed, decide_eq_true_eq]
    split <;> rfl
  · simp only [ControlRun.step, runtimeApplyRtdSample, applyValidRtdMeasurement,
      updateRuntimeDisplayTemperature, acceptRtdControlSampleAfterPpsTransitionWithOutput,
      ControlRun.enter]
    split <;> rfl

/-! ## One sample -/

/-- The samples in a row end with those from the one the guard waits from. -/
def Pending (rejected : List ControlSample) (candidateC : ℚ) (sinceMs : ℕ) : Prop :=
  ∃ front first rest, rejected = front ++ first :: rest ∧ first.tempC = candidateC ∧
    first.nowMs = sinceMs ∧ ∀ other ∈ rest, |other.tempC - candidateC| ≤ 3

/-- The measurement guard holds the last accepted sample, and the guards remember the last
change and the rejected samples. -/
structure Trusted (run : ControlRun) : Prop where
  control : run.state.latestTempC = run.acceptedC
  lastC : run.state.rtdControlMeasurementGuard.lastAcceptedTempC = some run.acceptedC
  lastAt : run.state.rtdControlMeasurementGuard.lastAcceptedAtMs = some run.acceptedMs
  -- a window that is open is closed with a seed, which waits for nothing
  pending : run.state.rtdPpsTransitionGuard.blockedUntilMs = none → ∀ candidateC sinceMs,
    Waits run.state.rtdControlMeasurementGuard candidateC sinceMs →
      Pending run.rejected candidateC sinceMs
  window : ∀ changedMs ∈ run.changedMs,
    run.state.rtdPpsTransitionGuard.blockedUntilMs = some (saturatingAddU64 changedMs 300) ∨
      saturatingAddU64 changedMs 300 ≤ run.lastMs

theorem trusted_start {state : RtdRuntime} {acceptedMs nowMs : ℕ}
    (hlast : state.rtdControlMeasurementGuard.lastAcceptedTempC = some state.latestTempC)
    (hat : state.rtdControlMeasurementGuard.lastAcceptedAtMs = some acceptedMs) :
    Trusted (.start state acceptedMs nowMs) := by
  refine ⟨rfl, hlast, hat, fun _ candidateC sinceMs hwaits => ?_, nofun⟩
  have hwaits : Waits state.rtdControlMeasurementGuard candidateC sinceMs := hwaits
  have hrejected : (start state acceptedMs nowMs).rejected =
      [⟨0, sinceMs, ⟨0, 0, 0, 0, candidateC⟩, 0⟩] := by
    simp only [start, hwaits.1, hwaits.2]
  exact ⟨[], _, [], hrejected, rfl, rfl, nofun⟩

/-- The guard that observes the sample, outside the window. -/
theorem Trusted.seeded (h : Trusted run) (requestMv nowMs : ℕ) :
    (seededGuard run.state requestMv nowMs).lastAcceptedTempC = some run.acceptedC ∧
      (seededGuard run.state requestMv nowMs).lastAcceptedAtMs = some run.acceptedMs ∧
      (run.state.rtdPpsTransitionGuard.Outside requestMv nowMs → ∀ candidateC sinceMs,
        Waits (seededGuard run.state requestMv nowMs) candidateC sinceMs →
          Pending run.rejected candidateC sinceMs) := by
  rw [seededGuard]
  split
  · exact ⟨congrArg some h.control, by rw [h.lastAt]; rfl, by rintro - _ _ ⟨⟨⟩, -⟩⟩
  · next hseeds =>
    refine ⟨h.lastC, h.lastAt, fun houtside => h.pending ?_⟩
    cases hblocked : run.state.rtdPpsTransitionGuard.blockedUntilMs with
    | none => rfl
    | some untilMs => exact absurd (.inr ⟨untilMs, hblocked, houtside.2 untilMs hblocked⟩) hseeds

/-- The window of the transition guard after a sample. -/
theorem observe_window (guard : RtdPpsTransitionGuard) (requestMv nowMs : ℕ) :
    guard.Outside requestMv nowMs ∨
      guard.requestMv ≠ some requestMv ∧ (guard.observe requestMv nowMs).2.blockedUntilMs =
        some (saturatingAddU64 nowMs 300) ∨
      guard.requestMv = some requestMv ∧ guard.blockedUntilMs ≠ none ∧
        (guard.observe requestMv nowMs).2 = guard := by
  unfold RtdPpsTransitionGuard.observe
  by_cases hrequest : guard.requestMv ≠ some requestMv
  · rw [if_pos hrequest]
    exact .inr (.inl ⟨hrequest, rfl⟩)
  have hsame := not_not.mp hrequest
  rw [if_neg hrequest]
  cases hblocked : guard.blockedUntilMs with
  | none => exact .inl ⟨hsame, fun _ h => nomatch hblocked.symm.trans h⟩
  | some untilMs =>
    dsimp only
    split
    · exact .inr (.inr ⟨hsame, nofun, rfl⟩)
    · next hended =>
      refine .inl ⟨hsame, fun otherMs h => ?_⟩
      obtain rfl := Option.some.inj (hblocked.symm.trans h)
      exact not_lt.mp hended

theorem Pending.concat {rejected : List ControlSample} {candidateC : ℚ} {sinceMs : ℕ}
    (h : Pending rejected candidateC sinceMs) (hnear : |sample.tempC - candidateC| ≤ 3) :
    Pending (rejected ++ [sample]) candidateC sinceMs := by
  obtain ⟨front, first, rest, rfl, hfirst, hsince, hband⟩ := h
  refine ⟨front, first, rest ++ [sample], by simp, hfirst, hsince, fun other hmem => ?_⟩
  rcases List.mem_append.mp hmem with hmem | hmem
  · exact hband other hmem
  · obtain rfl := List.mem_singleton.mp hmem
    exact hnear

/-- A sample outside the window is accepted by the law, or the guard goes on waiting. -/
theorem Trusted.outside (h : Trusted run) (hle : run.lastMs ≤ sample.nowMs)
    (houtside : run.state.rtdPpsTransitionGuard.Outside sample.requestMv sample.nowMs) :
    Trusted (run.step sample) ∧
      ∀ controlC ∈ run.accepted sample, controlC = sample.tempC ∧ run.Lawful sample := by
  obtain ⟨haccepted, hguard, htemp, -⟩ := step_state run sample
  obtain ⟨hlastC, hlastAt, hpending⟩ := h.seeded sample.requestMv sample.nowMs
  rw [if_pos houtside] at haccepted hguard htemp
  have hchanges : ¬run.Changes sample := not_not.mpr houtside.1
  have hstable : ∀ changedMs ∈ run.changedMs,
      saturatingAddU64 changedMs 300 ≤ sample.nowMs := by
    intro changedMs hchanged
    rcases h.window changedMs hchanged with hblocked | hpassed
    · exact houtside.2 _ hblocked
    · exact hpassed.trans hle
  have hwindow : ∀ changedMs ∈ (run.step sample).changedMs,
      (run.step sample).state.rtdPpsTransitionGuard.blockedUntilMs =
          some (saturatingAddU64 changedMs 300) ∨
        saturatingAddU64 changedMs 300 ≤ (run.step sample).lastMs := by
    intro changedMs hchanged
    exact .inr (hstable changedMs (by simpa [step, hchanges] using hchanged))
  obtain ⟨heq, hunpowered, hslew⟩ | ⟨after, heq, hafterC, hafterAt, hwaits⟩ :=
    observeWithHeaterDuty_held hlastC hlastAt sample.tempC sample.nowMs sample.dutyPercent
  · rw [heq] at haccepted hguard htemp
    refine ⟨⟨?_, ?_, ?_, ?_, hwindow⟩, fun controlC hcontrol => ⟨?_, hchanges, hstable, ?_,
      hunpowered⟩⟩
    · simpa [step, haccepted] using htemp
    · rw [hguard]
      simp [step, haccepted, reseed]
    · rw [hguard]
      simp [step, haccepted, reseed]
    · intro _ candidateC sinceMs hwaits
      rw [hguard] at hwaits
      cases hwaits.1
    · exact (Option.some.inj (haccepted.symm.trans hcontrol)).symm
    · refine hslew.imp_right ?_
      rintro ⟨candidateC, sinceMs, hwaits, hlong, hnear⟩
      obtain ⟨front, first, rest, hrejected, rfl, rfl, hband⟩ :=
        (hpending houtside candidateC sinceMs hwaits)
      refine ⟨front, first, rest, hrejected, hlong, fun other hmem => ?_⟩
      rcases List.mem_append.mp hmem with hmem | hmem
      · exact hband other hmem
      · obtain rfl := List.mem_singleton.mp hmem
        exact hnear
  · rw [heq] at haccepted hguard htemp
    have hrejected : (run.step sample).rejected = run.rejected ++ [sample] := by
      simp [step, hchanges, haccepted]
    refine ⟨⟨?_, ?_, ?_, ?_, hwindow⟩, fun _ hcontrol => by cases haccepted.symm.trans hcontrol⟩
    · simpa [step, haccepted, h.control] using htemp
    · rw [hguard]
      simpa [step, haccepted] using hafterC
    · rw [hguard]
      simpa [step, haccepted] using hafterAt
    · intro _ candidateC sinceMs hafter
      rw [hguard] at hafter
      rw [hrejected]
      rcases hwaits candidateC sinceMs hafter with ⟨rfl, rfl⟩ | ⟨hbefore, hnear⟩
      · exact ⟨run.rejected, sample, [], rfl, rfl, rfl, by simp⟩
      · exact (hpending houtside candidateC sinceMs hbefore).concat hnear

/-- A sample inside the window is kept from the measurement guard. -/
theorem Trusted.inside (h : Trusted run) (hle : run.lastMs ≤ sample.nowMs)
    (hinside : ¬run.state.rtdPpsTransitionGuard.Outside sample.requestMv sample.nowMs) :
    Trusted (run.step sample) ∧ run.accepted sample = none := by
  obtain ⟨haccepted, hguard, htemp, htransition⟩ := step_state run sample
  obtain ⟨hlastC, hlastAt, -⟩ := h.seeded sample.requestMv sample.nowMs
  rw [if_neg hinside] at haccepted hguard htemp
  have hcontrol : (run.step sample).state.latestTempC = (run.step sample).acceptedC := by
    simpa [step, haccepted, h.control] using htemp
  have hstepC : (run.step sample).state.rtdControlMeasurementGuard.lastAcceptedTempC =
      some (run.step sample).acceptedC := by
    rw [hguard]
    simpa [step, haccepted] using hlastC
  have hstepAt : (run.step sample).state.rtdControlMeasurementGuard.lastAcceptedAtMs =
      some (run.step sample).acceptedMs := by
    rw [hguard]
    simpa [step, haccepted] using hlastAt
  rcases observe_window run.state.rtdPpsTransitionGuard sample.requestMv sample.nowMs with
    houtside | ⟨hchanges, hblocked⟩ | ⟨hsame, hopen, hkept⟩
  · exact absurd houtside hinside
  · have hchanges : run.Changes sample := hchanges
    rw [← htransition] at hblocked
    refine ⟨⟨hcontrol, hstepC, hstepAt, fun hnone => ?_, fun changedMs hchanged => ?_⟩, haccepted⟩
    · exact nomatch hblocked.symm.trans hnone
    · have hnow : sample.nowMs = changedMs := by simpa [step, hchanges] using hchanged
      exact .inl (hnow ▸ hblocked)
  · have hchanges : ¬run.Changes sample := not_not.mpr hsame
    rw [← htransition] at hkept
    refine ⟨⟨hcontrol, hstepC, hstepAt, fun hnone => ?_, fun changedMs hchanged => ?_⟩, haccepted⟩
    · rw [hkept] at hnone
      exact absurd hnone hopen
    · rw [hkept]
      exact (h.window changedMs (by simpa [step, hchanges] using hchanged)).imp_right
        fun hpassed => hpassed.trans hle

/-! ## Runs -/

theorem Trusted.next (h : Trusted run) (hle : run.lastMs ≤ sample.nowMs) :
    Trusted (run.step sample) ∧
      ∀ controlC ∈ run.accepted sample, controlC = sample.tempC ∧ run.Lawful sample := by
  by_cases houtside : run.state.rtdPpsTransitionGuard.Outside sample.requestMv sample.nowMs
  · exact h.outside hle houtside
  · obtain ⟨hstep, hnone⟩ := h.inside hle houtside
    exact ⟨hstep, fun _ hcontrol => nomatch hnone.symm.trans hcontrol⟩

/-- Every sample that is accepted in a run obeys the law. -/
theorem slew_law {state : RtdRuntime} {acceptedMs nowMs : ℕ} {samples : List ControlSample}
    (hlast : state.rtdControlMeasurementGuard.lastAcceptedTempC = some state.latestTempC)
    (hat : state.rtdControlMeasurementGuard.lastAcceptedAtMs = some acceptedMs)
    (hrun : Reaches Next (.start state acceptedMs nowMs) samples run)
    (hle : run.lastMs ≤ sample.nowMs) :
    ∀ controlC ∈ run.accepted sample, controlC = sample.tempC ∧ run.Lawful sample := by
  have htrusted : Trusted run := by
    refine hrun.invariant (trusted_start hlast hat) fun before next after hbefore hnext => ?_
    obtain ⟨hlater, rfl⟩ := hnext
    exact (hbefore.next hlater).1
  exact (htrusted.next hle).2

/-! ## Two samples ten milliseconds apart -/

/-- The heater is on, under the request of the boot. -/
def poweredSample (nowMs : ℕ) (tempC : ℚ) : ControlSample where
  requestMv := 0
  nowMs := nowMs
  measurement := { exampleMeasurement with tempC := tempC }
  dutyPercent := 100

def bootedRun : ControlRun := .start bootedHistory.state 0 0

theorem slew_law_boot : bootedRun.Lawful (poweredSample 10 (51 / 2)) :=
  (slew_law rfl rfl (.refl : Reaches Next bootedRun [] bootedRun) (by decide) _
    (by decide +kernel : bootedRun.accepted (poweredSample 10 (51 / 2)) = some (51 / 2))).2

/-- Half a degree in 10 ms is a slew of 50 degrees per second. -/
theorem accepts_faster_step :
    bootedRun.accepted (poweredSample 10 (51 / 2)) = some (51 / 2) ∧ bootedRun.acceptedC = 25 ∧
      bootedRun.acceptedMs = 0 ∧ bootedRun.rejected = [] ∧
      rtdControlMaxSlewCPerS * (10 / 1000) < |51 / 2 - 25| :=
  ⟨by decide +kernel, rfl, rfl, rfl, by decide +kernel⟩

end ControlRun
end FluxPurr.Heater
