import FluxPurr.Buzzer.Fate

/-!
# Runs of the buzzer arbiter

`BuzzerRun` records, beside the arbiter, when the steps of the present cue were put out, and
the same for the cues that a tick has ended.  Every operation drives the controller in one of
few ways (`Drives`), which keep the record in order (`PlaysInOrder`).
-/

namespace FluxPurr.Buzzer

open FluxPurr.Runs

/-- The arbiter, with the times at which it put out the steps of the cue that was started last,
and those of the cues that a tick has ended. -/
structure BuzzerRun where
  arbiter : BuzzerArbiter
  times : List ℕ
  ended : List (BuzzerCueId × List ℕ)

namespace BuzzerRun

def new : BuzzerRun := ⟨.new, [], []⟩

variable (run : BuzzerRun)

/-- A cue that is started by an operation at this time begins a new record. -/
def noteStart (after : BuzzerArbiter) (nowMs : ℕ) : BuzzerRun :=
  { run with
    arbiter := after
    times :=
      if after.isActive ∧ after.controller.generation ≠ run.arbiter.controller.generation then
        [nowMs]
      else run.times }

/-- A tick is noted if it goes on to another step or ends the cue. -/
def noteStep (nowMs : ℕ) : BuzzerRun :=
  match run.arbiter.controller.active, (run.arbiter.controller.tick nowMs).active with
  | some active, some next =>
      if next.stepIndex.val = active.stepIndex.val then run
      else { run with times := run.times ++ [nowMs] }
  | some active, none => { run with ended := run.ended ++ [(active.cue, run.times ++ [nowMs])] }
  | none, _ => run

def step (operation : BuzzerOperation) : BuzzerRun :=
  let after := (run.arbiter.perform operation).2
  match operation with
  | .activateProtection _ nowMs | .requestProtectionReplay _ nowMs
  | .requestAttentionReminder _ nowMs | .requestFeedback _ _ nowMs => run.noteStart after nowMs
  | .enterAttentionPending | .clearAttention => { run with arbiter := after }
  | .tick nowMs => (run.noteStep nowMs).noteStart after nowMs

def Next (operation : BuzzerOperation) (after : BuzzerRun) : Prop := after = run.step operation

/-- The steps of every cue were put out in order, up to the present one or to the last. -/
structure PlaysInOrder (Kept : BuzzerStep → ℕ → ℕ → Prop) (run : BuzzerRun) : Prop where
  playing : ∀ active, run.arbiter.controller.active = some active →
    run.arbiter.controller.Plays Kept active run.times
  ended : ∀ record ∈ run.ended, BuzzerController.Played Kept record.1 record.2

end BuzzerRun

/-! ## How an operation drives the controller -/

namespace BuzzerController

/-- Nothing changes, or a cue is played. -/
inductive Drives (controller : BuzzerController) (nowMs : ℕ) : BuzzerController → Prop
  | keeps : Drives controller nowMs controller
  | plays (cue : BuzzerCueId) : Drives controller nowMs (controller.play cue nowMs)

end BuzzerController

namespace BuzzerArbiter

open BuzzerController (Drives)

variable (arbiter : BuzzerArbiter) (source : BuzzerCueSource)

theorem drives_requestProtectionReplay (nowMs : ℕ) :
    Drives arbiter.controller nowMs (arbiter.requestProtectionReplay source nowMs).2.controller := by
  unfold requestProtectionReplay
  split_ifs
  · exact .keeps
  · exact .keeps
  · exact .plays _

theorem drives_requestAttentionReminder (nowMs : ℕ) :
    Drives arbiter.controller nowMs
      (arbiter.requestAttentionReminder source nowMs).2.controller := by
  unfold requestAttentionReminder
  split
  · exact .keeps
  · split
    · exact .plays _
    · exact .keeps
    · exact .keeps
    · split
      · exact .keeps
      · exact .keeps

theorem drives_requestFeedback (cue : BuzzerCueId) (nowMs : ℕ) :
    Drives arbiter.controller nowMs (arbiter.requestFeedback source cue nowMs).2.controller := by
  unfold requestFeedback
  split
  · exact .keeps
  · split
    · exact .keeps
    · split
      · exact .plays _
      · dsimp only
        split
        · exact .keeps
        · split
          · exact .keeps
          · exact .keeps

theorem drives_startDeferred (nowMs : ℕ) :
    Drives arbiter.controller nowMs (arbiter.startDeferred nowMs).2.controller := by
  unfold startDeferred
  split
  · exact .keeps
  · split
    · split
      · exact .keeps
      · exact .plays _
    · split
      · split
        · exact .keeps
        · exact .plays _
      · exact .keeps

theorem stopped_enterAttentionPending : arbiter.enterAttentionPending.2.controller.active = none ∨
      arbiter.enterAttentionPending.2.controller = arbiter.controller := by
  unfold enterAttentionPending
  dsimp only
  split
  · exact .inl rfl
  · exact .inr rfl

theorem stopped_clearAttention : arbiter.clearAttention.2.controller.active = none ∨
      arbiter.clearAttention.2.controller = arbiter.controller := by
  unfold clearAttention
  dsimp only
  split
  · exact .inl rfl
  · exact .inl rfl
  · exact .inr rfl

end BuzzerArbiter

open BuzzerArbiter

namespace BuzzerRun

open BuzzerController (Drives Held Played)

variable {run : BuzzerRun} {after : BuzzerArbiter} {operation : BuzzerOperation} {nowMs : ℕ}
  {operations : List BuzzerOperation}

theorem playsInOrder_new : new.PlaysInOrder Held where
  playing := fun _ h => by cases h
  ended := fun _ h => by cases h

theorem PlaysInOrder.keeps (h : run.PlaysInOrder Held)
    (hcontroller : after.controller = run.arbiter.controller) (nowMs : ℕ) :
    (run.noteStart after nowMs).PlaysInOrder Held := by
  unfold noteStart
  rw [hcontroller, if_neg fun hstart => hstart.2 rfl]
  refine ⟨?_, h.ended⟩
  change ∀ active, after.controller.active = some active →
    after.controller.Plays Held active run.times
  rw [hcontroller]
  exact h.playing

theorem PlaysInOrder.plays (h : run.PlaysInOrder Held) {controller : BuzzerController}
    {cue : BuzzerCueId} (hcontroller : after.controller = controller.play cue nowMs)
    (hgeneration : after.controller.generation ≠ run.arbiter.controller.generation) :
    (run.noteStart after nowMs).PlaysInOrder Held := by
  have hactive : after.isActive = true := by
    unfold isActive
    rw [hcontroller]
    rfl
  unfold noteStart
  rw [if_pos ⟨hactive, hgeneration⟩]
  refine ⟨?_, h.ended⟩
  change ∀ active, after.controller.active = some active →
    after.controller.Plays Held active [nowMs]
  rw [hcontroller]
  intro active hplaying
  cases hplaying
  exact controller.plays_play cue nowMs

theorem PlaysInOrder.drives (h : run.PlaysInOrder Held)
    (hdrives : Drives run.arbiter.controller nowMs after.controller) :
    (run.noteStart after nowMs).PlaysInOrder Held := by
  generalize hcontroller : after.controller = controller at hdrives
  cases hdrives with
  | keeps => exact h.keeps hcontroller nowMs
  | plays cue =>
    refine h.plays hcontroller ?_
    rw [hcontroller]
    exact (BuzzerController.generation_ne _).1

theorem PlaysInOrder.noteStep (h : run.PlaysInOrder Held) (nowMs : ℕ) :
    (∀ active, (run.arbiter.controller.tick nowMs).active = some active →
      (run.arbiter.controller.tick nowMs).Plays Held active (run.noteStep nowMs).times) ∧
      ∀ record ∈ (run.noteStep nowMs).ended, Played Held record.1 record.2 := by
  unfold BuzzerRun.noteStep
  cases hactive : run.arbiter.controller.active with
  | none =>
    refine ⟨fun active hticked => ?_, h.ended⟩
    rw [BuzzerController.tick_of_none hactive] at hticked
    cases hactive.symm.trans hticked
  | some active =>
    rcases (h.playing active hactive).tick hactive nowMs with
      ⟨hticked, hplays⟩ | ⟨next, hticked, -, hindex, hplays⟩ | ⟨hticked, hplayed⟩
    · rw [hticked]
      dsimp only
      rw [if_pos rfl]
      refine ⟨fun active' heq => ?_, h.ended⟩
      cases heq
      exact hplays
    · rw [hticked]
      dsimp only
      rw [if_neg (by omega)]
      refine ⟨fun active' heq => ?_, h.ended⟩
      cases heq
      exact hplays
    · rw [hticked]
      refine ⟨(fun active' heq => by cases heq), fun record hmem => ?_⟩
      rcases List.mem_append.mp hmem with hmem | hmem
      · exact h.ended record hmem
      · rw [List.mem_singleton.mp hmem]
        exact hplayed

theorem arbiter_noteStep (run : BuzzerRun) (nowMs : ℕ) :
    (run.noteStep nowMs).arbiter = run.arbiter := by
  unfold BuzzerRun.noteStep
  split
  · split <;> rfl
  · rfl
  · rfl

theorem PlaysInOrder.tick (h : run.PlaysInOrder Held) (nowMs : ℕ) :
    (run.step (.tick nowMs)).PlaysInOrder Held := by
  have hnoted := h.noteStep nowMs
  have hdrives : Drives (run.arbiter.controller.tick nowMs) nowMs
      ((run.arbiter.tickController nowMs).startDeferred nowMs).2.controller :=
    (run.arbiter.tickController nowMs).drives_startDeferred nowMs
  change ((run.noteStep nowMs).noteStart
    ((run.arbiter.tickController nowMs).startDeferred nowMs).2 nowMs).PlaysInOrder Held
  generalize ((run.arbiter.tickController nowMs).startDeferred nowMs).2 = after at hdrives ⊢
  unfold noteStart
  rw [arbiter_noteStep]
  generalize hcontroller : after.controller = controller at hdrives
  cases hdrives with
  | keeps =>
    have hcontinues : ¬(after.isActive = true ∧
        (run.arbiter.controller.tick nowMs).generation ≠ run.arbiter.controller.generation) := by
      rintro ⟨hactive, hgeneration⟩
      rcases run.arbiter.controller.activeCue_tick nowMs with hnone | ⟨-, hsame⟩
      · rw [← hcontroller] at hnone
        cases (isActive_eq after).symm.trans hactive |>.symm.trans
          (congrArg Option.isSome hnone)
      · exact hgeneration hsame
    rw [if_neg hcontinues]
    refine ⟨?_, hnoted.2⟩
    change ∀ active, after.controller.active = some active →
      after.controller.Plays Held active (run.noteStep nowMs).times
    rw [hcontroller]
    exact hnoted.1
  | plays cue =>
    have hgeneration : (run.arbiter.controller.tick nowMs).generation + 1 ≠
        run.arbiter.controller.generation := by
      rcases run.arbiter.controller.generation_tick nowMs with hsame | hnext
      · rw [hsame]
        exact (BuzzerController.generation_ne _).1
      · rw [hnext]
        exact (BuzzerController.generation_ne _).2
    have hactive : after.isActive = true := by
      unfold isActive
      rw [hcontroller]
      rfl
    rw [if_pos ⟨hactive, hgeneration⟩]
    refine ⟨?_, hnoted.2⟩
    change ∀ active, after.controller.active = some active →
      after.controller.Plays Held active [nowMs]
    rw [hcontroller]
    intro active hplaying
    cases hplaying
    exact BuzzerController.plays_play _ cue nowMs

theorem PlaysInOrder.stopped (h : run.PlaysInOrder Held)
    (hstopped : after.controller.active = none ∨ after.controller = run.arbiter.controller) :
    PlaysInOrder Held { run with arbiter := after } := by
  refine ⟨?_, h.ended⟩
  change ∀ active, after.controller.active = some active →
    after.controller.Plays Held active run.times
  rcases hstopped with hnone | hsame
  · intro active hactive
    cases hnone.symm.trans hactive
  · rw [hsame]
    exact h.playing

theorem PlaysInOrder.step (h : run.PlaysInOrder Held) (operation : BuzzerOperation) :
    (run.step operation).PlaysInOrder Held := by
  cases operation with
  | activateProtection source nowMs => exact h.drives (.plays _)
  | requestProtectionReplay source nowMs =>
    exact h.drives (run.arbiter.drives_requestProtectionReplay source nowMs)
  | enterAttentionPending => exact h.stopped run.arbiter.stopped_enterAttentionPending
  | clearAttention => exact h.stopped run.arbiter.stopped_clearAttention
  | requestAttentionReminder source nowMs =>
    exact h.drives (run.arbiter.drives_requestAttentionReminder source nowMs)
  | requestFeedback source cue nowMs =>
    exact h.drives (run.arbiter.drives_requestFeedback source cue nowMs)
  | tick nowMs => exact h.tick nowMs

theorem arbiter_step (run : BuzzerRun) (operation : BuzzerOperation) :
    (run.step operation).arbiter = (run.arbiter.perform operation).2 := by
  cases operation <;> rfl

structure Invariant (run : BuzzerRun) : Prop where
  arbiter : run.arbiter.Invariant
  plays : run.PlaysInOrder Held

theorem invariant_of_reaches (h : Reaches Next new operations run) : run.Invariant := by
  have hnew : new.Invariant := ⟨invariant_new, playsInOrder_new⟩
  refine h.invariant hnew ?_
  rintro run operation _ hinvariant rfl
  refine ⟨?_, hinvariant.plays.step operation⟩
  rw [arbiter_step]
  exact hinvariant.arbiter.perform operation

/-! ## Arbitration -/

/-- What holds of the arbiter between two operations and for the next of them. -/
structure Arbitrates (Kept : BuzzerStep → ℕ → ℕ → Prop) (run : BuzzerRun) : Prop where
  protection : run.arbiter.safetyState = .protectionActive →
    run.arbiter.activeCue = none ∨ run.arbiter.activeCue = some .protectionAlarm
  onlyAlarm : ∀ operation cue, run.arbiter.safetyState = .protectionActive ∨
      (run.arbiter.perform operation).2.safetyState = .protectionActive →
    run.arbiter.Starts (run.arbiter.perform operation).2 cue → cue = .protectionAlarm
  feedback : run.arbiter.pendingFeedback.isSome = true →
    run.arbiter.safetyState = .normal ∧ run.arbiter.isActive = true
  attention : run.arbiter.pendingAttention.isSome = true →
    run.arbiter.safetyState = .attentionPending ∧ run.arbiter.isActive = true
  fate : ∀ operation decision, (run.arbiter.perform operation).1 = some decision →
    decision.disposition.isQueueing = true → ∀ operations,
      BuzzerArbiter.Fate ⟨decision.source, decision.cue⟩ (run.arbiter.perform operation).2 operations
  audible : run.arbiter.output.frequencyHz.isSome = true → run.arbiter.isActive = true
  audibleTick : ∀ nowMs, (run.arbiter.tick nowMs).1.output.frequencyHz.isSome = true →
    (run.arbiter.tick nowMs).2.isActive = true
  inOrder : run.PlaysInOrder Kept

theorem audible_of_silent (h : after.controller.Silent)
    (haudible : after.output.frequencyHz.isSome = true) : after.isActive = true := by
  by_contra hidle
  have hnone : after.controller.active = none := Option.not_isSome_iff_eq_none.mp hidle
  have hsilent : after.output.frequencyHz = none := h hnone
  rw [hsilent] at haudible
  cases haudible

/-- A step is held for its duration. -/
def HeldForDuration (step : BuzzerStep) (beganMs endedMs : ℕ) : Prop :=
  beganMs + step.durationMs ≤ endedMs

/-- In every run the arbiter keeps the alarm alone, loses no cue and plays in order, a step at
least for its duration or until the end of the clock. -/
theorem arbitrates_of_reaches (h : Reaches Next new operations run) : run.Arbitrates Held := by
  obtain ⟨hinvariant, hplays⟩ := invariant_of_reaches h
  exact {
    protection := hinvariant.protection
    onlyAlarm := fun _ _ hsafety hstarts =>  eq_protectionAlarm_of_starts hinvariant hsafety hstarts
    feedback := fun hpending => ⟨hinvariant.feedback hpending, hinvariant.playing (.inl hpending)⟩
    attention := fun hpending =>
      ⟨hinvariant.attention hpending, hinvariant.playing (.inr hpending)⟩
    fate := fun operation _ hreported hqueueing operations =>
      (waits_of_reported hreported hqueueing).fate operations
        (hinvariant.perform operation)
    audible := audible_of_silent hinvariant.silent
    audibleTick := fun nowMs => audible_of_silent (hinvariant.tick nowMs).silent
    inOrder := hplays }

/-- A reminder that waits for a feedback cue. -/
def reminderOperations : List BuzzerOperation :=
  [.requestFeedback .frontPanel .heaterOn 0, .enterAttentionPending,
    .requestAttentionReminder .thermalAttention 10, .tick 60]

theorem arbitrates_reminder : (reminderOperations.foldl step new).Arbitrates Held :=
  arbitrates_of_reaches (.of_foldl step new reminderOperations)

/-- At the end of the clock a cue goes on to its rest at once. -/
theorem not_all_held_for_duration : ¬∀ (operations : List BuzzerOperation) (run : BuzzerRun),
      Reaches Next new operations run → run.Arbitrates HeldForDuration := by
  intro h
  have harbitrates := h _ _ (.of_foldl step new
    [.requestFeedback .frontPanel .heaterOn (2 ^ 64 - 1), .tick (2 ^ 64 - 1)])
  have hplays := harbitrates.inOrder.playing _ rfl
  exact absurd hplays.inOrder.1 (by unfold HeldForDuration; decide)

end BuzzerRun

end FluxPurr.Buzzer
