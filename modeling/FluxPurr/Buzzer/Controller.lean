import Mathlib.Order.MinMax
import FluxPurr.Usb.ResponseWriter

/-!
# The step sequencer of the buzzer

A cue is a pattern of tones and rests.  The controller puts out one step at a time and goes on
to the next when it is ticked after the end of the present one.  A late tick takes one step
only, so that no rest is lost.

`Plays` says that the steps since the start of the cue were put out in order, each for its
duration, and is preserved by every tick (`Plays.tick`).  The clock is a `u64` and the end of a
step saturates, which is why a step may also end with the clock (`Held`).
-/

namespace FluxPurr.Buzzer

open FluxPurr.Usb (saturatingAddU64)

inductive BuzzerCueId where
  | uiInput
  | heaterOn
  | heaterOff
  | activeCoolingOn
  | activeCoolingOff
  | heaterReject
  | activeCoolingReject
  | protectionAlarm
  | attentionReminder
deriving DecidableEq, Repr

def BuzzerCueId.isFeedback : BuzzerCueId → Bool
  | protectionAlarm | attentionReminder => false
  | _ => true

structure BuzzerStep where
  frequencyHz : Option ℕ
  dutyPercent : ℕ
  durationMs : ℕ
deriving DecidableEq, Repr

namespace BuzzerStep

def tone (frequencyHz durationMs : ℕ) : BuzzerStep := ⟨some frequencyHz, 50, durationMs⟩

def rest (durationMs : ℕ) : BuzzerStep := ⟨none, 0, durationMs⟩

end BuzzerStep

structure BuzzerPattern where
  steps : List BuzzerStep
  looping : Bool
deriving DecidableEq, Repr

structure BuzzerOutput where
  frequencyHz : Option ℕ
  dutyPercent : ℕ
  generation : UInt32
deriving DecidableEq, Repr

def BuzzerOutput.silentWithGeneration (generation : UInt32) : BuzzerOutput := ⟨none, 0, generation⟩

def BuzzerOutput.silent : BuzzerOutput := silentWithGeneration 0

/-! ## Patterns -/

def uiInputPattern : List BuzzerStep := [.tone 1080 45]

def heaterOnPattern : List BuzzerStep := [.tone 1240 60, .rest 30, .tone 1680 80]

def heaterOffPattern : List BuzzerStep := [.tone 1680 60, .rest 30, .tone 1240 80]

def activeCoolingOnPattern : List BuzzerStep :=
  [.tone 900 45, .rest 25, .tone 1200 45, .rest 25, .tone 1550 70]

def activeCoolingOffPattern : List BuzzerStep :=
  [.tone 1550 45, .rest 25, .tone 1200 45, .rest 25, .tone 900 70]

def heaterRejectPattern : List BuzzerStep := [.tone 420 120, .rest 35, .tone 360 150]

def activeCoolingRejectPattern : List BuzzerStep :=
  [.tone 480 75, .rest 20, .tone 480 75, .rest 20, .tone 320 120]

def protectionAlarmPattern : List BuzzerStep := [.tone 2300 90, .rest 40, .tone 2300 90, .rest 80]

def attentionReminderPattern : List BuzzerStep := [.tone 1650 70, .rest 30, .tone 2200 110]

def patternFor : BuzzerCueId → BuzzerPattern
  | .uiInput => ⟨uiInputPattern, false⟩
  | .heaterOn => ⟨heaterOnPattern, false⟩
  | .heaterOff => ⟨heaterOffPattern, false⟩
  | .activeCoolingOn => ⟨activeCoolingOnPattern, false⟩
  | .activeCoolingOff => ⟨activeCoolingOffPattern, false⟩
  | .heaterReject => ⟨heaterRejectPattern, false⟩
  | .activeCoolingReject => ⟨activeCoolingRejectPattern, false⟩
  | .protectionAlarm => ⟨protectionAlarmPattern, false⟩
  | .attentionReminder => ⟨attentionReminderPattern, false⟩

theorem length_steps_pos (cue : BuzzerCueId) : 0 < (patternFor cue).steps.length := by
  cases cue <;> decide

theorem not_looping (cue : BuzzerCueId) : (patternFor cue).looping = false := by
  cases cue <;> rfl

def outputForStep (step : BuzzerStep) (generation : UInt32) : BuzzerOutput :=
  ⟨step.frequencyHz, step.dutyPercent, generation⟩

/-! ## The controller -/

/-- The index of the step lies in the pattern. -/
structure ActiveCue where
  cue : BuzzerCueId
  stepIndex : Fin (patternFor cue).steps.length
  stepStartedMs : ℕ

namespace ActiveCue

def step (active : ActiveCue) : BuzzerStep := (patternFor active.cue).steps.get active.stepIndex

/-- The cue after its present step, if it goes on. -/
def advance (active : ActiveCue) (stepStartedMs : ℕ) : Option ActiveCue :=
  if hnext : active.stepIndex + 1 < (patternFor active.cue).steps.length then
    some ⟨active.cue, ⟨active.stepIndex + 1, hnext⟩, stepStartedMs⟩
  else if (patternFor active.cue).looping then
    some ⟨active.cue, ⟨0, length_steps_pos active.cue⟩, stepStartedMs⟩
  else none

end ActiveCue

structure BuzzerController where
  active : Option ActiveCue
  output : BuzzerOutput
  generation : UInt32

namespace BuzzerController

def new : BuzzerController := ⟨none, .silent, 0⟩

def activeCue (controller : BuzzerController) : Option BuzzerCueId :=
  controller.active.map ActiveCue.cue

def isActive (controller : BuzzerController) : Bool := controller.active.isSome

def play (controller : BuzzerController) (cue : BuzzerCueId) (nowMs : ℕ) : BuzzerController :=
  let active : ActiveCue := ⟨cue, ⟨0, length_steps_pos cue⟩, nowMs⟩
  let generation := controller.generation + 1
  ⟨some active, outputForStep active.step generation, generation⟩

def stop (controller : BuzzerController) : BuzzerController :=
  let generation :=
    if controller.active.isSome ∨ controller.output.frequencyHz.isSome ∨
        controller.output.dutyPercent ≠ 0 then controller.generation + 1
    else controller.generation
  ⟨none, .silentWithGeneration generation, generation⟩

def tick (controller : BuzzerController) (nowMs : ℕ) : BuzzerController :=
  match controller.active with
  | none => { controller with output := .silentWithGeneration controller.generation }
  | some active =>
      let scheduledEndMs := saturatingAddU64 active.stepStartedMs active.step.durationMs
      if nowMs < scheduledEndMs then
        { controller with output := outputForStep active.step controller.generation }
      else
        match active.advance (max scheduledEndMs nowMs) with
        | some next =>
            { controller with
              active := some next
              output := outputForStep next.step controller.generation }
        | none =>
            let generation := controller.generation + 1
            ⟨none, .silentWithGeneration generation, generation⟩

variable {controller : BuzzerController} {active : ActiveCue} {nowMs : ℕ}

/-! ## One tick -/

theorem advance_eq (active : ActiveCue) (stepStartedMs : ℕ) :
    active.advance stepStartedMs =
      if hnext : active.stepIndex + 1 < (patternFor active.cue).steps.length then
        some ⟨active.cue, ⟨active.stepIndex + 1, hnext⟩, stepStartedMs⟩
      else none := by
  unfold ActiveCue.advance
  rw [not_looping]
  rfl

theorem eq_length_of_advance {stepStartedMs : ℕ} (h : active.advance stepStartedMs = none) :
    active.stepIndex + 1 = (patternFor active.cue).steps.length := by
  have hindex := active.stepIndex.isLt
  rw [advance_eq] at h
  split_ifs at h with hnext
  omega

theorem eq_of_advance {next : ActiveCue} {stepStartedMs : ℕ}
    (h : active.advance stepStartedMs = some next) :
    ∃ hnext : active.stepIndex + 1 < (patternFor active.cue).steps.length,
      next = ⟨active.cue, ⟨active.stepIndex + 1, hnext⟩, stepStartedMs⟩ := by
  rw [advance_eq] at h
  split_ifs at h with hnext
  exact ⟨hnext, (Option.some.inj h).symm⟩

theorem tick_of_none (h : controller.active = none) :
    controller.tick nowMs =
      { controller with output := .silentWithGeneration controller.generation } := by
  unfold tick
  rw [h]

/-- What a tick does with the present step: it holds it, goes on to the next one or, after the
last one, ends the cue. -/
inductive Ticked (controller : BuzzerController) (active : ActiveCue) (nowMs : ℕ) :
    BuzzerController → Prop
  | holds :
      Ticked controller active nowMs
        { controller with output := outputForStep active.step controller.generation }
  | advances (hnext : active.stepIndex + 1 < (patternFor active.cue).steps.length)
      (hended : saturatingAddU64 active.stepStartedMs active.step.durationMs ≤ nowMs) :
      Ticked controller active nowMs
        { controller with
          active := some ⟨active.cue, ⟨active.stepIndex + 1, hnext⟩, nowMs⟩
          output := outputForStep ((patternFor active.cue).steps.get ⟨_, hnext⟩)
            controller.generation }
  | ends (hlast : active.stepIndex + 1 = (patternFor active.cue).steps.length)
      (hended : saturatingAddU64 active.stepStartedMs active.step.durationMs ≤ nowMs) :
      Ticked controller active nowMs
        ⟨none, .silentWithGeneration (controller.generation + 1), controller.generation + 1⟩

theorem ticked (nowMs : ℕ) (h : controller.active = some active) :
    Ticked controller active nowMs (controller.tick nowMs) := by
  unfold tick
  rw [h]
  dsimp only
  split
  · have hholds := @Ticked.holds controller active nowMs
    rw [h] at hholds
    exact hholds
  · next hended =>
      have hended := Nat.le_of_not_lt hended
      rw [Nat.max_eq_right hended]
      split
      · next next heq =>
          obtain ⟨hnext, rfl⟩ := eq_of_advance heq
          exact .advances hnext hended
      · next heq => exact .ends (eq_length_of_advance heq) hended

/-! ## Playing in order -/

/-- A step that began and ended at these times was held for its duration, or until the end of
the clock. -/
def Held (step : BuzzerStep) (beganMs endedMs : ℕ) : Prop :=
  beganMs + step.durationMs ≤ endedMs ∨ 2 ^ 64 - 1 ≤ endedMs

theorem held_of_saturatingAddU64_le {step : BuzzerStep} {beganMs endedMs : ℕ}
    (h : saturatingAddU64 beganMs step.durationMs ≤ endedMs) : Held step beganMs endedMs := by
  unfold saturatingAddU64 at h
  rcases min_le_iff.mp h with hclock | hduration
  · exact .inr hclock
  · exact .inl hduration

/-- The steps were put out one after the other at these times, each kept until the next. -/
def InOrder (Kept : BuzzerStep → ℕ → ℕ → Prop) : List BuzzerStep → List ℕ → Prop
  | step :: steps, beganMs :: endedMs :: times =>
      Kept step beganMs endedMs ∧ InOrder Kept steps (endedMs :: times)
  | _, times => times.length = 1

variable {Kept : BuzzerStep → ℕ → ℕ → Prop}

theorem inOrder_singleton (steps : List BuzzerStep) (beganMs : ℕ) :
    InOrder Kept steps [beganMs] := by
  cases steps with
  | nil | cons step steps => exact rfl

theorem InOrder.append {step : BuzzerStep} {beganMs endedMs : ℕ}
    (hkept : Kept step beganMs endedMs) :
    ∀ {steps : List BuzzerStep} {times : List ℕ}, InOrder Kept steps times →
      times.getLast? = some beganMs → steps[times.length - 1]? = some step →
        InOrder Kept steps (times ++ [endedMs]) := by
  intro steps
  induction steps with
  | nil =>
    intro times _ _ hstep
    cases hstep
  | cons first steps ih =>
    intro times horder hlast hstep
    match times, horder, hlast, hstep with
    | [beganMs'], _, hlast, hstep =>
      cases hlast
      cases hstep
      exact ⟨hkept, inOrder_singleton steps endedMs⟩
    | beganMs' :: endedMs' :: times, ⟨hfirst, hrest⟩, hlast, hstep =>
      refine ⟨hfirst, ih hrest ?_ ?_⟩
      · rwa [List.getLast?_cons_cons] at hlast
      · simpa using hstep

/-- The steps of the active cue began at these times, and the last of them is put out. -/
structure Plays (Kept : BuzzerStep → ℕ → ℕ → Prop) (controller : BuzzerController)
    (active : ActiveCue) (times : List ℕ) : Prop where
  length : times.length = active.stepIndex + 1
  last : times.getLast? = some active.stepStartedMs
  inOrder : InOrder Kept (patternFor active.cue).steps times
  output : controller.output = outputForStep active.step controller.generation

/-- Every step of a cue that ended was put out, and the last of them ended last. -/
structure Played (Kept : BuzzerStep → ℕ → ℕ → Prop) (cue : BuzzerCueId) (times : List ℕ) :
    Prop where
  length : times.length = (patternFor cue).steps.length + 1
  inOrder : InOrder Kept (patternFor cue).steps times

variable {times : List ℕ}

theorem plays_play (controller : BuzzerController) (cue : BuzzerCueId) (nowMs : ℕ) :
    Plays Kept (controller.play cue nowMs) ⟨cue, ⟨0, length_steps_pos cue⟩, nowMs⟩ [nowMs] where
  length := rfl
  last := rfl
  inOrder := inOrder_singleton _ nowMs
  output := rfl

theorem Plays.append (h : Plays Held controller active times)
    (hended : saturatingAddU64 active.stepStartedMs active.step.durationMs ≤ nowMs) :
    InOrder Held (patternFor active.cue).steps (times ++ [nowMs]) := by
  refine h.inOrder.append (held_of_saturatingAddU64_le hended) h.last ?_
  rw [h.length, Nat.add_sub_cancel]
  exact List.getElem?_eq_getElem active.stepIndex.isLt

/-- A tick holds the step, goes on to the next one or ends the cue after the last one. -/
theorem Plays.tick (hactive : controller.active = some active)
    (h : Plays Held controller active times) (nowMs : ℕ) :
    ((controller.tick nowMs).active = some active ∧
        Plays Held (controller.tick nowMs) active times) ∨
      (∃ next, (controller.tick nowMs).active = some next ∧ next.cue = active.cue ∧
        next.stepIndex.val = active.stepIndex + 1 ∧
        Plays Held (controller.tick nowMs) next (times ++ [nowMs])) ∨
      (controller.tick nowMs).active = none ∧ Played Held active.cue (times ++ [nowMs]) := by
  have hlength : (times ++ [nowMs]).length = active.stepIndex + 1 + 1 := by
    rw [List.length_append, h.length]
    rfl
  have hticked := ticked nowMs hactive
  generalize controller.tick nowMs = after at hticked ⊢
  cases hticked with
  | holds => exact .inl ⟨hactive, h.length, h.last, h.inOrder, rfl⟩
  | advances hnext hended =>
    refine .inr (.inl ⟨_, rfl, rfl, rfl, hlength, ?_, h.append hended, rfl⟩)
    exact List.getLast?_concat
  | ends hlast hended => exact .inr (.inr ⟨rfl, hlength.trans (by rw [hlast]), h.append hended⟩)

theorem activeCue_tick (controller : BuzzerController) (nowMs : ℕ) :
    (controller.tick nowMs).activeCue = none ∨
      (controller.tick nowMs).activeCue = controller.activeCue ∧
        (controller.tick nowMs).generation = controller.generation := by
  cases hactive : controller.active with
  | none =>
    rw [tick_of_none hactive]
    exact .inr ⟨rfl, rfl⟩
  | some active =>
    have hticked := ticked nowMs hactive
    have hcue : controller.activeCue = some active.cue := congrArg (Option.map _) hactive
    generalize controller.tick nowMs = after at hticked ⊢
    cases hticked with
    | holds => exact .inr ⟨rfl, rfl⟩
    | advances hnext hended => exact .inr ⟨hcue.symm, rfl⟩
    | ends hlast hended => exact .inl rfl

theorem generation_ne (generation : UInt32) :
    generation + 1 ≠ generation ∧ generation + 1 + 1 ≠ generation := by
  have hlt := generation.toNat_lt
  constructor
  · intro heq
    have hnat := congrArg UInt32.toNat heq
    rw [UInt32.toNat_add, UInt32.toNat_one] at hnat
    omega
  · intro heq
    have hnat := congrArg UInt32.toNat heq
    rw [UInt32.toNat_add, UInt32.toNat_add, UInt32.toNat_one] at hnat
    omega

theorem generation_tick_of_ended (hactive : controller.isActive = true)
    (hended : (controller.tick nowMs).isActive = false) :
    (controller.tick nowMs).generation = controller.generation + 1 := by
  obtain ⟨active, hactive⟩ := Option.isSome_iff_exists.mp hactive
  have hticked := ticked nowMs hactive
  generalize controller.tick nowMs = after at hticked hended ⊢
  cases hticked with
  | holds => cases (congrArg Option.isSome hactive).symm.trans hended
  | advances hnext _ => cases hended
  | ends hlast _ => rfl

theorem generation_tick (controller : BuzzerController) (nowMs : ℕ) :
    (controller.tick nowMs).generation = controller.generation ∨
      (controller.tick nowMs).generation = controller.generation + 1 := by
  cases hactive : controller.active with
  | none =>
    rw [tick_of_none hactive]
    exact .inl rfl
  | some active =>
    have hticked := ticked nowMs hactive
    generalize controller.tick nowMs = after at hticked ⊢
    cases hticked with
    | holds => exact .inl rfl
    | advances hnext _ => exact .inl rfl
    | ends hlast _ => exact .inr rfl

/-! ## Silence -/

/-- Nothing is heard without a cue. -/
def Silent (controller : BuzzerController) : Prop :=
  controller.active = none → controller.output.frequencyHz = none

theorem silent_play (controller : BuzzerController) (cue : BuzzerCueId) (nowMs : ℕ) :
    (controller.play cue nowMs).Silent :=
  fun h => by cases h

theorem silent_stop (controller : BuzzerController) : controller.stop.Silent := fun _ => rfl

theorem silent_tick (controller : BuzzerController) (nowMs : ℕ) :
    (controller.tick nowMs).Silent := by
  intro hnone
  cases hactive : controller.active with
  | none => rw [tick_of_none hactive]; rfl
  | some active =>
    have hticked := ticked nowMs hactive
    generalize controller.tick nowMs = after at hticked hnone ⊢
    cases hticked with
    | holds => cases hactive.symm.trans hnone
    | advances hnext hended => cases hnone
    | ends hlast hended => rfl

end BuzzerController

end FluxPurr.Buzzer
