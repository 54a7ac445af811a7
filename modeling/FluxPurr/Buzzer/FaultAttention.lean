import FluxPurr.Buzzer.Arbiter
import FluxPurr.Heater.RtdGuard

/-!
# Fault attention and the buzzer task

The control loop keeps track of the over-temperature fault and of the attention that the
operator owes it.  It tells the buzzer task with a signal, where the latest command wins, and
asks for replays and feedback through a bounded queue (`BuzzerRuntime`).  The task takes one
command at a time and applies it to its arbiter.

A safety command sets the safety state of the arbiter and no other command changes it.  So the
state that the arbiter is in once all commands are applied (`BuzzerSystem.commanded`) is decided
by the last safety command alone, and this always fits the fault (`BuzzerSystem.Invariant`).
-/

namespace FluxPurr.Buzzer

open FluxPurr.Runs
open FluxPurr.Heater (HeaterFaultReason)
open FluxPurr.Usb (saturatingAddU64)

abbrev protectionAlarmIntervalMs : ℕ := 1000
abbrev buzzerAttentionReminderIntervalMs : ℕ := 10000
abbrev forcedCoolingFanMinTempC : ℤ := 40
abbrev buzzerCommandCapacity : ℕ := 32

/-! ## Mailboxes -/

inductive BuzzerSafetyCommand where
  | activateProtection (source : BuzzerCueSource)
  | enterAttentionPendingAndRequestReminder (source : BuzzerCueSource)
  | clearAttention
deriving DecidableEq, Repr

inductive BuzzerRuntimeCommand where
  | feedback (source : BuzzerCueSource) (cue : BuzzerCueId)
  | protectionReplay (source : BuzzerCueSource)
  | requestAttentionReminder (source : BuzzerCueSource)
deriving DecidableEq, Repr

/-- The signal and the queue to the buzzer task. -/
structure BuzzerRuntime where
  safetyCommand : Option BuzzerSafetyCommand
  commands : List BuzzerRuntimeCommand
deriving DecidableEq, Repr

namespace BuzzerRuntime

def empty : BuzzerRuntime := ⟨none, []⟩

/-- A command that finds the queue full is dropped. -/
def submit (buzzer : BuzzerRuntime) (command : BuzzerRuntimeCommand) : BuzzerRuntime :=
  if buzzer.commands.length < buzzerCommandCapacity then
    { buzzer with commands := buzzer.commands ++ [command] }
  else buzzer

def signal (buzzer : BuzzerRuntime) (command : BuzzerSafetyCommand) : BuzzerRuntime :=
  { buzzer with safetyCommand := some command }

@[simp]
theorem safetyCommand_submit (buzzer : BuzzerRuntime) (command : BuzzerRuntimeCommand) :
    (buzzer.submit command).safetyCommand = buzzer.safetyCommand := by
  unfold submit
  split <;> rfl

end BuzzerRuntime

/-! ## Fault attention -/

structure ProtectionAlarmCadence where
  nextReplayMs : Option ℕ
deriving DecidableEq, Repr

namespace ProtectionAlarmCadence

def arm (_cadence : ProtectionAlarmCadence) (nowMs : ℕ) : ProtectionAlarmCadence :=
  ⟨some (saturatingAddU64 nowMs protectionAlarmIntervalMs)⟩

def clear (_cadence : ProtectionAlarmCadence) : ProtectionAlarmCadence := ⟨none⟩

def replayDue (cadence : ProtectionAlarmCadence) (faultPresent : Bool) (nowMs : ℕ) :
    Bool × ProtectionAlarmCadence :=
  if !faultPresent then (false, cadence.clear)
  else
    match cadence.nextReplayMs with
    | none => (false, cadence)
    | some next => if nowMs < next then (false, cadence) else (true, cadence.arm nowMs)

end ProtectionAlarmCadence

structure FaultAttention where
  lastFaultPresent : Bool
  attentionAcknowledged : Bool
  attentionPendingAfterFaultClear : Bool
  forcedFanActive : Bool
  protectionAlarm : ProtectionAlarmCadence
  nextAttentionReminderMs : Option ℕ
deriving DecidableEq, Repr

namespace FaultAttention

variable (attention : FaultAttention) (faultPresent : Bool)

/-- What a fault that has come or gone changes. -/
def noteEdge (buzzer : BuzzerRuntime) (nowMs : ℕ) : Bool × FaultAttention × BuzzerRuntime :=
  if faultPresent ∧ ¬attention.lastFaultPresent then
    (true,
      { attention with
        attentionAcknowledged := false
        attentionPendingAfterFaultClear := false
        forcedFanActive := true
        nextAttentionReminderMs := none
        protectionAlarm := attention.protectionAlarm.arm nowMs },
      buzzer.signal (.activateProtection .thermalProtection))
  else if ¬faultPresent ∧ attention.lastFaultPresent then
    let attention := { attention with
      attentionPendingAfterFaultClear := !attention.attentionAcknowledged
      protectionAlarm := attention.protectionAlarm.clear }
    if attention.attentionPendingAfterFaultClear then
      (true,
        { attention with
          nextAttentionReminderMs :=
            some (saturatingAddU64 nowMs buzzerAttentionReminderIntervalMs) },
        buzzer.signal (.enterAttentionPendingAndRequestReminder .thermalAttention))
    else
      (true, { attention with nextAttentionReminderMs := none }, buzzer.signal .clearAttention)
  else (false, attention, buzzer)

def updateFaultAttentionState (currentTempC : ℤ) (buzzer : BuzzerRuntime) (nowMs : ℕ) :
    Bool × FaultAttention × BuzzerRuntime :=
  let (changed, attention, buzzer) := attention.noteEdge faultPresent buzzer nowMs
  if attention.forcedFanActive ∧
      (attention.attentionAcknowledged ∨ currentTempC < forcedCoolingFanMinTempC) then
    (true, { attention with forcedFanActive := false, lastFaultPresent := faultPresent }, buzzer)
  else (changed, { attention with lastFaultPresent := faultPresent }, buzzer)

def overtempAttentionRequiresAck (overtempActive : Bool) : Bool :=
  (overtempActive && !attention.attentionAcknowledged) ||
    attention.attentionPendingAfterFaultClear

def acknowledgeOvertempAttention (overtempActive : Bool)
    (buzzer : BuzzerRuntime) : Bool × FaultAttention × BuzzerRuntime :=
  if !attention.overtempAttentionRequiresAck overtempActive then (false, attention, buzzer)
  else
    (true,
      { attention with
        attentionAcknowledged := true
        attentionPendingAfterFaultClear := false
        forcedFanActive := false
        nextAttentionReminderMs := none },
      if !overtempActive then buzzer.signal .clearAttention else buzzer)

def maybePlayProtectionAlarm
    (buzzer : BuzzerRuntime) (nowMs : ℕ) : Bool × FaultAttention × BuzzerRuntime :=
  let (due, protectionAlarm) := attention.protectionAlarm.replayDue faultPresent nowMs
  (due, { attention with protectionAlarm := protectionAlarm },
    if due then buzzer.submit (.protectionReplay .thermalProtection) else buzzer)

def maybePlayAttentionReminder
    (buzzer : BuzzerRuntime) (nowMs : ℕ) : Bool × FaultAttention × BuzzerRuntime :=
  if !attention.attentionPendingAfterFaultClear || faultPresent then (false, attention, buzzer)
  else
    match attention.nextAttentionReminderMs with
    | none => (false, attention, buzzer)
    | some next =>
        if next ≤ nowMs then
          (true,
            { attention with
              nextAttentionReminderMs :=
                some (saturatingAddU64 nowMs buzzerAttentionReminderIntervalMs) },
            buzzer.submit (.requestAttentionReminder .thermalAttention))
        else (false, attention, buzzer)

/-- The safety state that fits the fault. -/
def safetyState : AudibleSafetyState :=
  if attention.lastFaultPresent then .protectionActive
  else if attention.attentionPendingAfterFaultClear then .attentionPending
  else .normal

end FaultAttention

open FaultAttention

def isOvertempFault (reason : Option HeaterFaultReason) : Bool := reason = some .overTemp

/-! ## The buzzer task -/

namespace BuzzerArbiter

def applyBuzzerCommand (arbiter : BuzzerArbiter) (command : BuzzerRuntimeCommand) (nowMs : ℕ) :
    BuzzerArbiter :=
  match command with
  | .feedback source cue => (arbiter.requestFeedback source cue nowMs).2
  | .protectionReplay source => (arbiter.requestProtectionReplay source nowMs).2
  | .requestAttentionReminder source => (arbiter.requestAttentionReminder source nowMs).2

def applyBuzzerSafetyCommand (arbiter : BuzzerArbiter) (command : BuzzerSafetyCommand)
    (nowMs : ℕ) : BuzzerArbiter :=
  match command with
  | .activateProtection source => (arbiter.activateProtection source nowMs).2
  | .enterAttentionPendingAndRequestReminder source =>
      (arbiter.enterAttentionPending.2.requestAttentionReminder source nowMs).2
  | .clearAttention => arbiter.clearAttention.2

end BuzzerArbiter

inductive BuzzerTaskWake where
  | command (command : BuzzerRuntimeCommand)
  | safety (command : BuzzerSafetyCommand)
deriving DecidableEq, Repr

/-- The control loop, the mailboxes and the buzzer task with what it has taken from them. -/
structure BuzzerSystem where
  currentRtdFault : Option HeaterFaultReason
  attention : FaultAttention
  buzzer : BuzzerRuntime
  wake : Option BuzzerTaskWake
  arbiter : BuzzerArbiter

/-- A step of the control loop or of the buzzer task. -/
inductive BuzzerAction where
  /-- A sample of the sensor and the update that follows it. -/
  | sample (fault : Option HeaterFaultReason) (displayTempC : ℤ) (nowMs : ℕ)
  /-- By a key, a front-panel event or a control command. -/
  | acknowledge
  | playProtectionAlarm (nowMs : ℕ)
  | playAttentionReminder (nowMs : ℕ)
  | feedback (source : BuzzerCueSource) (cue : BuzzerCueId)
  | receiveCommand
  | receiveSafety
  | apply (nowMs : ℕ)
  | tick (nowMs : ℕ)

namespace BuzzerSystem

/-- `initialize_fault_state`, after the first sample. -/
def boot (fault : Option HeaterFaultReason) : BuzzerSystem where
  currentRtdFault := fault
  attention := {
    lastFaultPresent := isOvertempFault fault
    attentionAcknowledged := false
    attentionPendingAfterFaultClear := false
    forcedFanActive := isOvertempFault fault
    protectionAlarm := if isOvertempFault fault then ProtectionAlarmCadence.arm ⟨none⟩ 0 else ⟨none⟩
    nextAttentionReminderMs := none }
  buzzer := if isOvertempFault fault then .signal .empty (.activateProtection .startup) else .empty
  wake := none
  arbiter := .new

/-- What the control loop has done to its own state and to the mailboxes. -/
def control (system : BuzzerSystem) (result : Bool × FaultAttention × BuzzerRuntime) :
    BuzzerSystem :=
  { system with attention := result.2.1, buzzer := result.2.2 }

/-- The task takes a command only when it has applied the last one. -/
inductive Next : BuzzerSystem → BuzzerAction → BuzzerSystem → Prop
  | sample (system : BuzzerSystem) (fault : Option HeaterFaultReason) (displayTempC : ℤ)
      (nowMs : ℕ) :
      Next system (.sample fault displayTempC nowMs)
        ({ system with currentRtdFault := fault }.control
          (system.attention.updateFaultAttentionState (isOvertempFault fault) displayTempC
            system.buzzer nowMs))
  | acknowledge (system : BuzzerSystem) :
      Next system .acknowledge
        (system.control (system.attention.acknowledgeOvertempAttention
          (isOvertempFault system.currentRtdFault) system.buzzer))
  | playProtectionAlarm (system : BuzzerSystem) (nowMs : ℕ) :
      Next system (.playProtectionAlarm nowMs)
        (system.control (system.attention.maybePlayProtectionAlarm
          (isOvertempFault system.currentRtdFault) system.buzzer nowMs))
  | playAttentionReminder (system : BuzzerSystem) (nowMs : ℕ) :
      Next system (.playAttentionReminder nowMs)
        (system.control (system.attention.maybePlayAttentionReminder
          (isOvertempFault system.currentRtdFault) system.buzzer nowMs))
  | feedback (system : BuzzerSystem) (source : BuzzerCueSource) (cue : BuzzerCueId) :
      Next system (.feedback source cue)
        { system with buzzer := system.buzzer.submit (.feedback source cue) }
  | receiveCommand {system : BuzzerSystem} {command : BuzzerRuntimeCommand}
      {commands : List BuzzerRuntimeCommand} (hidle : system.wake = none)
      (hcommands : system.buzzer.commands = command :: commands) :
      Next system .receiveCommand
        { system with
          buzzer := { system.buzzer with commands := commands }
          wake := some (.command command) }
  | receiveSafety {system : BuzzerSystem} {command : BuzzerSafetyCommand}
      (hidle : system.wake = none) (hcommand : system.buzzer.safetyCommand = some command) :
      Next system .receiveSafety
        { system with
          buzzer := { system.buzzer with safetyCommand := none }
          wake := some (.safety command) }
  | applyCommand {system : BuzzerSystem} {command : BuzzerRuntimeCommand} (nowMs : ℕ)
      (hwake : system.wake = some (.command command)) :
      Next system (.apply nowMs)
        { system with wake := none, arbiter := system.arbiter.applyBuzzerCommand command nowMs }
  | applySafety {system : BuzzerSystem} {command : BuzzerSafetyCommand} (nowMs : ℕ)
      (hwake : system.wake = some (.safety command)) :
      Next system (.apply nowMs)
        { system with
          wake := none
          arbiter := system.arbiter.applyBuzzerSafetyCommand command nowMs }
  | tick {system : BuzzerSystem} (nowMs : ℕ) (hidle : system.wake = none) :
      Next system (.tick nowMs) { system with arbiter := (system.arbiter.tick nowMs).2 }

end BuzzerSystem

/-! ## The safety state of the arbiter -/

namespace BuzzerArbiter

variable {arbiter : BuzzerArbiter}

theorem safetyState_requestProtectionReplay (arbiter : BuzzerArbiter) (source : BuzzerCueSource)
    (nowMs : ℕ) :
    (arbiter.requestProtectionReplay source nowMs).2.safetyState = arbiter.safetyState := by
  unfold requestProtectionReplay
  split_ifs <;> rfl

theorem safetyState_requestAttentionReminder (arbiter : BuzzerArbiter) (source : BuzzerCueSource)
    (nowMs : ℕ) :
    (arbiter.requestAttentionReminder source nowMs).2.safetyState = arbiter.safetyState := by
  unfold requestAttentionReminder
  split
  · rfl
  · split
    · rfl
    · rfl
    · rfl
    · split <;> rfl

theorem safetyState_requestFeedback (arbiter : BuzzerArbiter) (source : BuzzerCueSource)
    (cue : BuzzerCueId) (nowMs : ℕ) :
    (arbiter.requestFeedback source cue nowMs).2.safetyState = arbiter.safetyState := by
  unfold requestFeedback
  split
  · rfl
  · split
    · rfl
    · split
      · rfl
      · dsimp only
        split
        · rfl
        · split <;> rfl

theorem safetyState_tick (arbiter : BuzzerArbiter) (nowMs : ℕ) :
    (arbiter.tick nowMs).2.safetyState = arbiter.safetyState := by
  change ((arbiter.tickController nowMs).startDeferred nowMs).2.safetyState =
    (arbiter.tickController nowMs).safetyState
  unfold startDeferred
  split
  · rfl
  · split
    · split <;> rfl
    · split
      · split <;> rfl
      · rfl

theorem safetyState_applyBuzzerCommand (arbiter : BuzzerArbiter) (command : BuzzerRuntimeCommand)
    (nowMs : ℕ) :
    (arbiter.applyBuzzerCommand command nowMs).safetyState = arbiter.safetyState := by
  cases command with
  | feedback source cue => exact arbiter.safetyState_requestFeedback source cue nowMs
  | protectionReplay source => exact arbiter.safetyState_requestProtectionReplay source nowMs
  | requestAttentionReminder source =>
    exact arbiter.safetyState_requestAttentionReminder source nowMs

theorem safetyState_enterAttentionPending (arbiter : BuzzerArbiter) :
    arbiter.enterAttentionPending.2.safetyState = .attentionPending := by
  unfold enterAttentionPending
  dsimp only
  split <;> rfl

theorem safetyState_clearAttention (arbiter : BuzzerArbiter) :
    arbiter.clearAttention.2.safetyState = .normal := by
  unfold clearAttention
  dsimp only
  split <;> rfl

end BuzzerArbiter

namespace BuzzerArbiter

end BuzzerArbiter

/-- The safety state that a safety command sets, whatever the state before. -/
def BuzzerSafetyCommand.safetyState : BuzzerSafetyCommand → AudibleSafetyState
  | activateProtection _ => .protectionActive
  | enterAttentionPendingAndRequestReminder _ => .attentionPending
  | clearAttention => .normal

theorem BuzzerArbiter.safetyState_applyBuzzerSafetyCommand (arbiter : BuzzerArbiter)
    (command : BuzzerSafetyCommand) (nowMs : ℕ) :
    (arbiter.applyBuzzerSafetyCommand command nowMs).safetyState = command.safetyState := by
  cases command with
  | activateProtection source => rfl
  | enterAttentionPendingAndRequestReminder source =>
    exact (safetyState_requestAttentionReminder _ source nowMs).trans
      arbiter.safetyState_enterAttentionPending
  | clearAttention => exact arbiter.safetyState_clearAttention

/-! ## Fault and attention -/

namespace FaultAttention

variable {attention : FaultAttention} {buzzer : BuzzerRuntime} {faultPresent : Bool} {nowMs : ℕ}

/-- Attention is pending only after the fault, and with a time for the next reminder. -/
structure Consistent (attention : FaultAttention) : Prop where
  pending : attention.attentionPendingAfterFaultClear = true →
    attention.lastFaultPresent = false
  reminder : attention.nextAttentionReminderMs.isSome = attention.attentionPendingAfterFaultClear

/-- The mailboxes after an operation of the control loop: a safety command for the new state,
or none where the state stays the same. -/
def Commands (attention : FaultAttention) (buzzer : BuzzerRuntime) (after : FaultAttention)
    (afterBuzzer : BuzzerRuntime) : Prop :=
  (∃ command, afterBuzzer.safetyCommand = some command ∧
      command.safetyState = after.safetyState) ∨
    afterBuzzer.safetyCommand = buzzer.safetyCommand ∧ after.safetyState = attention.safetyState

theorem safetyState_of_fault (h : attention.lastFaultPresent = true) :
    attention.safetyState = .protectionActive := by
  unfold safetyState
  rw [if_pos h]

theorem noteEdge_rising (h : attention.lastFaultPresent = false) :
    attention.noteEdge true buzzer nowMs =
      (true,
        { attention with
          attentionAcknowledged := false
          attentionPendingAfterFaultClear := false
          forcedFanActive := true
          nextAttentionReminderMs := none
          protectionAlarm := attention.protectionAlarm.arm nowMs },
        buzzer.signal (.activateProtection .thermalProtection)) := by
  cases attention
  cases h
  rfl

theorem noteEdge_falling (h : attention.lastFaultPresent = true)
    (hpending : attention.attentionAcknowledged = false) :
    attention.noteEdge false buzzer nowMs =
      (true,
        { attention with
          attentionPendingAfterFaultClear := true
          protectionAlarm := attention.protectionAlarm.clear
          nextAttentionReminderMs :=
            some (saturatingAddU64 nowMs buzzerAttentionReminderIntervalMs) },
        buzzer.signal (.enterAttentionPendingAndRequestReminder .thermalAttention)) := by
  cases attention
  cases h
  cases hpending
  rfl

theorem noteEdge_falling_acknowledged (h : attention.lastFaultPresent = true)
    (hacknowledged : attention.attentionAcknowledged = true) :
    attention.noteEdge false buzzer nowMs =
      (true,
        { attention with
          attentionPendingAfterFaultClear := false
          protectionAlarm := attention.protectionAlarm.clear
          nextAttentionReminderMs := none },
        buzzer.signal .clearAttention) := by
  cases attention
  cases h
  cases hacknowledged
  rfl

theorem noteEdge_same (h : attention.lastFaultPresent = faultPresent) :
    attention.noteEdge faultPresent buzzer nowMs = (false, attention, buzzer) := by
  subst h
  unfold noteEdge
  rw [if_neg fun hrising => hrising.2 hrising.1, if_neg fun hfalling => hfalling.1 hfalling.2]

/-- The second half of an update: the fan is no longer forced, and the fault is remembered. -/
theorem update_eq (attention : FaultAttention) (faultPresent : Bool) (currentTempC : ℤ)
    (buzzer : BuzzerRuntime) (nowMs : ℕ) :
    (attention.updateFaultAttentionState faultPresent currentTempC buzzer nowMs).2 =
      ({ (attention.noteEdge faultPresent buzzer nowMs).2.1 with
          lastFaultPresent := faultPresent
          forcedFanActive :=
            (attention.noteEdge faultPresent buzzer nowMs).2.1.forcedFanActive &&
              !(attention.noteEdge faultPresent buzzer nowMs).2.1.attentionAcknowledged &&
              decide (forcedCoolingFanMinTempC ≤ currentTempC) },
        (attention.noteEdge faultPresent buzzer nowMs).2.2) := by
  unfold updateFaultAttentionState
  generalize attention.noteEdge faultPresent buzzer nowMs = edge
  obtain ⟨changed, edged, buzzer⟩ := edge
  dsimp only
  cases hforced : edged.forcedFanActive with
  | false =>
    rw [if_neg fun h => by cases h.1]
    cases edged
    cases hforced
    rfl
  | true =>
    by_cases hends : edged.attentionAcknowledged = true ∨ currentTempC < forcedCoolingFanMinTempC
    · have hfan : (true && !edged.attentionAcknowledged &&
          decide (forcedCoolingFanMinTempC ≤ currentTempC)) = false := by
        rcases hends with hacknowledged | hcold
        · rw [hacknowledged]
          rfl
        · rw [decide_eq_false (not_le.mpr hcold), Bool.and_false]
      rw [if_pos ⟨rfl, hends⟩, hfan]
    · obtain ⟨hnot, hwarm⟩ := not_or.mp hends
      have hfan : (true && !edged.attentionAcknowledged &&
          decide (forcedCoolingFanMinTempC ≤ currentTempC)) = true := by
        rw [Bool.eq_false_of_not_eq_true hnot, decide_eq_true (not_lt.mp hwarm)]
        rfl
      rw [if_neg fun h => hends h.2, hfan]

theorem lastFaultPresent_update (attention : FaultAttention) (faultPresent : Bool)
    (currentTempC : ℤ) (buzzer : BuzzerRuntime) (nowMs : ℕ) :
    (attention.updateFaultAttentionState faultPresent currentTempC buzzer nowMs).2.1.lastFaultPresent =
      faultPresent := by
  rw [update_eq]

theorem Consistent.update (h : attention.Consistent) (faultPresent : Bool) (currentTempC : ℤ)
    (buzzer : BuzzerRuntime) (nowMs : ℕ) :
    (attention.updateFaultAttentionState faultPresent currentTempC buzzer nowMs).2.1.Consistent := by
  rw [update_eq]
  cases hlast : attention.lastFaultPresent with
  | false =>
    cases faultPresent with
    | true =>
      rw [noteEdge_rising hlast]
      exact ⟨(fun h => by cases h), rfl⟩
    | false =>
      rw [noteEdge_same hlast]
      exact ⟨fun _ => rfl, h.reminder⟩
  | true =>
    cases faultPresent with
    | true =>
      rw [noteEdge_same hlast]
      exact ⟨(fun hpending => by cases hlast.symm.trans (h.pending hpending)), h.reminder⟩
    | false =>
      cases hacknowledged : attention.attentionAcknowledged with
      | false =>
        rw [noteEdge_falling hlast hacknowledged]
        exact ⟨fun _ => rfl, rfl⟩
      | true =>
        rw [noteEdge_falling_acknowledged hlast hacknowledged]
        exact ⟨fun _ => rfl, rfl⟩

theorem commands_update (attention : FaultAttention) (faultPresent : Bool) (currentTempC : ℤ)
    (buzzer : BuzzerRuntime) (nowMs : ℕ) :
    attention.Commands buzzer
      (attention.updateFaultAttentionState faultPresent currentTempC buzzer nowMs).2.1
      (attention.updateFaultAttentionState faultPresent currentTempC buzzer nowMs).2.2 := by
  rw [update_eq]
  cases hlast : attention.lastFaultPresent with
  | false =>
    cases faultPresent with
    | true =>
      rw [noteEdge_rising hlast]
      exact .inl ⟨_, rfl, rfl⟩
    | false =>
      rw [noteEdge_same hlast]
      refine .inr ⟨rfl, ?_⟩
      unfold safetyState
      rw [hlast]
  | true =>
    cases faultPresent with
    | true =>
      rw [noteEdge_same hlast]
      refine .inr ⟨rfl, ?_⟩
      unfold safetyState
      rw [hlast]
    | false =>
      cases hacknowledged : attention.attentionAcknowledged with
      | false =>
        rw [noteEdge_falling hlast hacknowledged]
        exact .inl ⟨_, rfl, rfl⟩
      | true =>
        rw [noteEdge_falling_acknowledged hlast hacknowledged]
        exact .inl ⟨_, rfl, rfl⟩

/-- A fault that has come arms the alarm and is to be acknowledged. -/
structure Rearmed (nowMs : ℕ) (after : FaultAttention) (afterBuzzer : BuzzerRuntime) : Prop where
  acknowledged : after.attentionAcknowledged = false
  armed : after.protectionAlarm.nextReplayMs =
    some (saturatingAddU64 nowMs protectionAlarmIntervalMs)
  alarm : afterBuzzer.safetyCommand = some (.activateProtection .thermalProtection)

theorem Consistent.acknowledge (h : attention.Consistent)
    (hfault : faultPresent = attention.lastFaultPresent) (buzzer : BuzzerRuntime) :
    (attention.acknowledgeOvertempAttention faultPresent buzzer).2.1.Consistent ∧
      (attention.acknowledgeOvertempAttention faultPresent buzzer).2.1.lastFaultPresent =
        attention.lastFaultPresent ∧
      attention.Commands buzzer
        (attention.acknowledgeOvertempAttention faultPresent buzzer).2.1
        (attention.acknowledgeOvertempAttention faultPresent buzzer).2.2 := by
  subst hfault
  unfold acknowledgeOvertempAttention
  split
  · exact ⟨h, rfl, .inr ⟨rfl, rfl⟩⟩
  · refine ⟨⟨(fun h => by cases h), rfl⟩, rfl, ?_⟩
    cases hlast : attention.lastFaultPresent with
    | false =>
      exact .inl ⟨.clearAttention, rfl, rfl⟩
    | true =>
      -- the alarm goes on until the fault is gone
      exact .inr ⟨rfl, (safetyState_of_fault hlast).symm⟩

theorem keeps_maybePlayProtectionAlarm (attention : FaultAttention) (faultPresent : Bool)
    (buzzer : BuzzerRuntime) (nowMs : ℕ) :
    (attention.maybePlayProtectionAlarm faultPresent buzzer nowMs).2.1 =
        { attention with
          protectionAlarm := (attention.protectionAlarm.replayDue faultPresent nowMs).2 } ∧
      (attention.maybePlayProtectionAlarm faultPresent buzzer nowMs).2.2.safetyCommand =
        buzzer.safetyCommand := by
  unfold maybePlayProtectionAlarm
  refine ⟨rfl, ?_⟩
  dsimp only
  split
  · exact buzzer.safetyCommand_submit _
  · rfl

theorem Consistent.maybePlayAttentionReminder (h : attention.Consistent) (faultPresent : Bool)
    (buzzer : BuzzerRuntime) (nowMs : ℕ) :
    (attention.maybePlayAttentionReminder faultPresent buzzer nowMs).2.1.Consistent ∧
      (attention.maybePlayAttentionReminder faultPresent buzzer nowMs).2.1.lastFaultPresent =
        attention.lastFaultPresent ∧
      attention.Commands buzzer
        (attention.maybePlayAttentionReminder faultPresent buzzer nowMs).2.1
        (attention.maybePlayAttentionReminder faultPresent buzzer nowMs).2.2 := by
  have hsame : attention.Consistent ∧ attention.lastFaultPresent = attention.lastFaultPresent ∧
      attention.Commands buzzer attention buzzer := ⟨h, rfl, .inr ⟨rfl, rfl⟩⟩
  unfold FaultAttention.maybePlayAttentionReminder
  split
  · exact hsame
  · next hdue =>
      have hpending : attention.attentionPendingAfterFaultClear = true := by
        by_contra hnot
        exact hdue (by rw [Bool.eq_false_of_not_eq_true hnot]; rfl)
      split
      · exact hsame
      · split
        · exact ⟨⟨h.pending, hpending.symm⟩, rfl, .inr ⟨buzzer.safetyCommand_submit _, rfl⟩⟩
        · exact hsame

end FaultAttention

namespace BuzzerSystem

variable {system after : BuzzerSystem} {action : BuzzerAction} {actions : List BuzzerAction}

/-! ## The commanded state -/

/-- The safety state of the arbiter once the safety commands are applied. -/
def commanded (system : BuzzerSystem) : AudibleSafetyState :=
  match system.buzzer.safetyCommand, system.wake with
  | some command, _ => command.safetyState
  | none, some (.safety command) => command.safetyState
  | none, _ => system.arbiter.safetyState

structure Invariant (system : BuzzerSystem) : Prop where
  fault : isOvertempFault system.currentRtdFault = system.attention.lastFaultPresent
  consistent : system.attention.Consistent
  commanded : system.commanded = system.attention.safetyState

theorem Invariant.control (h : system.Invariant) {fault : Option HeaterFaultReason}
    {result : Bool × FaultAttention × BuzzerRuntime}
    (hfault : isOvertempFault fault = result.2.1.lastFaultPresent)
    (hconsistent : result.2.1.Consistent)
    (hcommands : system.attention.Commands system.buzzer result.2.1 result.2.2) :
    Invariant ({ system with currentRtdFault := fault }.control result) := by
  refine ⟨hfault, hconsistent, ?_⟩
  rcases hcommands with ⟨command, hcommand, hstate⟩ | ⟨hsame, hstate⟩
  · unfold BuzzerSystem.commanded BuzzerSystem.control
    dsimp only
    rw [hcommand]
    exact hstate
  · have hcommanded := h.commanded
    unfold BuzzerSystem.commanded at hcommanded
    unfold BuzzerSystem.commanded BuzzerSystem.control
    dsimp only
    rw [hsame, hstate]
    exact hcommanded

theorem Invariant.next (h : system.Invariant) (hnext : Next system action after) :
    after.Invariant := by
  cases hnext with
  | sample fault displayTempC nowMs =>
    exact h.control (lastFaultPresent_update _ _ _ _ _).symm
      (h.consistent.update _ _ _ _) (commands_update _ _ _ _ _)
  | acknowledge =>
    obtain ⟨hconsistent, hlast, hcommands⟩ := h.consistent.acknowledge h.fault system.buzzer
    exact h.control (h.fault.trans hlast.symm) hconsistent hcommands
  | playProtectionAlarm nowMs =>
    obtain ⟨hattention, hsame⟩ := system.attention.keeps_maybePlayProtectionAlarm
      (isOvertempFault system.currentRtdFault) system.buzzer nowMs
    refine h.control ?_ ?_ (.inr ⟨hsame, ?_⟩)
    · rw [hattention]
      exact h.fault
    · rw [hattention]
      exact ⟨h.consistent.pending, h.consistent.reminder⟩
    · rw [hattention]
      rfl
  | playAttentionReminder nowMs =>
    obtain ⟨hconsistent, hlast, hcommands⟩ := h.consistent.maybePlayAttentionReminder
      (isOvertempFault system.currentRtdFault) system.buzzer nowMs
    exact h.control (h.fault.trans hlast.symm) hconsistent hcommands
  | feedback source cue =>
    refine ⟨h.fault, h.consistent, h.commanded ▸ ?_⟩
    unfold BuzzerSystem.commanded
    rw [BuzzerRuntime.safetyCommand_submit]
  | receiveCommand hidle hcommands =>
    refine ⟨h.fault, h.consistent, h.commanded ▸ ?_⟩
    unfold BuzzerSystem.commanded
    rw [hidle]
    cases system.buzzer.safetyCommand <;> rfl
  | receiveSafety hidle hcommand =>
    refine ⟨h.fault, h.consistent, h.commanded ▸ ?_⟩
    unfold BuzzerSystem.commanded
    rw [hcommand]
  | applyCommand nowMs hwake =>
    refine ⟨h.fault, h.consistent, h.commanded ▸ ?_⟩
    unfold BuzzerSystem.commanded
    rw [hwake, BuzzerArbiter.safetyState_applyBuzzerCommand]
    cases system.buzzer.safetyCommand <;> rfl
  | applySafety nowMs hwake =>
    refine ⟨h.fault, h.consistent, h.commanded ▸ ?_⟩
    unfold BuzzerSystem.commanded
    rw [hwake, BuzzerArbiter.safetyState_applyBuzzerSafetyCommand]
    cases system.buzzer.safetyCommand <;> rfl
  | tick nowMs hidle =>
    refine ⟨h.fault, h.consistent, h.commanded ▸ ?_⟩
    unfold BuzzerSystem.commanded
    rw [BuzzerArbiter.safetyState_tick]

/-! ## Agreement -/

/-- The task has applied everything that it was sent. -/
def Settled (system : BuzzerSystem) : Prop :=
  system.buzzer.safetyCommand = none ∧ system.buzzer.commands = [] ∧ system.wake = none

/-- The buzzer fits the fault and the attention that is due. -/
structure Agrees (system : BuzzerSystem) : Prop where
  protection : system.Settled →
    (system.arbiter.safetyState = .protectionActive ↔ system.attention.lastFaultPresent = true)
  attention : system.Settled →
    (system.arbiter.safetyState = .attentionPending ↔
      system.attention.attentionPendingAfterFaultClear = true)
  normal : system.Settled →
    (system.arbiter.safetyState = .normal ↔ system.attention.lastFaultPresent = false ∧
      system.attention.attentionPendingAfterFaultClear = false)
  reminder : system.attention.nextAttentionReminderMs.isSome = true ↔
    system.attention.attentionPendingAfterFaultClear = true
  rising : ∀ fault displayTempC nowMs after,
    Next system (.sample fault displayTempC nowMs) after → isOvertempFault fault = true →
      system.attention.lastFaultPresent = false →
        FaultAttention.Rearmed nowMs after.attention after.buzzer
  forcedFan : ∀ fault displayTempC nowMs after,
    Next system (.sample fault displayTempC nowMs) after →
      after.attention.forcedFanActive = true →
        after.attention.attentionAcknowledged = false ∧ forcedCoolingFanMinTempC ≤ displayTempC
  /-- The attention command in the place of an activation leaves what both would leave. -/
  coalesced : ∀ source attentionSource nowMs activatedMs, ∀ arbiter ∈
      [system.arbiter, system.arbiter.applyBuzzerSafetyCommand (.activateProtection source) activatedMs],
    (arbiter.applyBuzzerSafetyCommand
        (.enterAttentionPendingAndRequestReminder attentionSource) nowMs).safetyState =
      .attentionPending ∧
    (arbiter.applyBuzzerSafetyCommand
        (.enterAttentionPendingAndRequestReminder attentionSource) nowMs).activeCue ≠
      some .protectionAlarm

end BuzzerSystem

end FluxPurr.Buzzer
