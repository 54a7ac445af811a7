import FluxPurr.Lan.ControlRevision
import FluxPurr.Runs.Throughout
import FluxPurr.Usb.ControlDispatch
import FluxPurr.Usb.EepromSnapshot
import FluxPurr.Usb.ResponseWriter

/-!
# Host traffic and the scheduled commit

A host talks to the device over USB and over the LAN while a commit of the configuration is
scheduled.  Where a step of this traffic changes no setting and writes no commit itself, the commit
should stay scheduled for the same time.

It does exactly where the step is not one of four (`KeepsDue`): it finishes sending a response; its
line is a command that schedules a commit whatever it changes; its line is a raw write of the
EEPROM; or its line opens, uses or finds expired a session of the EEPROM snapshot.  The first two
set the time anew, the others clear it.
-/

namespace FluxPurr.Lan

open FluxPurr.Memory FluxPurr.Runs FluxPurr.Usb

/-- What the bytes of one iteration complete. -/
inductive DrainedLine where
  | tooLong
  | line (text : List Char)
deriving DecidableEq

/-- One iteration of the USB input. -/
structure UsbInput (T : WireTypes) where
  answers : ControlAnswers T
  eeprom : EepromPort
  /-- How far a response that is being sent has got. -/
  pumped : UsbResponsePumpOutcome
  /-- The marker of a transport fault has been sent. -/
  recovered : Bool
  persistenceLogsPending : Bool
  persistenceLogsFaulted : Bool
  drained : Option DrainedLine
  /-- A response to the line can be written. -/
  responds : Bool

structure LanInput (T : WireTypes) where
  answers : ControlAnswers T
  command : ControlMailboxCommand
  leaseActive : Bool
  published : LanPublished T
  withNetwork : T.ControlPlaneStatus → T.NetworkSummary → T.ControlPlaneStatus

inductive HostStep (T : WireTypes) where
  | usb (input : UsbInput T)
  | lan (input : LanInput T)

variable {T : WireTypes}

def HostStep.answers : HostStep T → ControlAnswers T
  | .usb input => input.answers
  | .lan input => input.answers

/-- What of the runtime state the traffic is about. -/
structure HostTraffic (T : WireTypes) where
  link : UsbLink T SnapshotDevice
  controlRevision : UInt32
  /-- `usb_response_writer` is not complete. -/
  responsePending : Bool
  usbTransportFaulted : Bool

/-- A control line is executed on the persistence. -/
def executeLine (answers : ControlAnswers T) (device : SnapshotDevice) (line : List Char) :
    SnapshotDevice :=
  { device with memory := answers.processControlLine device.memory line }

def UsbInput.device (input : UsbInput T) : UsbDevice T SnapshotDevice where
  snapshot device line :=
    device.runtimeProcessUsbSnapshotLine input.eeprom input.answers.elapsedMs
      input.answers.heaterActive line
  control device line := (executeLine input.answers device line, input.answers.response)

def LanInput.device (input : LanInput T) : ControlDevice T SnapshotDevice Unit where
  processControlLine device line := (executeLine input.answers device line, input.answers.response)
  frontPanel device _ := device
  withNetwork := input.withNetwork

namespace HostTraffic

def memory (traffic : HostTraffic T) : PersistenceState := traffic.link.device.memory

def session (traffic : HostTraffic T) : EepromSnapshotSession := traffic.link.device.session

def withMemory (traffic : HostTraffic T) (memory : PersistenceState) : HostTraffic T :=
  { traffic with link := { traffic.link with device := { traffic.link.device with memory } } }

/-! ## The steps -/

/-- Only a response that is pending has to be pumped. -/
def pumpOutcome (traffic : HostTraffic T) (input : UsbInput T) : UsbResponsePumpOutcome :=
  if traffic.responsePending then input.pumped else .idle

/-- The debounce of a scheduled commit begins anew when a response has been sent. -/
def pumpResponse (traffic : HostTraffic T) (input : UsbInput T) : HostTraffic T :=
  let outcome := traffic.pumpOutcome input
  let pumped := { traffic with responsePending := outcome = .pending }
  if traffic.responsePending ∧ outcome = .idle then
    pumped.withMemory (traffic.memory.usbResponseSent input.answers.elapsedMs)
  else pumped

def processDrained (traffic : HostTraffic T) (input : UsbInput T) : HostTraffic T :=
  match input.drained with
  | none => traffic
  | some .tooLong => { traffic with responsePending := input.responds }
  | some (.line text) =>
      { traffic with
        link := input.device.processUsbLine traffic.link text
        responsePending := input.responds }

def runtimeProcessUsbInput (traffic : HostTraffic T) (input : UsbInput T) : HostTraffic T :=
  let outcome := traffic.pumpOutcome input
  let pumped := traffic.pumpResponse input
  if outcome = .fault then { pumped with usbTransportFaulted := true }
  else if traffic.usbTransportFaulted then
    { pumped with usbTransportFaulted := !input.recovered }
  else if outcome ≠ .idle then pumped
  else if input.persistenceLogsFaulted then { pumped with usbTransportFaulted := true }
  else if input.persistenceLogsPending then pumped
  else pumped.processDrained input

def runtimeProcessLan (traffic : HostTraffic T) (input : LanInput T) : HostTraffic T :=
  let loop := input.device.runtimeExecuteLanCommand
    { control := traffic.link.device, revision := traffic.controlRevision } input.command
    input.leaseActive input.published
  { traffic with
    link := { traffic.link with device := loop.control }
    controlRevision := loop.revision }

def next (traffic : HostTraffic T) : HostStep T → HostTraffic T
  | .usb input => traffic.runtimeProcessUsbInput input
  | .lan input => traffic.runtimeProcessLan input

def step (traffic : HostTraffic T) (action : HostStep T) : Option (HostTraffic T) :=
  some (traffic.next action)

/-! ## The lines of a step -/

/-- The line that an iteration of the USB input gets to. -/
def usbLine (traffic : HostTraffic T) (input : UsbInput T) : Option (List Char) :=
  if traffic.pumpOutcome input = .idle ∧ traffic.usbTransportFaulted = false ∧
      input.persistenceLogsFaulted = false ∧ input.persistenceLogsPending = false then
    input.drained.bind fun
      | .tooLong => none
      | .line text => some text
  else none

/-- The line is refused as a replay. -/
def Replays (traffic : HostTraffic T) (line : List Char) : Prop :=
  ∃ requestId ∈ usbMutatingRequestId T line, requestId ∈ traffic.link.recentMutatingRequestIds

instance (traffic : HostTraffic T) (line : List Char) : Decidable (traffic.Replays line) :=
  inferInstanceAs (Decidable (∃ requestId ∈ usbMutatingRequestId T line, _))

/-- The line that a LAN command is executed as. -/
def lanLine (traffic : HostTraffic T) (input : LanInput T) : Option (List Char) :=
  if input.command.isMutation = true ∧ (input.leaseActive = false ∨
      validateControlRevision input.command.expectedRevision traffic.controlRevision ≠ .ok ()) then
    none
  else if input.command.method = .get ∧
      (input.command.endpoint = .identity ∨ input.command.endpoint = .network) then none
  else (lanCommandToControlLine input.command).toOption

/-- The control line that a step executes. -/
def executedLine (traffic : HostTraffic T) : HostStep T → Option (List Char)
  | .usb input =>
      (traffic.usbLine input).filter fun line =>
        !isEepromSnapshotLine line && !decide (traffic.Replays line)
  | .lan input => traffic.lanLine input

def snapshotLine (traffic : HostTraffic T) : HostStep T → Option (List Char)
  | .usb input => (traffic.usbLine input).filter fun line => isEepromSnapshotLine line
  | .lan _ => none

/-- The step finishes sending a response. -/
def SendsResponse (traffic : HostTraffic T) : HostStep T → Prop
  | .usb input => traffic.responsePending = true ∧ input.pumped = .idle
  | .lan _ => False

/-- The step writes a commit itself. -/
def Commits (traffic : HostTraffic T) (action : HostStep T) : Prop :=
  ∃ line ∈ traffic.executedLine action, action.answers.Commits traffic.memory (parseUsbFrame line)

/-- The step changes no setting and writes no commit itself. -/
structure ChangesNothing (traffic : HostTraffic T) (action : HostStep T) : Prop where
  config : (traffic.next action).memory.memoryConfig = traffic.memory.memoryConfig
  commits : ¬ traffic.Commits action

/-- What leaves the due time alone. -/
structure KeepsDue (traffic : HostTraffic T) (action : HostStep T) (dueMs : ℕ) : Prop where
  /-- A response that has been sent sets the time that is set already. -/
  sent : traffic.SendsResponse action → debounceUntil action.answers.elapsedMs = dueMs
  /-- And so does a command that schedules a commit anyway. -/
  compared : ∀ line ∈ traffic.executedLine action,
    action.answers.SchedulesAnyway traffic.memory (parseUsbFrame line) →
      debounceUntil action.answers.elapsedMs = dueMs
  notRaw : ∀ line ∈ traffic.executedLine action,
    ¬ action.answers.WritesRaw (parseUsbFrame line : Except UsbFrameError (UsbFrame T))
  noSnapshot : ∀ line ∈ traffic.snapshotLine action,
    ¬ traffic.session.EndsSchedule action.answers.elapsedMs action.answers.heaterActive line

/-! ## What a step does -/

variable {traffic : HostTraffic T} {action : HostStep T} {dueMs : ℕ}

/-- The persistence after a step, for the persistence that its line finds. -/
inductive Handles (traffic : HostTraffic T) (action : HostStep T) (found : PersistenceState) :
    PersistenceState → Prop where
  | nothing (hexecuted : traffic.executedLine action = none)
      (hsnapshot : traffic.snapshotLine action = none) : Handles traffic action found found
  | executed (line : List Char) (hexecuted : traffic.executedLine action = some line)
      (hsnapshot : traffic.snapshotLine action = none) :
      Handles traffic action found (action.answers.processControlLine found line)
  | snapshot (line : List Char) (eeprom : EepromPort)
      (hexecuted : traffic.executedLine action = none)
      (hsnapshot : traffic.snapshotLine action = some line) :
      Handles traffic action found
        ((SnapshotDevice.mk found traffic.session).runtimeProcessUsbSnapshotLine eeprom
          action.answers.elapsedMs action.answers.heaterActive line).memory

variable {input : UsbInput T}

theorem handles_usbLine {link : UsbLink T SnapshotDevice} {text : List Char}
    (hline : traffic.usbLine input = some text) (hsession : link.device.session = traffic.session)
    (hrecent : link.recentMutatingRequestIds = traffic.link.recentMutatingRequestIds) :
    Handles traffic (.usb input) link.device.memory
      (input.device.processUsbLine link text).device.memory := by
  have hreplays : traffic.Replays text ↔
      ∃ requestId ∈ usbMutatingRequestId T text, requestId ∈ link.recentMutatingRequestIds := by
    rw [hrecent]
    exact Iff.rfl
  unfold UsbDevice.processUsbLine
  split_ifs with hsnapshot
  · have hdevice : link.device = ⟨link.device.memory, traffic.session⟩ := by
      rw [← hsession]
    rw [hdevice]
    refine .snapshot text input.eeprom ?_ ?_
    · simp [executedLine, hline, hsnapshot]
    · simp [snapshotLine, hline, hsnapshot]
  · have hnone : traffic.snapshotLine (.usb input) = none := by
      simp [snapshotLine, hline, hsnapshot]
    split
    · rename_i requestId hid
      split_ifs with hknown
      · refine .nothing ?_ hnone
        have hreplay : traffic.Replays text := hreplays.mpr ⟨requestId, hid, hknown⟩
        simp [executedLine, hline, hreplay]
      · refine .executed text ?_ hnone
        have hfresh : ¬ traffic.Replays text := by
          rintro hreplay
          obtain ⟨other, hother, hmem⟩ := hreplays.mp hreplay
          obtain rfl := Option.mem_unique hid hother
          exact hknown hmem
        simp [executedLine, hline, hsnapshot, hfresh]
    · rename_i hid
      refine .executed text ?_ hnone
      have hfresh : ¬ traffic.Replays text := by
        rintro ⟨other, hother, -⟩
        rw [hid] at hother
        cases hother
      simp [executedLine, hline, hsnapshot, hfresh]

theorem pumpResponse_memory (hdue : traffic.memory.memoryCommitDueMs = some dueMs) :
    ∃ foundMs, (traffic.SendsResponse (.usb input) →
          foundMs = debounceUntil input.answers.elapsedMs) ∧
        (¬ traffic.SendsResponse (.usb input) → foundMs = dueMs) ∧
        (traffic.pumpResponse input).memory =
          { traffic.memory with memoryCommitDueMs := some foundMs } := by
  have hsends : (traffic.responsePending = true ∧ traffic.pumpOutcome input = .idle) ↔
      traffic.SendsResponse (.usb input) := by
    unfold SendsResponse pumpOutcome
    by_cases hpending : traffic.responsePending = true
    · rw [if_pos hpending]
    · simp [hpending]
  unfold pumpResponse
  dsimp only
  split_ifs with hsent
  · refine ⟨debounceUntil input.answers.elapsedMs, fun _ => rfl, ?_, ?_⟩
    · intro hnot
      exact absurd (hsends.mp hsent) hnot
    · show traffic.memory.usbResponseSent input.answers.elapsedMs = _
      rw [PersistenceState.usbResponseSent, hdue]
      rfl
  · refine ⟨dueMs, ?_, fun _ => rfl, ?_⟩
    · intro hdoes
      exact absurd (hsends.mpr hdoes) hsent
    · rw [← hdue]
      rfl

theorem pumpResponse_link :
    (traffic.pumpResponse input).link.device.session = traffic.session ∧
      (traffic.pumpResponse input).link.recentMutatingRequestIds =
        traffic.link.recentMutatingRequestIds := by
  unfold pumpResponse
  dsimp only
  split_ifs
  · exact ⟨rfl, rfl⟩
  · exact ⟨rfl, rfl⟩

theorem handles_usb :
    Handles traffic (.usb input) (traffic.pumpResponse input).memory
      (traffic.runtimeProcessUsbInput input).memory := by
  have hnothing (hline : traffic.usbLine input = none) :
      Handles traffic (.usb input) (traffic.pumpResponse input).memory
        (traffic.pumpResponse input).memory :=
    .nothing (by simp [executedLine, hline]) (by simp [snapshotLine, hline])
  unfold runtimeProcessUsbInput
  dsimp only
  split_ifs with hfault hfaulted hidle hlogs hpending
  · exact hnothing (by simp [usbLine, hfault])
  · exact hnothing (by simp [usbLine, hfaulted])
  · exact hnothing (by simp [usbLine, hidle])
  · exact hnothing (by simp [usbLine, hlogs])
  · exact hnothing (by simp [usbLine, hpending])
  · have hline : traffic.usbLine input = input.drained.bind fun
        | .tooLong => none
        | .line text => some text := by
      refine if_pos ⟨by simpa using hidle, by simpa using hfaulted, by simpa using hlogs,
        by simpa using hpending⟩
    unfold processDrained
    split
    · rename_i hdrained
      exact hnothing (by rw [hline, hdrained]; rfl)
    · rename_i hdrained
      exact hnothing (by rw [hline, hdrained]; rfl)
    · rename_i text hdrained
      exact handles_usbLine (by rw [hline, hdrained]; rfl) pumpResponse_link.1
        pumpResponse_link.2

theorem control_runtimeExecuteLanCommand {input : LanInput T} :
    (input.device.runtimeExecuteLanCommand
      { control := traffic.link.device, revision := traffic.controlRevision } input.command
      input.leaseActive input.published).control =
      match traffic.lanLine input with
      | none => traffic.link.device
      | some line => executeLine input.answers traffic.link.device line := by
  unfold ControlDevice.runtimeExecuteLanCommand lanLine
  dsimp only
  by_cases hlease : input.command.isMutation = true ∧ input.leaseActive = false
  · rw [if_pos hlease, if_pos ⟨hlease.1, .inl hlease.2⟩]
    rfl
  rw [if_neg hlease]
  by_cases hrevision : input.command.isMutation = true ∧
      validateControlRevision input.command.expectedRevision traffic.controlRevision ≠ .ok ()
  · rw [if_pos hrevision, if_pos ⟨hrevision.1, .inr hrevision.2⟩]
    rfl
  have hadmitted : ¬ (input.command.isMutation = true ∧ (input.leaseActive = false ∨
      validateControlRevision input.command.expectedRevision traffic.controlRevision ≠
        .ok ())) := by
    rintro ⟨hmutation, hfails | hfails⟩
    · exact hlease ⟨hmutation, hfails⟩
    · exact hrevision ⟨hmutation, hfails⟩
  rw [if_neg hrevision, if_neg hadmitted]
  by_cases hidentity : input.command.endpoint = .identity ∧ input.command.method = .get
  · rw [if_pos hidentity, if_pos ⟨hidentity.2, .inl hidentity.1⟩]
    rfl
  rw [if_neg hidentity]
  by_cases hnetwork : input.command.endpoint = .network ∧ input.command.method = .get
  · rw [if_pos hnetwork, if_pos ⟨hnetwork.2, .inr hnetwork.1⟩]
    rfl
  have hdirect : ¬ (input.command.method = .get ∧
      (input.command.endpoint = .identity ∨ input.command.endpoint = .network)) := by
    rintro ⟨hmethod, hendpoint | hendpoint⟩
    · exact hidentity ⟨hendpoint, hmethod⟩
    · exact hnetwork ⟨hendpoint, hmethod⟩
  rw [if_neg hnetwork, if_neg hdirect]
  cases lanCommandToControlLine input.command with
  | error message | ok line => rfl

theorem handles_lan {input : LanInput T} :
    Handles traffic (.lan input) traffic.memory (traffic.runtimeProcessLan input).memory := by
  have hmemory : (traffic.runtimeProcessLan input).memory =
      (match traffic.lanLine input with
        | none => traffic.link.device
        | some line => executeLine input.answers traffic.link.device line).memory := by
    rw [← control_runtimeExecuteLanCommand]
    rfl
  rw [hmemory]
  cases hline : traffic.lanLine input with
  | none => exact .nothing hline rfl
  | some line => exact .executed line hline rfl

/-- The persistence that the line of a step finds, and what it makes of it. -/
theorem next_cases (action : HostStep T) (hdue : traffic.memory.memoryCommitDueMs = some dueMs) :
    ∃ foundMs, (traffic.SendsResponse action →
          foundMs = debounceUntil action.answers.elapsedMs) ∧
        (¬ traffic.SendsResponse action → foundMs = dueMs) ∧
        Handles traffic action { traffic.memory with memoryCommitDueMs := some foundMs }
          (traffic.next action).memory := by
  cases action with
  | usb input =>
    obtain ⟨foundMs, hsent, hkept, hmemory⟩ := @pumpResponse_memory T traffic dueMs input hdue
    refine ⟨foundMs, hsent, hkept, ?_⟩
    rw [← hmemory]
    exact handles_usb
  | lan input =>
    refine ⟨dueMs, nofun, fun _ => rfl, ?_⟩
    rw [← hdue]
    exact handles_lan

/-! ## The due time -/

variable {answers : ControlAnswers T} {memory : PersistenceState}
  {frame : Except UsbFrameError (UsbFrame T)}

theorem not_schedulesAnyway_of_writesRaw (h : answers.WritesRaw frame) :
    ¬ answers.SchedulesAnyway memory frame := by
  unfold ControlAnswers.WritesRaw at h
  split at h
  · exact id
  · exact absurd h id

/-- The handlers that schedule a commit anyway do not look at the due time. -/
theorem schedulesAnyway_withDue {memoryCommitDueMs : Option ℕ} :
    answers.SchedulesAnyway { memory with memoryCommitDueMs } frame ↔
      answers.SchedulesAnyway memory frame := by
  unfold ControlAnswers.SchedulesAnyway
  split <;> exact Iff.rfl

theorem commits_withDue {memoryCommitDueMs : Option ℕ} :
    answers.Commits { memory with memoryCommitDueMs } frame ↔ answers.Commits memory frame := by
  unfold ControlAnswers.Commits
  split <;> exact Iff.rfl

/-! ### The conditions on the line of a step -/

theorem keepsDue_of_nothing (hexecuted : traffic.executedLine action = none)
    (hsnapshot : traffic.snapshotLine action = none) :
    traffic.KeepsDue action dueMs ↔
      (traffic.SendsResponse action → debounceUntil action.answers.elapsedMs = dueMs) := by
  constructor
  · exact KeepsDue.sent
  · intro hsends
    exact ⟨hsends, by simp [hexecuted], by simp [hexecuted], by simp [hsnapshot]⟩

theorem keepsDue_of_executed {line : List Char}
    (hexecuted : traffic.executedLine action = some line)
    (hsnapshot : traffic.snapshotLine action = none) :
    traffic.KeepsDue action dueMs ↔
      (traffic.SendsResponse action → debounceUntil action.answers.elapsedMs = dueMs) ∧
        (action.answers.SchedulesAnyway traffic.memory (parseUsbFrame line) →
          debounceUntil action.answers.elapsedMs = dueMs) ∧
        ¬ action.answers.WritesRaw (parseUsbFrame line : Except UsbFrameError (UsbFrame T)) := by
  have hline {P : List Char → Prop} : (∀ other ∈ traffic.executedLine action, P other) ↔
      P line := by simp [hexecuted]
  constructor
  · rintro ⟨hsends, hcompared, hraw, -⟩
    exact ⟨hsends, hline.mp hcompared, hline.mp hraw⟩
  · rintro ⟨hsends, hcompared, hraw⟩
    exact ⟨hsends, hline.mpr hcompared, hline.mpr hraw, by simp [hsnapshot]⟩

theorem keepsDue_of_snapshot {line : List Char} (hexecuted : traffic.executedLine action = none)
    (hsnapshot : traffic.snapshotLine action = some line) :
    traffic.KeepsDue action dueMs ↔
      (traffic.SendsResponse action → debounceUntil action.answers.elapsedMs = dueMs) ∧
        ¬ traffic.session.EndsSchedule action.answers.elapsedMs action.answers.heaterActive
          line := by
  constructor
  · rintro ⟨hsends, -, -, hends⟩
    exact ⟨hsends, hends line hsnapshot⟩
  · rintro ⟨hsends, hends⟩
    exact ⟨hsends, by simp [hexecuted], by simp [hexecuted], by simpa [hsnapshot] using hends⟩

/-- A control line that finds a commit scheduled for `foundMs`. -/
theorem due_executed_iff {foundMs : ℕ}
    {line : List Char} (hfound : foundMs = debounceUntil answers.elapsedMs ∨ foundMs = dueMs)
    (hconfig : (answers.processControlLine { memory with memoryCommitDueMs := some foundMs }
      line).memoryConfig = memory.memoryConfig)
    (hcommits : ¬ answers.Commits memory (parseUsbFrame line)) :
    (answers.processControlLine { memory with memoryCommitDueMs := some foundMs }
        line).memoryCommitDueMs = some dueMs ↔
      foundMs = dueMs ∧
        (answers.SchedulesAnyway memory (parseUsbFrame line) →
          debounceUntil answers.elapsedMs = dueMs) ∧
        ¬ answers.WritesRaw (parseUsbFrame line : Except UsbFrameError (UsbFrame T)) := by
  rw [← @commits_withDue T answers memory _ (some foundMs)] at hcommits
  have hfate := ControlAnswers.due_dispatchControlFrame hconfig hcommits
  unfold ControlAnswers.processControlLine
  generalize (answers.dispatchControlFrame { memory with memoryCommitDueMs := some foundMs }
    (parseUsbFrame line)).memoryCommitDueMs = due at hfate
  cases hfate with
  | cleared hraw => exact iff_of_false nofun fun h => h.2.2 hraw
  | scheduled hschedules =>
    rw [schedulesAnyway_withDue] at hschedules
    rw [Option.some_inj]
    constructor
    · intro hsame
      refine ⟨?_, fun _ => hsame, ?_⟩
      · exact hfound.elim (fun hnow => hnow.trans hsame) id
      · exact fun hraw => not_schedulesAnyway_of_writesRaw hraw hschedules
    · intro h
      exact h.2.1 hschedules
  | kept hraw hschedules =>
    rw [schedulesAnyway_withDue] at hschedules
    rw [Option.some_inj]
    exact ⟨fun h => ⟨h, fun hdoes => absurd hdoes hschedules, hraw⟩, And.left⟩

/-! ### Steps and runs -/

/-- A step that changes no setting and writes no commit leaves the due time exactly when it is
none of the four. -/
theorem due_next_iff (hdue : traffic.memory.memoryCommitDueMs = some dueMs)
    (hnothing : traffic.ChangesNothing action) :
    (traffic.next action).memory.memoryCommitDueMs = some dueMs ↔
      traffic.KeepsDue action dueMs := by
  obtain ⟨foundMs, hsent, hkept, hhandles⟩ := next_cases action hdue
  obtain ⟨hconfig, hcommits⟩ := hnothing
  -- Apart from its line the step keeps the time as long as it sends no response.
  have hfound : foundMs = dueMs ↔
      (traffic.SendsResponse action → debounceUntil action.answers.elapsedMs = dueMs) := by
    by_cases hsends : traffic.SendsResponse action
    · rw [hsent hsends]
      exact ⟨fun h _ => h, fun h => h hsends⟩
    · exact iff_of_true (hkept hsends) fun h => absurd h hsends
  generalize (traffic.next action).memory = after at hhandles hconfig ⊢
  cases hhandles with
  | nothing hexecuted hsnapshot =>
    rw [keepsDue_of_nothing hexecuted hsnapshot, ← hfound]
    exact Option.some_inj
  | executed line hexecuted hsnapshot =>
    rw [keepsDue_of_executed hexecuted hsnapshot, ← hfound]
    refine due_executed_iff ?_ hconfig fun hcommit => hcommits ⟨line, hexecuted, hcommit⟩
    by_cases hsends : traffic.SendsResponse action
    · exact .inl (hsent hsends)
    · exact .inr (hkept hsends)
  | snapshot line eeprom hexecuted hsnapshot =>
    rw [keepsDue_of_snapshot hexecuted hsnapshot, ← hfound]
    by_cases hends : traffic.session.EndsSchedule action.answers.elapsedMs
        action.answers.heaterActive line
    · rw [SnapshotDevice.due_of_endsSchedule (by exact hends)]
      exact iff_of_false nofun fun h => h.2 hends
    · rw [SnapshotDevice.due_of_not_endsSchedule (by exact hends), Option.some_inj]
      exact ⟨fun h => ⟨h, hends⟩, And.left⟩

/-- The due time is never touched in a run of steps that change nothing exactly when no step of the
run is one of the four. -/
theorem commit_stays_scheduled_iff (traffic : HostTraffic T) (dueMs : ℕ)
    (actions : List (HostStep T)) (hdue : traffic.memory.memoryCommitDueMs = some dueMs)
    (hnothing : Throughout step ChangesNothing traffic actions) :
    Throughout step
        (fun traffic action => (traffic.next action).memory.memoryCommitDueMs = some dueMs)
        traffic actions ↔
      Throughout step (fun traffic action => traffic.KeepsDue action dueMs) traffic actions := by
  induction actions generalizing traffic with
  | nil => exact Iff.rfl
  | cons action actions ih =>
      obtain ⟨hfirst, hrest⟩ := hnothing
      have hiff := due_next_iff hdue hfirst
      constructor
      · rintro ⟨hkept, hafter⟩
        refine ⟨hiff.mp hkept, ?_⟩
        rintro _ ⟨⟩
        exact (ih _ hkept (hrest _ rfl)).mp (hafter _ rfl)
      · rintro ⟨hkeeps, hafter⟩
        have hkept := hiff.mpr hkeeps
        refine ⟨hkept, ?_⟩
        rintro _ ⟨⟩
        exact (ih _ hkept (hrest _ rfl)).mpr (hafter _ rfl)

/-- A step that executes no control line, as one that answers for the snapshot, changes nothing. -/
theorem changesNothing_of_no_line (hdue : traffic.memory.memoryCommitDueMs = some dueMs)
    (hexecuted : traffic.executedLine action = none) : traffic.ChangesNothing action := by
  refine ⟨?_, ?_⟩
  · obtain ⟨foundMs, -, -, hhandles⟩ := next_cases action hdue
    generalize (traffic.next action).memory = after at hhandles ⊢
    cases hhandles with
    | nothing => rfl
    | executed line hline => cases hexecuted.symm.trans hline
    | snapshot line eeprom => exact SnapshotDevice.memoryConfig_snapshotLine
  · rintro ⟨line, hline, -⟩
    rw [hexecuted] at hline
    cases hline

/-! ### A polled device -/

section Polled

/-- Nothing but the clock and the EEPROM answer of a snapshot matters for these lines. -/
def idleAnswers (elapsedMs : ℕ) : ControlAnswers emptyStructs where
  elapsedMs := elapsedMs
  heaterActive := false
  flashPreparationActive := false
  sensorReady := true
  thermalPlantCalibrationJobRunning := false
  runtimeSettings _ := {}
  runtimeAdmitted _ := true
  calibrationSettings _ := { op := .clear }
  refitted := none
  startedJob _ config := config
  sealedCandidate _ := none
  commitFailure := none
  idleConfirmed := true
  maintenanceResult _ := .ok
  response := .response (.ofText _ "poll") true (some .ack) none

def usbAt (elapsedMs : ℕ) (drained : Option DrainedLine) : HostStep emptyStructs :=
  .usb
    { answers := idleAnswers elapsedMs
      eeprom := ⟨true, fun _ _ => none, fun _ => .empty _⟩
      pumped := .idle
      recovered := true
      persistenceLogsPending := false
      persistenceLogsFaulted := false
      drained := drained
      responds := true }

/-- The panel was set to another temperature at the start. -/
def editedAtStart (responsePending : Bool) : HostTraffic emptyStructs where
  link :=
    { device :=
        { memory :=
            { memoryConfig := { targetTempC := 150 }
              lastPersistedMemoryConfig := {}
              memoryCommitDueMs := some 2000 }
          session := {} } }
  controlRevision := 0
  responsePending := responsePending
  usbTransportFaulted := false

/-- A line that is too long. -/
theorem commit_stays_scheduled_tooLong :
    Throughout step (fun traffic action =>
        (traffic.next action).memory.memoryCommitDueMs = some 2000)
        (editedAtStart false) [usbAt 1500 (some .tooLong)] ↔
      Throughout step (fun traffic action => traffic.KeepsDue action 2000)
        (editedAtStart false) [usbAt 1500 (some .tooLong)] := by
  apply commit_stays_scheduled_iff (editedAtStart false) 2000 _ rfl
  exact ⟨changesNothing_of_no_line rfl rfl, fun _ _ => trivial⟩

/-- The response to a poll has been sent 1.5 s after the edit, and the edit is due 2 s later. -/
theorem not_commit_stays_scheduled :
    ¬ ∀ (T : WireTypes) (traffic : HostTraffic T) (action : HostStep T) (dueMs : ℕ),
      traffic.memory.memoryCommitDueMs = some dueMs → traffic.ChangesNothing action →
        (traffic.next action).memory.memoryCommitDueMs = some dueMs := by
  intro hall
  have hdue : (editedAtStart true).memory.memoryCommitDueMs = some 2000 := rfl
  have hnothing : (editedAtStart true).ChangesNothing (usbAt 1500 none) :=
    changesNothing_of_no_line hdue rfl
  have hkept := hall _ _ _ _ hdue hnothing
  have hmoved : ((editedAtStart true).next (usbAt 1500 none)).memory.memoryCommitDueMs =
      some (debounceUntil 1500) := rfl
  have hlater : debounceUntil 1500 = 3500 := by decide
  rw [hmoved, hlater] at hkept
  cases hkept

end Polled

end HostTraffic

end FluxPurr.Lan
