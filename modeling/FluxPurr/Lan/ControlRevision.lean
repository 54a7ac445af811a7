import FluxPurr.Lan.BodySplice

/-!
# The control revision

Clients of the LAN interface read the state together with a revision, and a mutation is only
executed with the revision that is current then.  The revision is advanced where a
successful LAN mutation is answered, and nowhere else: commands over USB and the front panel
change the state and leave the revision alone.  `Announced` says that a step does not do
so, and `no_unseen_overwrite` that in a run of such steps every executed mutation has seen
all changes, up to the width of the revision.
-/

namespace FluxPurr.Lan

open FluxPurr.Wire FluxPurr.Usb FluxPurr.Runs

/-! ## Answers -/

def lanHttpBodyMaxLen : ℕ := 6 * 1024

def lanErrorStatus (code : String) : ℕ :=
  if "invalid_".toList.isPrefixOf code.toList ∨ "_required".toList.isSuffixOf code.toList ∨
      code ∈ ["malformed_json", "unsupported_frame", "unsupported_lan_command"] then 400
  else 409

/-- The status with which a value is answered. -/
def lanJsonResponse {α : Type} [Serde α] (value : α) : ℕ :=
  if (String.ofList (Serde.serialize value).render).utf8ByteSize ≤ lanHttpBodyMaxLen then 200
  else 500

/-- What the network task publishes. -/
structure LanPublished (T : WireTypes) where
  identity : T.Identity
  network : T.NetworkSummary

/-- The state that commands work on.  The parameters are what the readers of control lines
and of the front panel do with it. -/
structure ControlDevice (T : WireTypes) (σ ι : Type) where
  processControlLine : σ → List Char → σ × UsbFrame T
  frontPanel : σ → ι → σ
  withNetwork : T.ControlPlaneStatus → T.NetworkSummary → T.ControlPlaneStatus

variable {T : WireTypes} {σ ι : Type} (device : ControlDevice T σ ι)

/-- The status of the answer to a frame. -/
def ControlDevice.lanFrameResponse (frame : UsbFrame T) (network : T.NetworkSummary) : ℕ :=
  match frame with
  | .response _ true (some result) _ =>
      match result with
      | .identity value => lanJsonResponse value
      | .installStatus _ => 404
      | .network value => lanJsonResponse value
      | .status value => lanJsonResponse (device.withNetwork value network)
      | .thermalStatus value => lanJsonResponse value
      | .lanPairingCode value => lanJsonResponse value
      | .wifi value => lanJsonResponse value
      | .calibration value => lanJsonResponse value
      | .calibrationJob value => lanJsonResponse value
      | .thermalPlantRun value => lanJsonResponse value
      | .thermalTuning value => lanJsonResponse value
      | .heaterCurve value => lanJsonResponse value
      | .flashPreparation value => lanJsonResponse value
      | .eepromBytes _ => 404
      | .ack => 200
  | .response _ _ _ (some error) => lanErrorStatus error.code.text
  | .error _ error => lanErrorStatus error.code.text
  | _ => 500

/-! ## The loop -/

/-- A client knows the control state as it was after so many entries of the log, and
this revision for it. -/
structure ReadReport where
  seen : ℕ
  revision : UInt32
deriving DecidableEq

/-- What one action does to the control state, and what is told about it. -/
structure ControlEvent (σ : Type) where
  before : σ
  after : σ
  advanced : Bool := false
  /-- The revision that a mutation was executed with. -/
  executed : Option ℕ := none
  told : Option ReadReport := none
deriving DecidableEq

structure ControlLoop (σ : Type) where
  control : σ
  revision : UInt32 := 0
  log : List (ControlEvent σ) := []
  /-- The states that were looked at for an event stream and not sent yet. -/
  pendingEvents : List ℕ := []

inductive ControlRevisionError where
  | missing
  | stale
deriving DecidableEq

def validateControlRevision (expected : Option ℕ) (current : UInt32) :
    Except ControlRevisionError Unit :=
  match expected with
  | none => .error .missing
  | some value => if value ≠ current.toNat then .error .stale else .ok ()

def ControlMailboxCommand.isMutation (command : ControlMailboxCommand) : Bool :=
  command.method = .post || command.method = .put || command.method = .delete

/-- The answer to a command that leaves the control state at `control`.  A read tells the
revision in its header, an event stream when the event is written. -/
def ControlLoop.respondToCommand (loop : ControlLoop σ) (command : ControlMailboxCommand)
    (control : σ) (executed : Option ℕ) (status : ℕ) (advanceRevision : Bool) : ControlLoop σ :=
  let advanced := advanceRevision && status = 200
  let revision := if advanced then loop.revision + 1 else loop.revision
  let seen := loop.log.length + 1
  let streams := command.endpoint = .events ∧ command.method = .get ∧ status = 200
  let told := if command.isMutation = true ∨ streams then none else some ⟨seen, revision⟩
  { control := control
    revision := revision
    log := loop.log ++ [{ before := loop.control, after := control, advanced, executed, told }]
    pendingEvents := if streams then seen :: loop.pendingEvents else loop.pendingEvents }

/-- `leaseActive` is what the lease of the command is found to be. -/
def ControlDevice.runtimeExecuteLanCommand (loop : ControlLoop σ)
    (command : ControlMailboxCommand) (leaseActive : Bool) (published : LanPublished T) :
    ControlLoop σ :=
  let isMutation := command.isMutation
  if isMutation = true ∧ leaseActive = false then
    loop.respondToCommand command loop.control none 409 false
  else if isMutation = true ∧
      validateControlRevision command.expectedRevision loop.revision ≠ .ok () then
    loop.respondToCommand command loop.control none 409 false
  else if command.endpoint = .identity ∧ command.method = .get then
    loop.respondToCommand command loop.control none (lanJsonResponse published.identity) false
  else if command.endpoint = .network ∧ command.method = .get then
    loop.respondToCommand command loop.control none (lanJsonResponse published.network) false
  else
    match lanCommandToControlLine command with
    | .error _ => loop.respondToCommand command loop.control none 400 false
    | .ok line =>
        let (control, frame) := device.processControlLine loop.control line
        loop.respondToCommand command control
          (if isMutation then command.expectedRevision else none)
          (device.lanFrameResponse frame published.network) isMutation

inductive ControlAction (T : WireTypes) (ι : Type) where
  | lan (command : ControlMailboxCommand) (leaseActive : Bool) (published : LanPublished T)
  | usb (line : List Char)
  | frontPanel (input : ι)
  /-- The worker of an event stream writes the event with the revision of that moment. -/
  | sendEvent (seen : ℕ)

def ControlLoop.change (loop : ControlLoop σ) (control : σ) : ControlLoop σ :=
  { loop with
    control := control
    log := loop.log ++ [{ before := loop.control, after := control }] }

def ControlLoop.writeSseStatusEvent (loop : ControlLoop σ) (seen : ℕ) : ControlLoop σ :=
  if seen ∈ loop.pendingEvents then
    { loop with
      log := loop.log ++ [{ before := loop.control
                            after := loop.control
                            told := some ⟨seen, loop.revision⟩ }]
      pendingEvents := loop.pendingEvents.erase seen }
  else loop

def ControlDevice.perform (loop : ControlLoop σ) :
    ControlAction T ι → ControlLoop σ
  | .lan command leaseActive published =>
      device.runtimeExecuteLanCommand loop command leaseActive published
  | .usb line => loop.change (device.processControlLine loop.control line).1
  | .frontPanel input => loop.change (device.frontPanel loop.control input)
  | .sendEvent seen => loop.writeSseStatusEvent seen

/-! ## Unseen changes -/

/-- A successful change of the control state. -/
def ControlEvent.IsChange (event : ControlEvent σ) : Prop :=
  event.after ≠ event.before ∨ event.advanced = true

instance [DecidableEq σ] (event : ControlEvent σ) : Decidable event.IsChange :=
  inferInstanceAs (Decidable (_ ∨ _))

variable [DecidableEq σ] (log : List (ControlEvent σ))

/-- The number of changes. -/
def changes : ℕ := log.countP fun event => event.IsChange

/-- Where a mutation is executed with a revision that a client was told, nothing has changed
since the state that the client saw, or the revision went all the way round. -/
def NoUnseenOverwrite : Prop :=
  ∀ before event after teller report, log = before ++ event :: after →
    teller ∈ before → teller.told = some report →
    event.executed = some report.revision.toNat →
    changes (before.drop report.seen) < 2 ^ 32 →
    ∀ missed ∈ before.drop report.seen, ¬ missed.IsChange

/-- The step changes nothing, or it is a mutation that is answered as a success; and no
event is sent for a state that has changed since. -/
def Announced (loop : ControlLoop σ) : ControlAction T ι → Prop
  | .lan command _ published =>
      ∀ line, lanCommandToControlLine command = .ok line →
        (device.processControlLine loop.control line).1 ≠ loop.control →
        command.isMutation = true ∧
          device.lanFrameResponse (device.processControlLine loop.control line).2
            published.network = 200
  | .usb line => (device.processControlLine loop.control line).1 = loop.control
  | .frontPanel input => device.frontPanel loop.control input = loop.control
  | .sendEvent seen => ∀ event ∈ loop.log.drop seen, ¬ event.IsChange

/-! ## What the revision counts -/

theorem changes_append_singleton (event : ControlEvent σ) :
    changes (log ++ [event]) = changes log + if event.IsChange then 1 else 0 := by
  rw [changes, List.countP_append, List.countP_singleton, changes]
  simp only [decide_eq_true_eq]

theorem changes_eq_zero_iff {log : List (ControlEvent σ)} :
    changes log = 0 ↔ ∀ event ∈ log, ¬ event.IsChange := by
  simp [changes, List.countP_eq_zero]

/-- The revision has moved on by the changes since a state for everybody who was told it. -/
def Counts (loop : ControlLoop σ) (report : ReadReport) : Prop :=
  report.seen ≤ loop.log.length ∧
    loop.revision = report.revision + .ofNat (changes (loop.log.drop report.seen))

structure RevisionInvariant (loop : ControlLoop σ) : Prop where
  told : ∀ event ∈ loop.log, ∀ report, event.told = some report → Counts loop report
  pending : ∀ seen ∈ loop.pendingEvents, seen ≤ loop.log.length
  safe : NoUnseenOverwrite loop.log

variable {loop after : ControlLoop σ} {event : ControlEvent σ} {report : ReadReport}

/-- The next entry of the log moves the revision exactly if it is a change. -/
theorem Counts.append (h : Counts loop report) (hlog : after.log = loop.log ++ [event])
    (hrevision : after.revision = if event.IsChange then loop.revision + 1 else loop.revision) :
    Counts after report := by
  obtain ⟨hseen, hcount⟩ := h
  have hdrop : after.log.drop report.seen = loop.log.drop report.seen ++ [event] := by
    rw [hlog, List.drop_append_of_le_length hseen]
  refine ⟨by rw [hlog, List.length_append]; omega, ?_⟩
  rw [hdrop, changes_append_singleton, hrevision, hcount]
  split
  · rw [UInt32.ofNat_add, UInt32.add_assoc]
    rfl
  · rfl

/-- A mutation is executed with the revision of the moment only. -/
theorem Counts.unchanged (h : Counts loop report) (hcurrent : report.revision = loop.revision)
    (hbound : changes (loop.log.drop report.seen) < 2 ^ 32) :
    ∀ missed ∈ loop.log.drop report.seen, ¬ missed.IsChange := by
  obtain ⟨-, hcount⟩ := h
  rw [hcurrent] at hcount
  have hzero : UInt32.ofNat (changes (loop.log.drop report.seen)) = 0 := by
    have hself : loop.revision + 0 =
        loop.revision + .ofNat (changes (loop.log.drop report.seen)) := by
      rw [UInt32.add_zero, ← hcount]
    exact (UInt32.add_right_inj loop.revision |>.mp hself).symm
  rw [← changes_eq_zero_iff]
  have hnat := congrArg UInt32.toNat hzero
  rwa [UInt32.toNat_ofNat', Nat.mod_eq_of_lt hbound] at hnat

theorem NoUnseenOverwrite.append (h : NoUnseenOverwrite loop.log)
    (hevent : ∀ teller ∈ loop.log, ∀ report, teller.told = some report →
      event.executed = some report.revision.toNat →
      changes (loop.log.drop report.seen) < 2 ^ 32 →
      ∀ missed ∈ loop.log.drop report.seen, ¬ missed.IsChange) :
    NoUnseenOverwrite (loop.log ++ [event]) := by
  intro before other later teller report hsplit hteller htold hexecuted hbound
  rcases List.eq_nil_or_concat later with rfl | ⟨later, last, rfl⟩
  · obtain ⟨rfl, hlast⟩ := List.append_inj' hsplit rfl
    obtain rfl := (List.cons.inj hlast).1
    exact hevent teller hteller report htold hexecuted hbound
  · have hconcat : loop.log ++ [event] = (before ++ other :: later) ++ [last] := by
      simpa using hsplit
    obtain ⟨hlog, -⟩ := List.append_inj' hconcat rfl
    exact h before other later teller report hlog hteller htold hexecuted hbound

/-- One entry of the log keeps the invariant if it moves the revision with the state, tells
the truth and is executed with the revision of the moment. -/
theorem RevisionInvariant.append (h : RevisionInvariant loop)
    (hlog : after.log = loop.log ++ [event])
    (hrevision : after.revision = if event.IsChange then loop.revision + 1 else loop.revision)
    (htold : ∀ report, event.told = some report → Counts after report)
    (hexecuted : ∀ value, event.executed = some value → value = loop.revision.toNat)
    (hpending : ∀ seen ∈ after.pendingEvents, seen ≤ after.log.length) :
    RevisionInvariant after where
  told := by
    intro other hother report hreport
    rw [hlog] at hother
    rcases List.mem_append.mp hother with hother | hother
    · exact (h.told other hother report hreport).append hlog hrevision
    · rw [List.mem_singleton.mp hother] at hreport
      exact htold report hreport
  pending := hpending
  safe := by
    rw [hlog]
    refine h.safe.append fun teller hteller report hreport hvalue hbound => ?_
    have hcurrent : report.revision = loop.revision := UInt32.toNat_inj.mp (hexecuted _ hvalue)
    exact (h.told teller hteller report hreport).unchanged hcurrent hbound

/-! ## One step -/

theorem RevisionInvariant.respondToCommand (h : RevisionInvariant loop)
    {command : ControlMailboxCommand} {control : σ} {executed : Option ℕ} {status : ℕ}
    {advanceRevision : Bool}
    (hchange : control ≠ loop.control → advanceRevision = true ∧ status = 200)
    (hexecuted : ∀ value, executed = some value → value = loop.revision.toNat) :
    RevisionInvariant (loop.respondToCommand command control executed status advanceRevision) := by
  refine h.append rfl ?_ ?_ hexecuted ?_
  · simp only [ControlLoop.respondToCommand, ControlEvent.IsChange]
    by_cases hadvanced : (advanceRevision && decide (status = 200)) = true
    · simp [hadvanced]
    · have hsame : control = loop.control := by
        by_contra hne
        exact hadvanced (by simp [hchange hne])
      simp [hadvanced, hsame]
  · intro report hreport
    simp only at hreport
    split at hreport
    · cases hreport
    · obtain rfl := Option.some.inj hreport
      refine ⟨by simp [ControlLoop.respondToCommand], ?_⟩
      simp [ControlLoop.respondToCommand, changes]
  · intro seen hseen
    simp only [ControlLoop.respondToCommand, List.length_append, List.length_singleton] at hseen ⊢
    split at hseen
    · rcases List.mem_cons.mp hseen with rfl | hseen
      · exact le_rfl
      · exact Nat.le_succ_of_le (h.pending seen hseen)
    · exact Nat.le_succ_of_le (h.pending seen hseen)

theorem validateControlRevision_eq_ok {expected : Option ℕ} {current : UInt32}
    (h : validateControlRevision expected current = .ok ()) : expected = some current.toNat := by
  cases expected with
  | none => cases h
  | some value =>
    rw [validateControlRevision] at h
    split at h
    case isTrue => cases h
    case isFalse hvalue => rw [not_not.mp hvalue]

theorem RevisionInvariant.lan (h : RevisionInvariant loop) {device : ControlDevice T σ ι}
    {command : ControlMailboxCommand} {leaseActive : Bool} {published : LanPublished T}
    (hannounced : Announced device loop (.lan command leaseActive published)) :
    RevisionInvariant (device.runtimeExecuteLanCommand loop command leaseActive published) := by
  unfold ControlDevice.runtimeExecuteLanCommand
  simp only
  split
  case isTrue => exact h.respondToCommand (by simp) nofun
  case isFalse =>
    split
    case isTrue => exact h.respondToCommand (by simp) nofun
    case isFalse hcurrent =>
      split
      case isTrue => exact h.respondToCommand (by simp) nofun
      case isFalse =>
        split
        case isTrue => exact h.respondToCommand (by simp) nofun
        case isFalse =>
          split
          case h_1 => exact h.respondToCommand (by simp) nofun
          case h_2 line hline =>
            refine h.respondToCommand (hannounced line hline) fun value hvalue => ?_
            split at hvalue
            case isTrue hmutation =>
              have hok := not_not.mp fun hne => hcurrent ⟨hmutation, hne⟩
              rw [validateControlRevision_eq_ok hok] at hvalue
              exact (Option.some.inj hvalue).symm
            case isFalse => cases hvalue

theorem RevisionInvariant.change (h : RevisionInvariant loop) {control : σ}
    (hsame : control = loop.control) : RevisionInvariant (loop.change control) := by
  refine h.append rfl ?_ nofun nofun fun seen hseen => ?_
  · simp [ControlLoop.change, ControlEvent.IsChange, hsame]
  · rw [ControlLoop.change, List.length_append]
    exact Nat.le_add_right_of_le (h.pending seen hseen)

theorem RevisionInvariant.writeSseStatusEvent (h : RevisionInvariant loop) {seen : ℕ}
    (hsame : ∀ event ∈ loop.log.drop seen, ¬ event.IsChange) :
    RevisionInvariant (loop.writeSseStatusEvent seen) := by
  unfold ControlLoop.writeSseStatusEvent
  split
  case isFalse => exact h
  case isTrue hpending =>
    have hle := h.pending seen hpending
    refine h.append rfl ?_ ?_ nofun fun other hother => ?_
    · simp [ControlEvent.IsChange]
    · intro report hreport
      obtain rfl := Option.some.inj hreport
      refine ⟨by simp; omega, ?_⟩
      rw [List.drop_append_of_le_length hle, changes_append_singleton,
        changes_eq_zero_iff.mpr hsame]
      simp [ControlEvent.IsChange]
    · rw [List.length_append]
      exact Nat.le_add_right_of_le (h.pending other (List.mem_of_mem_erase hother))

theorem RevisionInvariant.perform (h : RevisionInvariant loop) {device : ControlDevice T σ ι}
    {action : ControlAction T ι} (hannounced : Announced device loop action) :
    RevisionInvariant (device.perform loop action) := by
  cases action with
  | lan command leaseActive published => exact h.lan hannounced
  | usb line | frontPanel input => exact h.change hannounced
  | sendEvent seen => exact h.writeSseStatusEvent hannounced

/-- In a run of announced steps no mutation overwrites a state that its client has not
seen. -/
theorem no_unseen_overwrite (device : ControlDevice T σ ι) (start : σ)
    {actions : List (ControlAction T ι)} {loop : ControlLoop σ}
    (h : Reaches (fun loop action after =>
      after = device.perform loop action ∧ Announced device loop action)
      { control := start } actions loop) :
    NoUnseenOverwrite loop.log := by
  have hstart : RevisionInvariant ({ control := start } : ControlLoop σ) :=
    ⟨by simp, by simp, by simp [NoUnseenOverwrite]⟩
  refine (h.invariant hstart ?_).safe
  rintro loop action after hinv ⟨rfl, hannounced⟩
  exact hinv.perform hannounced

/-! ## Another writer -/

def readStatus : ControlMailboxCommand where
  endpoint := .status
  method := .get
  leaseId := none
  expectedRevision := none
  afterSample := none
  afterSequence := none
  body := ""

def readStatusLine : List Char :=
  "\x7b\"type\":\"request\",\"requestId\":\"lan\",\"op\":\"get_status\"\x7d".toList

def setTargetLine : List Char :=
  "\x7b\"type\":\"runtime_config\",\"requestId\":\"usb\",\"targetTempC\":60\x7d".toList

/-- A client raises the target with the revision it has read. -/
def updateRuntime : ControlMailboxCommand := { raiseTarget with expectedRevision := some 0 }

/-- A device that counts the commands that are not reads of its status. -/
def countingDevice : ControlDevice emptyStructs ℕ Unit where
  processControlLine count line :=
    if line = readStatusLine then (count, .response (.ofText _ "lan") true (some (.status ())) none)
    else (count + 1, .response (.ofText _ "lan") true (some .ack) none)
  frontPanel count _ := count + 1
  withNetwork status _ := status

def published : LanPublished emptyStructs := ⟨(), ()⟩

theorem announced_readStatus (loop : ControlLoop ℕ) :
    Announced countingDevice loop (.lan readStatus true published) := by
  intro line hline hchange
  have hread : lanCommandToControlLine readStatus = .ok readStatusLine := by decide +kernel
  obtain rfl := Except.ok.inj (hread.symm.trans hline)
  exact absurd rfl hchange

theorem announced_updateRuntime (loop : ControlLoop ℕ) :
    Announced countingDevice loop (.lan updateRuntime true published) := by
  intro line hline hchange
  refine ⟨rfl, ?_⟩
  by_cases hread : line = readStatusLine
  · simp [countingDevice, hread] at hchange
  · simp [countingDevice, hread, ControlDevice.lanFrameResponse]

theorem no_unseen_overwrite_update : NoUnseenOverwrite (countingDevice.perform
      (countingDevice.perform { control := 0 } (.lan readStatus true published))
      (.lan updateRuntime true published)).log :=
  no_unseen_overwrite countingDevice 0
    (.step (.step .refl ⟨rfl, announced_readStatus _⟩) ⟨rfl, announced_updateRuntime _⟩)

/-- A host on the USB port sets the target between the read and the write. -/
def interleaved : List (ControlAction emptyStructs Unit) :=
  [.lan readStatus true published, .usb setTargetLine, .lan updateRuntime true published]

theorem not_all_runs_without_unseen_overwrite :
    ¬ ∀ (T : WireTypes) (σ ι : Type) (_ : DecidableEq σ) (device : ControlDevice T σ ι) (start : σ)
        (actions : List (ControlAction T ι)) (loop : ControlLoop σ),
      Reaches (fun loop action after => after = device.perform loop action) { control := start }
        actions loop → NoUnseenOverwrite loop.log := by
  intro hall
  have hlog : (interleaved.foldl countingDevice.perform { control := 0 }).log =
      [⟨0, 0, false, none, some ⟨1, 0⟩⟩, ⟨0, 1, false, none, none⟩,
        ⟨1, 2, true, some 0, none⟩] := by decide +kernel
  have hsafe := hall _ _ _ inferInstance _ _ _ _
    (.of_foldl countingDevice.perform { control := 0 } interleaved)
  rw [hlog] at hsafe
  -- The mutation is executed with the revision of the read, and misses the change over USB.
  refine hsafe [⟨0, 0, false, none, some ⟨1, 0⟩⟩, ⟨0, 1, false, none, none⟩]
    ⟨1, 2, true, some 0, none⟩ [] ⟨0, 0, false, none, some ⟨1, 0⟩⟩ ⟨1, 0⟩ rfl (by decide) rfl rfl
    (by decide) ⟨0, 1, false, none, none⟩ (by decide) (by decide)

end FluxPurr.Lan
