import FluxPurr.Runs.Reaches
import FluxPurr.Runs.RecentHistory
import FluxPurr.Usb.FrameRoundTrip

/-!
# Repeated mutating requests

Before a control line is executed its request id is looked up among the ids of the last
eight mutating requests that succeeded; a line whose id is there is refused.  Which lines
are looked up is decided by `usbMutatingRequestId`, which parses the line once more.

`UsbFrame.stateChangingId` says which frames change the state of the device.  The two differ
on the thermal tuning commands, which are executed as often as they are sent, and on the
snapshots of a thermal plant run, which only read but are refused and remembered like
mutations.  In a run without such lines (`LineIsClassified`) the remembered ids are the last
eight that succeeded, and distinct (`UsbLink.Accounted`), so a repeated request is refused
until eight others have followed (`once_processUsbLine`).
-/

namespace FluxPurr.Usb

open FluxPurr.Wire FluxPurr.Memory FluxPurr.Runs

abbrev RequestId : Type := BoundedString requestIdMaxLen

/-! ## Lines for the EEPROM snapshot -/

structure EepromSnapshotRequest where
  op : BoundedString 32
  requestId : RequestId
  sessionId : Option RequestId
  offset : Option UInt16
  length : Option UInt16
  sha256 : Option (BoundedString 71)

def EepromSnapshotRequest.read (fields : List (String × Json)) : Option EepromSnapshotRequest := do
  let op ← requiredField ["op"] fields
  let requestId ← requiredField ["requestId"] fields
  let sessionId ← readField ["sessionId"] fields
  let offset ← readField ["offset"] fields
  let length ← readField ["length"] fields
  let sha256 ← readField ["sha256"] fields
  some { op, requestId, sessionId, offset, length, sha256 }

def snapshotPrefix : List Char := "eeprom_snapshot_".toList

/-- `process_eeprom_snapshot_line` answers the line. -/
def isEepromSnapshotLine (line : List Char) : Bool :=
  match parseUsbWire EepromSnapshotRequest.read line with
  | .ok request => snapshotPrefix.isPrefixOf request.op.text.toList
  | .error _ => decide (snapshotPrefix <:+: line)

/-! ## Requests that change the state -/

def UsbRequestOp.mutates : UsbRequestOp → Bool
  | completeSetup | resetPersistence | openLanPairingWindow | closeLanPairingWindow
  | setLogLevel | clearLanPairingToken | prepareFlash | cancelFlashPreparation => true
  | getIdentity | getInstallStatus | getNetwork | getStatus | getThermalStatus
  | getLanPairingCode | getCalibration | getCalibrationJob | getHeaterCurve
  | getThermalTuning | getFlashPreparation => false

def rawEepromOperationMutates : EepromMaintenanceOp → Bool
  | .write | .erase => true
  | .read => false

variable {T : WireTypes}

/-- The id of a frame that changes the state of the device. -/
def UsbFrame.stateChangingId : UsbFrame T → Option RequestId
  | .request requestId op => if op.mutates then some requestId else none
  | .wifiConfig requestId _ | .runtimeConfig requestId _ | .calibrationConfig requestId _
  | .calibrationJob requestId _ | .heaterCurveConfig requestId _ | .heaterCurveSave requestId =>
      some requestId
  | .thermalTuning requestId command => if command.op = .read then none else some requestId
  | .eepromMaintenance requestId command =>
      if rawEepromOperationMutates command.op then some requestId else none
  | .thermalPlantRun .. | .hello .. | .response .. | .status .. | .log .. | .error .. => none

/-- The id of the state-changing frame on a line. -/
def stateChangingId (T : WireTypes) (line : List Char) : Option RequestId :=
  match (parseUsbFrame line : Except UsbFrameError (UsbFrame T)) with
  | .ok frame => frame.stateChangingId
  | .error _ => none

/-- The classifier of the line handler. -/
def usbMutatingRequestId (T : WireTypes) (line : List Char) : Option RequestId :=
  match (parseUsbFrame line : Except UsbFrameError (UsbFrame T)) with
  | .ok (.request requestId op) => if op.mutates then some requestId else none
  | .ok (.wifiConfig requestId _) | .ok (.runtimeConfig requestId _)
  | .ok (.calibrationConfig requestId _) | .ok (.calibrationJob requestId _)
  | .ok (.thermalPlantRun requestId _) | .ok (.heaterCurveConfig requestId _)
  | .ok (.heaterCurveSave requestId) => some requestId
  | .ok (.eepromMaintenance requestId command) =>
      if rawEepromOperationMutates command.op then some requestId else none
  | _ => none

/-! ## The line handler -/

abbrev usbMutatingRequestHistoryCapacity : ℕ := 8

def rememberMutatingRequestId (history : List RequestId) (requestId : RequestId) : List RequestId :=
  remember usbMutatingRequestHistoryCapacity history requestId

def usbMutationSucceeded : UsbFrame T → Bool
  | .response _ ok _ _ => ok
  | _ => false

def usbErrorResponse (requestId : RequestId) (code message : String) : UsbFrame T :=
  .response requestId false none
    (some { code := .ofText _ code, message := .ofText _ message, retryable := false })

def requestReplayed (requestId : RequestId) : UsbFrame T :=
  usbErrorResponse requestId "request_replayed"
    "The request may already have executed; reconcile device state and use a new requestId."

/-- What became of a line. -/
inductive LineOutcome (T : WireTypes) where
  | snapshot
  | refused (response : UsbFrame T)
  | executed (response : UsbFrame T)

structure LineRecord (T : WireTypes) where
  line : List Char
  outcome : LineOutcome T

open LineRecord

/-- What a line does to the rest of the device: `snapshot` when the EEPROM snapshot answers
it, `control` when it is executed as a control line. -/
structure UsbDevice (T : WireTypes) (σ : Type) where
  snapshot : σ → List Char → σ
  control : σ → List Char → σ × UsbFrame T

structure UsbLink (T : WireTypes) (σ : Type) where
  device : σ
  recentMutatingRequestIds : List RequestId := []
  /-- The lines so far, the first one first. -/
  log : List (LineRecord T) := []

variable {σ : Type} (device : UsbDevice T σ)

/-- `runtime_process_usb_line` -/
def UsbDevice.processUsbLine (link : UsbLink T σ) (line : List Char) : UsbLink T σ :=
  if isEepromSnapshotLine line then
    { link with
      device := device.snapshot link.device line
      log := link.log ++ [⟨line, .snapshot⟩] }
  else
    match usbMutatingRequestId T line with
    | some requestId =>
        if requestId ∈ link.recentMutatingRequestIds then
          { link with log := link.log ++ [⟨line, .refused (requestReplayed requestId)⟩] }
        else
          let (after, response) := device.control link.device line
          { link with
            device := after
            recentMutatingRequestIds :=
              if usbMutationSucceeded response then
                rememberMutatingRequestId link.recentMutatingRequestIds requestId
              else link.recentMutatingRequestIds
            log := link.log ++ [⟨line, .executed response⟩] }
    | none =>
        let (after, response) := device.control link.device line
        { link with
          device := after
          log := link.log ++ [⟨line, .executed response⟩] }

/-! ## Runs -/

/-- A line arrives, or something else changes the device. -/
inductive LinkAction (σ : Type) where
  | line (line : List Char)
  | other (after : σ)

def UsbDevice.step (link : UsbLink T σ) : LinkAction σ → UsbLink T σ
  | .line line => device.processUsbLine link line
  | .other after => { link with device := after }

/-- The id of a state-changing request that was executed and answered ok. -/
def LineRecord.succeededId (record : LineRecord T) : Option RequestId :=
  match record.outcome with
  | .executed response =>
      if usbMutationSucceeded response then stateChangingId T record.line else none
  | .snapshot | .refused _ => none

/-- The other ids with which state-changing requests succeeded. -/
def otherIds (records : List (LineRecord T)) (requestId : RequestId) : Finset RequestId :=
  (records.filterMap succeededId).toFinset.erase requestId

/-- A state-changing request that repeats the id of one that succeeded is refused, unless
eight others have succeeded in between. -/
def RunsAtMostOnce (log : List (LineRecord T)) : Prop :=
  ∀ before first between second after requestId,
    log = before ++ first :: (between ++ second :: after) →
    first.succeededId = some requestId →
    stateChangingId T second.line = some requestId →
    (otherIds between requestId).card < usbMutatingRequestHistoryCapacity →
    second.outcome = .refused (requestReplayed requestId)

/-- No line that changes nothing is refused. -/
def ServesReads (log : List (LineRecord T)) : Prop :=
  ∀ record ∈ log, stateChangingId T record.line = none → ∀ response,
    record.outcome ≠ .refused response

/-! ## Lines on which the classifier is right -/

/-- The frames that the classifier takes for the wrong kind. -/
def UsbFrame.isMisclassified : UsbFrame T → Bool
  | .thermalTuning _ command => command.op ≠ .read
  | .thermalPlantRun .. => true
  | _ => false

/-- Neither the classifier nor the handler of the EEPROM snapshot gets the line wrong. -/
structure LineIsClassified (T : WireTypes) (line : List Char) : Prop where
  frame : ∀ frame : UsbFrame T, parseUsbFrame line = .ok frame → frame.isMisclassified = false
  snapshot : isEepromSnapshotLine line = true → stateChangingId T line = none

variable {line : List Char}

theorem lineIsClassified_iff :
    LineIsClassified T line ↔
      (match (parseUsbFrame line : Except UsbFrameError (UsbFrame T)) with
        | .ok frame => frame.isMisclassified
        | .error _ => false) = false ∧
      (isEepromSnapshotLine line = true → stateChangingId T line = none) := by
  constructor
  · intro h
    refine ⟨?_, h.snapshot⟩
    split
    · exact h.frame _ ‹_›
    · rfl
  · rintro ⟨hframe, hsnapshot⟩
    refine ⟨fun frame hparse => ?_, hsnapshot⟩
    rwa [hparse] at hframe

instance (line : List Char) : Decidable (LineIsClassified T line) :=
  decidable_of_iff' _ lineIsClassified_iff

/-- The remembered ids are the last eight that succeeded, and distinct. -/
structure UsbLink.Accounted (link : UsbLink T σ) : Prop where
  recent : link.recentMutatingRequestIds =
    (link.log.filterMap succeededId).rtake usbMutatingRequestHistoryCapacity
  nodup : link.recentMutatingRequestIds.Nodup

variable {link : UsbLink T σ} {record : LineRecord T}

/-- The line was refused or did not change anything that is accounted for. -/
theorem UsbLink.Accounted.append (h : link.Accounted) (hrecord : record.succeededId = none)
    (device : σ) :
    UsbLink.Accounted
      { link with
        device := device
        log := link.log ++ [record] } := by
  refine ⟨?_, h.nodup⟩
  simp only [List.filterMap_append, List.filterMap_cons, hrecord, List.filterMap_nil,
    List.append_nil]
  exact h.recent

variable {requestId : RequestId}

theorem UsbLink.Accounted.remember (h : link.Accounted)
    (hrecord : record.succeededId = some requestId)
    (hnew : requestId ∉ link.recentMutatingRequestIds) (device : σ) :
    UsbLink.Accounted
      { link with
        device := device
        recentMutatingRequestIds :=
          rememberMutatingRequestId link.recentMutatingRequestIds requestId
        log := link.log ++ [record] } := by
  refine ⟨?_, nodup_remember h.nodup hnew⟩
  simp only [List.filterMap_append, List.filterMap_cons, hrecord, List.filterMap_nil,
    rememberMutatingRequestId]
  rw [h.recent]
  exact remember_rtake (by decide) _ _

variable {log : List (LineRecord T)}

theorem RunsAtMostOnce.append (h : RunsAtMostOnce log)
    (hrecord : ∀ before first between requestId, log = before ++ first :: between →
      first.succeededId = some requestId → stateChangingId T record.line = some requestId →
      (otherIds between requestId).card < usbMutatingRequestHistoryCapacity →
      record.outcome = .refused (requestReplayed requestId)) :
    RunsAtMostOnce (log ++ [record]) := by
  intro before first between second after requestId hlog hfirst hsecond hfew
  rcases List.eq_nil_or_concat after with rfl | ⟨after', last, rfl⟩
  · -- The repeated request is the line that was just added.
    have hsplit : log ++ [record] = (before ++ first :: between) ++ [second] := by
      rw [hlog]
      simp
    obtain ⟨hinit, hlast⟩ := List.append_inj' hsplit rfl
    obtain rfl : record = second := (List.cons.inj hlast).1
    exact hrecord before first between requestId hinit hfirst hsecond hfew
  · have hsplit : log ++ [record] =
        (before ++ first :: (between ++ second :: after')) ++ [last] := by
      rw [hlog]
      simp
    obtain ⟨hinit, -⟩ := List.append_inj' hsplit rfl
    exact h before first between second after' requestId hinit hfirst hsecond hfew

theorem ServesReads.append (h : ServesReads log)
    (hrecord : stateChangingId T record.line = none → ∀ response,
      record.outcome ≠ .refused response) : ServesReads (log ++ [record]) := by
  intro other hother
  rcases List.mem_append.mp hother with hold | hnew
  · exact h other hold
  · obtain rfl := List.mem_singleton.mp hnew
    exact hrecord

/-- What the line handler keeps true of the link. -/
structure UsbLink.Sound (link : UsbLink T σ) : Prop where
  accounted : link.Accounted
  once : RunsAtMostOnce link.log
  reads : ServesReads link.log

end FluxPurr.Usb
