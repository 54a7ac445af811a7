import FluxPurr.Memory.DeferredCommit
import FluxPurr.Usb.MutationReplay

/-!
# EEPROM snapshots

Before it flashes a device a host reads the whole EEPROM: it opens a session, reads chunks in
order, and closes the session with the hash of what it has read.  Ordinary commits are frozen
while a session is open.

The handler also clears the due time of a scheduled commit, whenever it opens a session, gets to
the EEPROM for one, or finds that one has expired (`EndsSchedule`), and the commit is not scheduled
again when the session is over.
-/

namespace FluxPurr.Usb

open FluxPurr.Memory

abbrev eepromSnapshotSize : UInt16 := 8192
abbrev eepromSnapshotChunkMax : UInt16 := 32
abbrev eepromSnapshotHashLen : ℕ := 71
abbrev eepromSnapshotTimeoutMs : ℕ := 30000

structure EepromSnapshotSession where
  active : Bool := false
  sessionId : RequestId := .empty _
  nextOffset : UInt16 := 0
  lastActivityMs : ℕ := 0
deriving DecidableEq

structure EepromSnapshotResponse where
  ok : Bool
  requestId : RequestId
  sessionId : Option RequestId := none
  capacity : Option UInt16 := none
  chunkMax : Option UInt16 := none
  offset : Option UInt16 := none
  bytes : Option (List UInt8) := none
  sha256 : Option (BoundedString eepromSnapshotHashLen) := none
  error : Option String := none

/-- What the EEPROM answers while a line is handled, and the hash of what is read. -/
structure EepromPort where
  available : Bool
  readChunked : (offset length : ℕ) → Option (List UInt8)
  /-- The SHA-256 of the bytes, as `sha256:` and hexadecimal digits. -/
  renderedSha256 : List UInt8 → BoundedString eepromSnapshotHashLen

def eepromSnapshotError (requestId : RequestId) (code : String) : EepromSnapshotResponse where
  ok := false
  requestId := requestId
  error := some code

def storageFailureCodes : List String :=
  ["eeprom_unavailable", "eeprom_read_failed", "snapshot_hash_mismatch"]

def eepromSnapshotStorageFailure (response : EepromSnapshotResponse) : Bool :=
  response.error.any (· ∈ storageFailureCodes)

def eepromSnapshotDigest (eeprom : EepromPort) :
    Except String (BoundedString eepromSnapshotHashLen) :=
  if !eeprom.available then .error "eeprom_unavailable"
  else
    let chunk := eepromSnapshotChunkMax.toNat
    let chunks := (List.range (eepromSnapshotSize.toNat / chunk)).mapM fun index =>
      eeprom.readChunked (chunk * index) chunk
    match chunks with
    | none => .error "eeprom_read_failed"
    | some chunks => .ok (eeprom.renderedSha256 chunks.flatten)

/-! ## The operations -/

/-- A response, with the session and the due time that it leaves. -/
structure SnapshotReply where
  response : EepromSnapshotResponse
  session : EepromSnapshotSession
  memoryCommitDueMs : Option ℕ

namespace EepromSnapshotSession

variable (session : EepromSnapshotSession) (request : EepromSnapshotRequest) (eeprom : EepromPort)
  (memoryCommitDueMs : Option ℕ) (elapsedMs : ℕ) (heaterActive : Bool)

/-- `saturating_add` on 16 bits. -/
def saturatingAddU16 (a b : UInt16) : UInt16 := UInt16.ofNat (min (a.toNat + b.toNat) 65535)

def requestedSession (request : EepromSnapshotRequest) : RequestId :=
  request.sessionId.getD request.requestId

def refused (code : String) : SnapshotReply :=
  ⟨eepromSnapshotError request.requestId code, session, memoryCommitDueMs⟩

/-- A refusal that ends the session. -/
def ended (code : String) : SnapshotReply :=
  ⟨eepromSnapshotError request.requestId code, { session with active := false }, memoryCommitDueMs⟩

def openEepromSnapshot : SnapshotReply :=
  if heaterActive then refused session request memoryCommitDueMs "heater_active"
  else if (requestedSession request).text = "" then
    refused session request memoryCommitDueMs "session_required"
  else
    { response :=
        { ok := true
          requestId := request.requestId
          sessionId := some (requestedSession request)
          capacity := some eepromSnapshotSize
          chunkMax := some eepromSnapshotChunkMax }
      session :=
        { active := true
          sessionId := requestedSession request
          nextOffset := 0
          lastActivityMs := elapsedMs }
      memoryCommitDueMs := none }

def rangeIsValid (offset length : UInt16) : Bool :=
  length ≠ 0 && length ≤ eepromSnapshotChunkMax && offset = session.nextOffset &&
    saturatingAddU16 offset length ≤ eepromSnapshotSize

def readEepromSnapshot : SnapshotReply :=
  if !session.active || requestedSession request ≠ session.sessionId then
    refused session request memoryCommitDueMs "snapshot_session_invalid"
  else if heaterActive then ended session request memoryCommitDueMs "heater_active"
  else
    match request.offset, request.length with
    | some offset, some length =>
        if !session.rangeIsValid offset length then
          refused session request memoryCommitDueMs "snapshot_range_invalid"
        else if !eeprom.available then ended session request memoryCommitDueMs "eeprom_unavailable"
        else
          match eeprom.readChunked offset.toNat length.toNat with
          | none => ended session request memoryCommitDueMs "eeprom_read_failed"
          | some bytes =>
              { response :=
                  { ok := true
                    requestId := request.requestId
                    sessionId := some session.sessionId
                    offset := some offset
                    bytes := some bytes }
                session :=
                  { session with
                    nextOffset := saturatingAddU16 session.nextOffset length
                    lastActivityMs := elapsedMs }
                memoryCommitDueMs := none }
    | _, _ => refused session request memoryCommitDueMs "snapshot_range_required"

def closeEepromSnapshot : SnapshotReply :=
  if !session.active || requestedSession request ≠ session.sessionId then
    refused session request memoryCommitDueMs "snapshot_session_invalid"
  else if heaterActive then ended session request memoryCommitDueMs "heater_active"
  else if session.nextOffset ≠ eepromSnapshotSize then
    ended session request memoryCommitDueMs "snapshot_incomplete"
  else
    match eepromSnapshotDigest eeprom with
    | .error code => ended session request memoryCommitDueMs code
    | .ok digest =>
        if request.sha256 ≠ some digest then
          ended session request memoryCommitDueMs "snapshot_hash_mismatch"
        else
          { response :=
              { ok := true
                requestId := request.requestId
                sessionId := some session.sessionId
                sha256 := some digest }
            session :=
              { active := false
                sessionId := .empty _
                nextOffset := 0
                lastActivityMs := elapsedMs }
            memoryCommitDueMs := none }

def processEepromSnapshotRequest : SnapshotReply :=
  match request.op.text with
  | "eeprom_snapshot_open" =>
      openEepromSnapshot session request memoryCommitDueMs elapsedMs heaterActive
  | "eeprom_snapshot_read" =>
      readEepromSnapshot session request eeprom memoryCommitDueMs elapsedMs heaterActive
  | "eeprom_snapshot_close" =>
      closeEepromSnapshot session request eeprom memoryCommitDueMs elapsedMs heaterActive
  | _ => refused session request memoryCommitDueMs "snapshot_op_unsupported"

def isExpired : Bool :=
  session.active && eepromSnapshotTimeoutMs < elapsedMs - session.lastActivityMs

/-- `none` for a line that is not for the snapshot. -/
def processEepromSnapshotLine (line : List Char) : Option SnapshotReply :=
  match parseUsbWire EepromSnapshotRequest.read line with
  | .ok request =>
      if !snapshotPrefix.isPrefixOf request.op.text.toList then none
      else if session.isExpired elapsedMs then
        let session := { session with active := false, sessionId := .empty _, nextOffset := 0 }
        some (processEepromSnapshotRequest session request eeprom none elapsedMs heaterActive)
      else
        some (processEepromSnapshotRequest session request eeprom memoryCommitDueMs elapsedMs
          heaterActive)
  | .error _ =>
      if snapshotPrefix <:+: line then
        some ⟨eepromSnapshotError (.empty _) "malformed_snapshot", session, memoryCommitDueMs⟩
      else none

end EepromSnapshotSession

/-- What of the runtime state a snapshot line is about. -/
structure SnapshotDevice where
  memory : PersistenceState
  session : EepromSnapshotSession

/-- `runtime_process_usb_snapshot_line`: a storage failure locks the persistence. -/
def SnapshotDevice.runtimeProcessUsbSnapshotLine (device : SnapshotDevice) (eeprom : EepromPort)
    (elapsedMs : ℕ) (heaterActive : Bool) (line : List Char) : SnapshotDevice :=
  match device.session.processEepromSnapshotLine eeprom device.memory.memoryCommitDueMs elapsedMs
      heaterActive line with
  | none => device
  | some reply =>
      let memory := { device.memory with memoryCommitDueMs := reply.memoryCommitDueMs }
      { memory :=
          if eepromSnapshotStorageFailure reply.response then memory.markEepromRequired none
          else memory
        session := reply.session }

/-! ## What becomes of the due time -/

/-- The due time after the whole line, where a storage failure clears it as well. -/
def SnapshotReply.dueAfter (reply : SnapshotReply) : Option ℕ :=
  if eepromSnapshotStorageFailure reply.response then none else reply.memoryCommitDueMs

namespace EepromSnapshotSession

variable {session : EepromSnapshotSession} {request : EepromSnapshotRequest} {eeprom : EepromPort}
  {memoryCommitDueMs : Option ℕ} {elapsedMs : ℕ} {heaterActive : Bool} {line : List Char}

/-- The request is for the open session. -/
def IsOwn (session : EepromSnapshotSession) (request : EepromSnapshotRequest) : Prop :=
  session.active = true ∧ requestedSession request = session.sessionId

/-- The request opens a session, or gets to the EEPROM for the open one: with a chunk that comes
next, or with the end of a session that has been read as a whole. -/
def ReachesEeprom (session : EepromSnapshotSession) (request : EepromSnapshotRequest)
    (heaterActive : Bool) : Prop :=
  heaterActive = false ∧
    ((request.op.text = "eeprom_snapshot_open" ∧ (requestedSession request).text ≠ "") ∨
      (request.op.text = "eeprom_snapshot_read" ∧ session.IsOwn request ∧
        ∃ offset ∈ request.offset, ∃ length ∈ request.length,
          session.rangeIsValid offset length = true) ∨
      (request.op.text = "eeprom_snapshot_close" ∧ session.IsOwn request ∧
        session.nextOffset = eepromSnapshotSize))

/-- The line is a snapshot request that finds an expired session or reaches the EEPROM. -/
def EndsSchedule (session : EepromSnapshotSession) (elapsedMs : ℕ) (heaterActive : Bool)
    (line : List Char) : Prop :=
  ∃ request, parseUsbWire EepromSnapshotRequest.read line = .ok request ∧
    snapshotPrefix.isPrefixOf request.op.text.toList = true ∧
      (session.isExpired elapsedMs = true ∨ session.ReachesEeprom request heaterActive)

variable {code : String}

theorem dueAfter_refused (hcode : code ∉ storageFailureCodes) :
    (refused session request memoryCommitDueMs code).dueAfter = memoryCommitDueMs := by
  simp [SnapshotReply.dueAfter, refused, eepromSnapshotError, eepromSnapshotStorageFailure, hcode]

theorem dueAfter_ended (hcode : code ∉ storageFailureCodes) :
    (ended session request memoryCommitDueMs code).dueAfter = memoryCommitDueMs := by
  simp [SnapshotReply.dueAfter, ended, eepromSnapshotError, eepromSnapshotStorageFailure, hcode]

theorem dueAfter_ended_of_mem (hcode : code ∈ storageFailureCodes) :
    (ended session request memoryCommitDueMs code).dueAfter = none := by
  simp [SnapshotReply.dueAfter, ended, eepromSnapshotError, eepromSnapshotStorageFailure, hcode]

theorem dueAfter_open_of_refused
    (h : ¬ (heaterActive = false ∧ (requestedSession request).text ≠ "")) :
    (openEepromSnapshot session request memoryCommitDueMs elapsedMs heaterActive).dueAfter =
      memoryCommitDueMs := by
  unfold openEepromSnapshot
  split_ifs with hheater hempty
  · exact dueAfter_refused (by decide)
  · exact dueAfter_refused (by decide)
  · exact absurd ⟨by simpa using hheater, hempty⟩ h

theorem dueAfter_open (hheater : heaterActive = false)
    (hsession : (requestedSession request).text ≠ "") :
    (openEepromSnapshot session request memoryCommitDueMs elapsedMs heaterActive).dueAfter =
      none := by
  unfold openEepromSnapshot
  rw [if_neg (by simp [hheater]), if_neg hsession]
  rfl

theorem isOwn_of_not_refused
    (h : ¬ (!session.active || requestedSession request ≠ session.sessionId) = true) :
    session.IsOwn request := by
  simpa [IsOwn] using h

theorem not_refused_of_isOwn (h : session.IsOwn request) :
    ¬ (!session.active || requestedSession request ≠ session.sessionId) = true := by
  simpa [IsOwn] using h

theorem dueAfter_read_of_refused (h : ¬ (heaterActive = false ∧ session.IsOwn request ∧
      ∃ offset ∈ request.offset, ∃ length ∈ request.length,
        session.rangeIsValid offset length = true)) :
    (readEepromSnapshot session request eeprom memoryCommitDueMs elapsedMs heaterActive).dueAfter =
      memoryCommitDueMs := by
  unfold readEepromSnapshot
  by_cases hsession : (!session.active || requestedSession request ≠ session.sessionId) = true
  · rw [if_pos hsession]
    exact dueAfter_refused (by decide)
  · rw [if_neg hsession]
    by_cases hheater : heaterActive = true
    · rw [if_pos hheater]
      exact dueAfter_ended (by decide)
    · rw [if_neg hheater]
      split
      · rename_i offset length hoffset hlength
        have hrange : session.rangeIsValid offset length = false := by
          by_contra hrange
          exact h ⟨by simpa using hheater, isOwn_of_not_refused hsession, offset, hoffset, length,
            hlength, by simpa using hrange⟩
        rw [if_pos (by simp [hrange])]
        exact dueAfter_refused (by decide)
      · exact dueAfter_refused (by decide)

theorem dueAfter_read (hheater : heaterActive = false) (hsession : session.IsOwn request)
    {offset length : UInt16} (hoffset : request.offset = some offset)
    (hlength : request.length = some length) (hrange : session.rangeIsValid offset length = true) :
    (readEepromSnapshot session request eeprom memoryCommitDueMs elapsedMs heaterActive).dueAfter =
      none := by
  unfold readEepromSnapshot
  rw [if_neg (not_refused_of_isOwn hsession), if_neg (by simp [hheater]), hoffset, hlength]
  dsimp only
  rw [if_neg (by simp [hrange])]
  split_ifs
  · exact dueAfter_ended_of_mem (by decide)
  · cases eeprom.readChunked offset.toNat length.toNat with
    | none => exact dueAfter_ended_of_mem (by decide)
    | some bytes => rfl

theorem mem_storageFailureCodes_of_digest (h : eepromSnapshotDigest eeprom = .error code) :
    code ∈ storageFailureCodes := by
  unfold eepromSnapshotDigest at h
  split_ifs at h
  · cases h
    decide
  · dsimp only at h
    split at h
    · cases h
      decide
    · cases h

theorem dueAfter_close_of_refused (h : ¬ (heaterActive = false ∧ session.IsOwn request ∧
      session.nextOffset = eepromSnapshotSize)) :
    (closeEepromSnapshot session request eeprom memoryCommitDueMs elapsedMs heaterActive).dueAfter =
      memoryCommitDueMs := by
  unfold closeEepromSnapshot
  split_ifs with hsession hheater hend
  · exact dueAfter_refused (by decide)
  · exact dueAfter_ended (by decide)
  · exact dueAfter_ended (by decide)
  · exact absurd ⟨by simpa using hheater, isOwn_of_not_refused hsession, by simpa using hend⟩ h

theorem dueAfter_close (hheater : heaterActive = false) (hsession : session.IsOwn request)
    (hend : session.nextOffset = eepromSnapshotSize) :
    (closeEepromSnapshot session request eeprom memoryCommitDueMs elapsedMs heaterActive).dueAfter =
      none := by
  unfold closeEepromSnapshot
  rw [if_neg (not_refused_of_isOwn hsession), if_neg (by simp [hheater]), if_neg (by simp [hend])]
  cases hdigest : eepromSnapshotDigest eeprom with
  | error code => exact dueAfter_ended_of_mem (mem_storageFailureCodes_of_digest hdigest)
  | ok digest =>
    dsimp only
    split_ifs
    · exact dueAfter_ended_of_mem (by decide)
    · rfl

theorem dueAfter_request_of_refused (h : ¬ session.ReachesEeprom request heaterActive) :
    (processEepromSnapshotRequest session request eeprom memoryCommitDueMs elapsedMs
      heaterActive).dueAfter = memoryCommitDueMs := by
  unfold processEepromSnapshotRequest
  split
  · rename_i hop
    exact dueAfter_open_of_refused fun ⟨hheater, hsession⟩ =>
      h ⟨hheater, .inl ⟨hop, hsession⟩⟩
  · rename_i hop
    exact dueAfter_read_of_refused fun ⟨hheater, hread⟩ => h ⟨hheater, .inr (.inl ⟨hop, hread⟩)⟩
  · rename_i hop
    exact dueAfter_close_of_refused fun ⟨hheater, hclose⟩ =>
      h ⟨hheater, .inr (.inr ⟨hop, hclose⟩)⟩
  · exact dueAfter_refused (by decide)

theorem dueAfter_request (h : session.ReachesEeprom request heaterActive) :
    (processEepromSnapshotRequest session request eeprom memoryCommitDueMs elapsedMs
      heaterActive).dueAfter = none := by
  obtain ⟨hheater, ⟨hop, hsession⟩ | ⟨hop, hsession, offset, hoffset, length, hlength, hrange⟩ |
    ⟨hop, hsession, hend⟩⟩ := h
  · rw [processEepromSnapshotRequest, hop]
    exact dueAfter_open hheater hsession
  · rw [processEepromSnapshotRequest, hop]
    exact dueAfter_read hheater hsession hoffset hlength hrange
  · rw [processEepromSnapshotRequest, hop]
    exact dueAfter_close hheater hsession hend

/-- A request that has no due time to begin with has none in the end. -/
theorem dueAfter_request_none :
    (processEepromSnapshotRequest session request eeprom none elapsedMs heaterActive).dueAfter =
      none := by
  by_cases h : session.ReachesEeprom request heaterActive
  · exact dueAfter_request h
  · exact dueAfter_request_of_refused h

/-! ## What the host copies -/

/-- What the EEPROM answers is in the content. -/
def Reads (eeprom : EepromPort) (content : List UInt8) : Prop :=
  ∀ offset length, ∀ bytes ∈ eeprom.readChunked offset length,
    bytes = (content.drop offset).take length

variable {content copied : List UInt8} {reply : SnapshotReply}

end EepromSnapshotSession

namespace SnapshotDevice

open EepromSnapshotSession

variable {device : SnapshotDevice} {eeprom : EepromPort} {elapsedMs : ℕ} {heaterActive : Bool}
  {line : List Char}

theorem due_of_reply {reply : SnapshotReply}
    (h : device.session.processEepromSnapshotLine eeprom device.memory.memoryCommitDueMs elapsedMs
      heaterActive line = some reply) :
    (device.runtimeProcessUsbSnapshotLine eeprom elapsedMs heaterActive
      line).memory.memoryCommitDueMs = reply.dueAfter := by
  rw [runtimeProcessUsbSnapshotLine, h, SnapshotReply.dueAfter]
  dsimp only
  split_ifs
  · rfl
  · rfl

theorem due_of_endsSchedule (h : device.session.EndsSchedule elapsedMs heaterActive line) :
    (device.runtimeProcessUsbSnapshotLine eeprom elapsedMs heaterActive
      line).memory.memoryCommitDueMs = none := by
  obtain ⟨request, hparse, hcalled, hends⟩ := h
  obtain ⟨reply, hreply, hnone⟩ : ∃ reply, device.session.processEepromSnapshotLine eeprom
      device.memory.memoryCommitDueMs elapsedMs heaterActive line = some reply ∧
        reply.dueAfter = none := by
    rw [processEepromSnapshotLine, hparse]
    dsimp only
    rw [if_neg (by simp [hcalled])]
    split_ifs with hexpired
    · exact ⟨_, rfl, dueAfter_request_none⟩
    · exact ⟨_, rfl, dueAfter_request (hends.resolve_left hexpired)⟩
  rw [due_of_reply hreply]
  exact hnone

theorem due_of_not_endsSchedule (h : ¬ device.session.EndsSchedule elapsedMs heaterActive line) :
    (device.runtimeProcessUsbSnapshotLine eeprom elapsedMs heaterActive
      line).memory.memoryCommitDueMs = device.memory.memoryCommitDueMs := by
  cases hreply : device.session.processEepromSnapshotLine eeprom device.memory.memoryCommitDueMs
      elapsedMs heaterActive line with
  | none =>
    rw [runtimeProcessUsbSnapshotLine, hreply]
  | some reply =>
    rw [due_of_reply hreply]
    unfold processEepromSnapshotLine at hreply
    split at hreply
    · rename_i request hparse
      split_ifs at hreply with hcalled hexpired
      · exact absurd ⟨request, hparse, by simpa using hcalled, .inl hexpired⟩ h
      · obtain rfl := Option.some.inj hreply
        exact dueAfter_request_of_refused fun hreaches =>
          h ⟨request, hparse, by simpa using hcalled, .inr hreaches⟩
    · split_ifs at hreply
      obtain rfl := Option.some.inj hreply
      rfl

theorem memoryConfig_snapshotLine :
    (device.runtimeProcessUsbSnapshotLine eeprom elapsedMs heaterActive line).memory.memoryConfig =
      device.memory.memoryConfig := by
  unfold runtimeProcessUsbSnapshotLine
  split
  · rfl
  · dsimp only
    split_ifs
    · rfl
    · rfl

end SnapshotDevice

end FluxPurr.Usb
