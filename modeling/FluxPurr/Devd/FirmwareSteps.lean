import FluxPurr.Devd.FirmwareOperation
import FluxPurr.Devd.LeaseRuns

/-!
# Concurrent firmware operations

Any number of clients run firmware operations.  Each operation goes through its stages in
atomic steps, and between them the others and the operations on the leases take theirs.
The run remembers the dry runs that passed, the tokens that were taken out of the store and
those with which a flash was authorized.

`Current` is what an authorization should rest on: a dry run of the last five minutes for
the same target, a token that nobody has used, a lease that has not expired, and a version
that is not older.  For each step there is a lemma that says what it changes
(`step_load`, ...), and for each part of an operation one that says what it does.
-/

namespace FluxPurr.Devd

open FluxPurr.Collections FluxPurr.Runs
open FluxPurr.Wire (Json)

structure FirmwareConfig (Version : Type) where
  serialPort : Option String
  allowRealFlash : Bool
  /-- `semver::Version::parse` -/
  parse : String → Option Version
  sha256Hex : Json → String

/-- How far an operation has come. -/
inductive Stage where
  | accepted
  | loaded (prepared : PreparedFirmwareOperation)
  | refreshed (prepared : PreparedFirmwareOperation)
  | ready (prepared : PreparedFirmwareOperation)
  /-- A dry run has left its approval. -/
  | passed (token : String)
  /-- An execution has taken its approval and not compared it yet. -/
  | taken (prepared : PreparedFirmwareOperation) (token : String) (approval : FirmwareApproval)
  | authorized (token : String)
  | refused (refusal : Refusal)

/-- The operation has been accepted under its lease and is not over. -/
def Stage.UnderWay : Stage → Prop
  | loaded _ | refreshed _ | ready _ | taken _ _ _ => True
  | _ => False

instance : DecidablePred Stage.UnderWay
  | .loaded _ | .refreshed _ | .ready _ | .taken _ _ _ => isTrue trivial
  | .accepted | .passed _ | .authorized _ | .refused _ => isFalse not_false

structure Running where
  deviceId : String
  payload : FirmwareOperationRequest
  /-- The version that the device reported to this operation. -/
  reported : Option String
  stage : Stage

/-- A dry run that passed. -/
structure PassedDryRun where
  token : String
  deviceId : String
  payload : FirmwareOperationRequest
  prepared : PreparedFirmwareOperation
  createdAt : Instant

structure FirmwareDaemon where
  daemon : Daemon
  running : ℕ → Option Running
  passed : List PassedDryRun
  taken : List (ℕ × String)
  authorized : List (ℕ × String)

/-- A step of one of the operations, by its number, or another operation on the state. -/
inductive FirmwareAction where
  | other (operation : Operation)
  | accept (index : ℕ) (deviceId : String) (payload : FirmwareOperationRequest)
  | load (index : ℕ) (bundle : Except String FirmwareBundle)
      (usbIdentity : Except String UsbSerialIdentity) (now : Instant)
  | refresh (index : ℕ) (facts : Except Refusal (Identity × ControlPlaneStatus))
  | probe (index : ℕ) (probe : Except Refusal RomSecurityInfo)
  | approve (index : ℕ) (nowMillis : ℕ) (now : Instant)
  | take (index : ℕ)
  | check (index : ℕ) (now : Instant)

def FirmwareAction.Within (clock clock' : Instant) : FirmwareAction → Prop
  | other operation => operation.Within clock clock'
  | load _ _ _ now | approve _ _ now | check _ now => clock ≤ now ∧ now ≤ clock'
  | _ => clock ≤ clock'

namespace FirmwareDaemon

/-- One operation moves on, and the shared state with it. -/
def put (index : ℕ) (clock : Instant) (state : DevdState) (operation : Running)
    (before : FirmwareDaemon) : FirmwareDaemon :=
  { before with
    daemon := { before.daemon with state, clock }
    running := Function.update before.running index (some operation) }

/-- The stage after a part of the operation that may refuse it. -/
def stageOf (next : PreparedFirmwareOperation → Stage) :
    Except Refusal PreparedFirmwareOperation → Stage
  | .ok prepared => next prepared
  | .error refusal => .refused refusal

/-- What the device reports of its version, when it is asked. -/
def reportedVersion (payload : FirmwareOperationRequest) (prepared : PreparedFirmwareOperation)
    (facts : Except Refusal (Identity × ControlPlaneStatus)) : Option String :=
  if payload.operation = .update ∧ prepared.transport = .nativeSerial then
    facts.toOption.map (·.1.firmwareVersion)
  else none

section

variable {Version : Type} [LinearOrder Version] (config : FirmwareConfig Version)

def step (clock : Instant) (before : FirmwareDaemon) : FirmwareAction → Option FirmwareDaemon
  | .other operation =>
      some { before with daemon := before.daemon.after config.serialPort operation clock }
  | .accept index deviceId payload =>
      match before.running index with
      | none => some (before.put index clock before.daemon.state
          ⟨deviceId, payload, none, .accepted⟩)
      | some _ => none
  | .load index bundle usbIdentity now =>
      match before.running index with
      | some ⟨deviceId, payload, reported, .accepted⟩ =>
          let loaded := loadOperation deviceId payload bundle usbIdentity now before.daemon.state
          some (before.put index clock loaded.1
            ⟨deviceId, payload, reported, stageOf .loaded loaded.2⟩)
      | _ => none
  | .refresh index facts =>
      match before.running index with
      | some ⟨deviceId, payload, _, .loaded prepared⟩ =>
          let refreshed := refreshOperationFacts deviceId payload facts prepared
            before.daemon.state
          some (before.put index clock refreshed.1
            ⟨deviceId, payload, reportedVersion payload prepared facts,
              stageOf .refreshed refreshed.2⟩)
      | _ => none
  | .probe index probe =>
      match before.running index with
      | some ⟨deviceId, payload, reported, .refreshed prepared⟩ =>
          some (before.put index clock before.daemon.state
            ⟨deviceId, payload, reported,
              stageOf .ready (probeOperation config.parse payload probe prepared)⟩)
      | _ => none
  | .approve index nowMillis now =>
      match before.running index with
      | some ⟨deviceId, payload, reported, .ready prepared⟩ =>
          if payload.dryRun then
            let created := createFirmwareApproval deviceId payload prepared
              (firmwarePreflightDigest config.sha256Hex payload deviceId prepared) nowMillis now
              before.daemon.state
            let after := before.put index clock created.1
              ⟨deviceId, payload, reported, .passed created.2⟩
            some { after with
              passed := after.passed ++ [⟨created.2, deviceId, payload, prepared, now⟩] }
          else none
      | _ => none
  | .take index =>
      match before.running index with
      | some ⟨deviceId, payload, reported, .ready prepared⟩ =>
          if payload.dryRun then none
          else
            let took := takeFirmwareApproval payload before.daemon.state
            match took.2 with
            | .error refusal => some (before.put index clock took.1
                ⟨deviceId, payload, reported, .refused refusal⟩)
            | .ok (token, approval) =>
                let after := before.put index clock took.1
                  ⟨deviceId, payload, reported, .taken prepared token approval⟩
                some { after with taken := after.taken ++ [(index, token)] }
      | _ => none
  | .check index now =>
      match before.running index with
      | some ⟨deviceId, payload, reported, .taken prepared token approval⟩ =>
          match checkFirmwareApproval config.allowRealFlash deviceId payload prepared
              (firmwarePreflightDigest config.sha256Hex payload deviceId prepared) approval now with
          | .error refusal => some (before.put index clock before.daemon.state
              ⟨deviceId, payload, reported, .refused refusal⟩)
          | .ok () =>
              let after := before.put index clock before.daemon.state
                ⟨deviceId, payload, reported, .authorized token⟩
              some { after with authorized := after.authorized ++ [(index, token)] }
      | _ => none

/-- One step of the run. -/
def Next (before : FirmwareDaemon) (action : FirmwareAction) (after : FirmwareDaemon) : Prop :=
  action.Within before.daemon.clock after.daemon.clock ∧
    before.step config after.daemon.clock action = some after

end

/-! ## What an authorization should rest on -/

/-- The dry run was made for the same operation on the same target. -/
structure SameTarget (dryRun : PassedDryRun) (execution : Running)
    (prepared : PreparedFirmwareOperation) : Prop where
  dry : dryRun.payload.dryRun = true
  leaseId : dryRun.payload.leaseId = execution.payload.leaseId
  deviceId : dryRun.deviceId = execution.deviceId
  portPath : dryRun.prepared.portPath = prepared.portPath
  usbIdentity : dryRun.prepared.usbIdentity = prepared.usbIdentity
  romMac : dryRun.prepared.romMac = prepared.romMac
  bundleSha256 : dryRun.prepared.bundle.bundleSha256 = prepared.bundle.bundleSha256
  operation : dryRun.payload.operation = execution.payload.operation
  allowDowngrade : dryRun.payload.allowDowngrade = execution.payload.allowDowngrade

/-- An authorization with this token, at this time, in this state. -/
structure Current {Version : Type} [LinearOrder Version] (config : FirmwareConfig Version)
    (before : FirmwareDaemon) (index : ℕ) (operation : Running)
    (prepared : PreparedFirmwareOperation) (token : String) (now : Instant) : Prop where
  dryRun : ∃ dryRun ∈ before.passed, dryRun.token = token ∧ dryRun.createdAt ≤ now ∧
    now < dryRun.createdAt + approvalTtlMs * nanosPerMilli ∧
    SameTarget dryRun operation prepared
  unused : (∀ other, (other, token) ∈ before.taken → other = index) ∧
    token ∉ before.authorized.map Prod.snd
  lease : ∃ lease, before.daemon.state.leases.lookup operation.payload.leaseId = some lease ∧
    lease.deviceId = operation.deviceId ∧ now < lease.expiresAt
  upgrade : operation.payload.operation = .update → operation.payload.allowDowngrade = false →
    ∃ currentVersion, operation.reported = some currentVersion ∧
      ∀ current target, config.parse (currentVersionText currentVersion) = some current →
        config.parse (targetVersionText prepared.bundle.version) = some target → ¬ target < current

/-- Every authorization of the step is current. -/
def AuthorizesCurrently {Version : Type} [LinearOrder Version] (config : FirmwareConfig Version)
    (before : FirmwareDaemon) (action : FirmwareAction) (after : FirmwareDaemon) : Prop :=
  ∀ index now operation prepared token approval, action = .check index now →
    before.running index = some operation →
      operation.stage = .taken prepared token approval →
        (after.running index).map Running.stage = some (.authorized token) →
          Current config before index operation prepared token now

/-- An execution that has been accepted under its lease and is not over. -/
def Executes (daemon : FirmwareDaemon) (operation : Running) : Prop :=
  (∃ index, daemon.running index = some operation) ∧ operation.payload.dryRun = false ∧
    operation.stage.UnderWay

/-- No step takes away the lease of an execution under way: it is not deleted, it is renewed
in time, and its device is found.  Ids do not run out. -/
def Meets (serialPort : Option String) (before : FirmwareDaemon) : FirmwareAction → Prop
  | .other operation =>
      Devd.Meets serialPort before.daemon operation ∧
        ∀ execution, before.Executes execution →
          operation ≠ .deleteLease execution.payload.leaseId ∧
            ¬ TimedOut before.daemon operation execution.payload.leaseId ∧
            ¬ NotEnumerated serialPort operation execution.deviceId
  | .load _ _ _ now =>
      ∀ execution, before.Executes execution →
        now < before.daemon.renewedAt execution.payload.leaseId +
          defaultLeaseTtlMs * nanosPerMilli
  | .approve _ _ _ => before.daemon.state.sequence < sequenceMax
  | .check index now =>
      ∀ execution, before.running index = some execution →
        now < before.daemon.renewedAt execution.payload.leaseId +
          defaultLeaseTtlMs * nanosPerMilli
  | _ => True

/-! ## What each step changes -/

section

variable {Version : Type} [LinearOrder Version] {config : FirmwareConfig Version}
  {clock : Instant} {before after : FirmwareDaemon} {index : ℕ}

theorem step_accept {deviceId : String} {payload : FirmwareOperationRequest}
    (h : before.step config clock (.accept index deviceId payload) = some after) :
    before.running index = none ∧
      after = before.put index clock before.daemon.state ⟨deviceId, payload, none, .accepted⟩ := by
  rw [step] at h
  split at h
  · rename_i hnone
    exact ⟨hnone, (Option.some.inj h).symm⟩
  · cases h

theorem step_load {bundle : Except String FirmwareBundle}
    {usbIdentity : Except String UsbSerialIdentity} {now : Instant}
    (h : before.step config clock (.load index bundle usbIdentity now) = some after) :
    ∃ deviceId payload reported,
      before.running index = some ⟨deviceId, payload, reported, .accepted⟩ ∧
      after = before.put index clock
        (loadOperation deviceId payload bundle usbIdentity now before.daemon.state).1
        ⟨deviceId, payload, reported, stageOf .loaded
          (loadOperation deviceId payload bundle usbIdentity now before.daemon.state).2⟩ := by
  rw [step] at h
  split at h
  · rename_i deviceId payload reported hrunning
    exact ⟨deviceId, payload, reported, hrunning, (Option.some.inj h).symm⟩
  · cases h

theorem step_refresh {facts : Except Refusal (Identity × ControlPlaneStatus)}
    (h : before.step config clock (.refresh index facts) = some after) :
    ∃ deviceId payload reported prepared,
      before.running index = some ⟨deviceId, payload, reported, .loaded prepared⟩ ∧
      after = before.put index clock
        (refreshOperationFacts deviceId payload facts prepared before.daemon.state).1
        ⟨deviceId, payload, reportedVersion payload prepared facts, stageOf .refreshed
          (refreshOperationFacts deviceId payload facts prepared before.daemon.state).2⟩ := by
  rw [step] at h
  split at h
  · rename_i deviceId payload reported prepared hrunning
    exact ⟨deviceId, payload, reported, prepared, hrunning, (Option.some.inj h).symm⟩
  · cases h

theorem step_probe {probe : Except Refusal RomSecurityInfo}
    (h : before.step config clock (.probe index probe) = some after) :
    ∃ deviceId payload reported prepared,
      before.running index = some ⟨deviceId, payload, reported, .refreshed prepared⟩ ∧
      after = before.put index clock before.daemon.state
        ⟨deviceId, payload, reported,
          stageOf .ready (probeOperation config.parse payload probe prepared)⟩ := by
  rw [step] at h
  split at h
  · rename_i deviceId payload reported prepared hrunning
    exact ⟨deviceId, payload, reported, prepared, hrunning, (Option.some.inj h).symm⟩
  · cases h

theorem step_approve {nowMillis : ℕ} {now : Instant}
    (h : before.step config clock (.approve index nowMillis now) = some after) :
    ∃ deviceId payload reported prepared created,
      before.running index = some ⟨deviceId, payload, reported, .ready prepared⟩ ∧
      payload.dryRun = true ∧
      created = createFirmwareApproval deviceId payload prepared
        (firmwarePreflightDigest config.sha256Hex payload deviceId prepared) nowMillis now
        before.daemon.state ∧
      after = { before.put index clock created.1
          ⟨deviceId, payload, reported, .passed created.2⟩ with
        passed := before.passed ++ [⟨created.2, deviceId, payload, prepared, now⟩] } := by
  rw [step] at h
  split at h
  · rename_i deviceId payload reported prepared hrunning
    split at h
    · rename_i hdry
      exact ⟨deviceId, payload, reported, prepared, _, hrunning, hdry, rfl,
        (Option.some.inj h).symm⟩
    · cases h
  · cases h

theorem step_take (h : before.step config clock (.take index) = some after) :
    ∃ deviceId payload reported prepared,
      before.running index = some ⟨deviceId, payload, reported, .ready prepared⟩ ∧
      payload.dryRun = false ∧
      ((∃ refusal, after = before.put index clock
          (takeFirmwareApproval payload before.daemon.state).1
          ⟨deviceId, payload, reported, .refused refusal⟩) ∨
        ∃ token approval,
          (takeFirmwareApproval payload before.daemon.state).2 = .ok (token, approval) ∧
          after = { before.put index clock
              (takeFirmwareApproval payload before.daemon.state).1
              ⟨deviceId, payload, reported, .taken prepared token approval⟩ with
            taken := before.taken ++ [(index, token)] }) := by
  rw [step] at h
  split at h
  · rename_i deviceId payload reported prepared hrunning
    refine ⟨deviceId, payload, reported, prepared, hrunning, ?_⟩
    split at h
    · cases h
    · rename_i hdry
      refine ⟨Bool.eq_false_of_not_eq_true hdry, ?_⟩
      dsimp only at h
      split at h
      · rename_i refusal _
        exact .inl ⟨refusal, (Option.some.inj h).symm⟩
      · rename_i token approval htook
        exact .inr ⟨token, approval, htook, (Option.some.inj h).symm⟩
  · cases h

theorem step_check {now : Instant} (h : before.step config clock (.check index now) = some after) :
    ∃ deviceId payload reported prepared token approval,
      before.running index = some ⟨deviceId, payload, reported, .taken prepared token approval⟩ ∧
      ((∃ refusal, after = before.put index clock before.daemon.state
          ⟨deviceId, payload, reported, .refused refusal⟩) ∨
        (checkFirmwareApproval config.allowRealFlash deviceId payload prepared
            (firmwarePreflightDigest config.sha256Hex payload deviceId prepared) approval now =
              .ok () ∧
          after = { before.put index clock before.daemon.state
              ⟨deviceId, payload, reported, .authorized token⟩ with
            authorized := before.authorized ++ [(index, token)] })) := by
  rw [step] at h
  split at h
  · rename_i deviceId payload reported prepared token approval hrunning
    refine ⟨deviceId, payload, reported, prepared, token, approval, hrunning, ?_⟩
    split at h
    · rename_i refusal _
      exact .inl ⟨refusal, (Option.some.inj h).symm⟩
    · rename_i hok
      exact .inr ⟨hok, (Option.some.inj h).symm⟩
  · cases h

end

/-! ## What each part of an operation does -/

section

variable {deviceId : String} {payload : FirmwareOperationRequest} {state : DevdState}
  {prepared prepared' : PreparedFirmwareOperation} {now : Instant}

theorem loadOperation_state (bundle : Except String FirmwareBundle)
    (usbIdentity : Except String UsbSerialIdentity) :
    (loadOperation deviceId payload bundle usbIdentity now state).1 = state ∨
      (loadOperation deviceId payload bundle usbIdentity now state).1 =
        (state.cleanupLeases now).1 := by
  unfold loadOperation
  split
  · exact .inl rfl
  · exact .inr (DevdState.requireLease_state deviceId (some payload.leaseId) now state)

theorem lease_of_loadOperation {bundle : Except String FirmwareBundle}
    {usbIdentity : Except String UsbSerialIdentity}
    (h : (loadOperation deviceId payload bundle usbIdentity now state).2 = .ok prepared) :
    ∃ lease, (loadOperation deviceId payload bundle usbIdentity now state).1.leases.lookup
      payload.leaseId = some lease ∧ lease.deviceId = deviceId := by
  unfold loadOperation at h ⊢
  split at h
  · cases h
  · dsimp only [loadOperationTarget] at h ⊢
    rw [DevdState.requireLease_state]
    cases hrequired : (state.requireLease deviceId (some payload.leaseId) now).2 with
    | error refusal =>
      rw [hrequired] at h
      cases h
    | ok granted =>
      unfold DevdState.requireLease at hrequired
      dsimp only at hrequired
      split at hrequired
      · cases hrequired
      · rename_i lease hlease
        split at hrequired
        · cases hrequired
        · rename_i hsame
          exact ⟨lease, hlease, not_not.mp hsame⟩

theorem isSome_updateOperationDevice (identity : Option Identity) (other : String) :
    ((updateOperationDevice deviceId prepared identity state).devices.lookup other).isSome =
      (state.devices.lookup other).isSome := by
  unfold updateOperationDevice
  rw [HashMap.lookup_modify]
  split
  · rename_i heq
    rw [Option.isSome_map, heq]
  · rfl

theorem keyed_updateOperationDevice (identity : Option Identity) (hkeyed : Keyed state.devices) :
    Keyed (updateOperationDevice deviceId prepared identity state).devices := by
  intro other device h
  unfold updateOperationDevice at h
  rw [HashMap.lookup_modify] at h
  split at h
  · rename_i heq
    obtain ⟨device', hdevice', rfl⟩ := Option.map_eq_some_iff.mp h
    have hid : device'.id = other := heq ▸ hkeyed _ _ hdevice'
    split <;> exact hid
  · exact hkeyed _ _ h

theorem refreshOperationFacts_state (deviceId : String) (payload : FirmwareOperationRequest)
    (state : DevdState) (prepared : PreparedFirmwareOperation)
    (facts : Except Refusal (Identity × ControlPlaneStatus)) :
    (refreshOperationFacts deviceId payload facts prepared state).1 = state ∨
      ∃ prepared' identity, (refreshOperationFacts deviceId payload facts prepared state).1 =
        updateOperationDevice deviceId prepared' identity state := by
  unfold refreshOperationFacts
  split
  · exact .inl rfl
  split
  · exact .inl rfl
  · exact .inr ⟨_, _, rfl⟩
  split
  · exact .inl rfl
  split
  · exact .inl rfl
  dsimp only
  split
  · exact .inl rfl
  · exact .inr ⟨_, _, rfl⟩

/-- The version of a prepared update on a serial port is the reported one. -/
def Reported (payload : FirmwareOperationRequest) (reported : Option String)
    (prepared : PreparedFirmwareOperation) : Prop :=
  payload.operation = .update → prepared.transport = .nativeSerial →
    reported = some prepared.currentVersion

theorem reported_of_refresh {facts : Except Refusal (Identity × ControlPlaneStatus)}
    (h : (refreshOperationFacts deviceId payload facts prepared state).2 = .ok prepared') :
    Reported payload (reportedVersion payload prepared facts) prepared' := by
  intro hupdate hserial
  unfold refreshOperationFacts at h
  rw [if_neg (not_not.mpr hupdate)] at h
  split at h
  · cases h
  · rename_i htransport
    dsimp only at h
    cases hvalid : validateUpdateRuntimeFacts prepared.transport prepared.currentVersion
        { prepared.status with heaterEnabled := false } with
    | error refusal =>
      rw [hvalid] at h
      cases h
    | ok valid =>
      rw [hvalid] at h
      obtain rfl := Except.ok.inj h
      cases htransport.symm.trans hserial
  · rename_i htransport
    split at h
    · cases h
    split at h
    · cases h
    · rename_i identity status
      dsimp only at h
      split at h
      · cases h
      · cases hvalid : validateUpdateRuntimeFacts prepared.transport identity.firmwareVersion
            status with
        | error refusal =>
          rw [hvalid] at h
          cases h
        | ok valid =>
          rw [hvalid] at h
          obtain rfl := Except.ok.inj h
          rw [reportedVersion, if_pos ⟨hupdate, htransport⟩]
          rfl

/-- The target of an update is not known to be older, unless that is allowed. -/
def NotOlder {Version : Type} [LinearOrder Version] (config : FirmwareConfig Version)
    (payload : FirmwareOperationRequest) (prepared : PreparedFirmwareOperation) : Prop :=
  payload.operation = .update → payload.allowDowngrade = false →
    isDowngrade config.parse prepared.currentVersion prepared.bundle.version = false

theorem probeOperation_ok {Version : Type} [LinearOrder Version]
    {config : FirmwareConfig Version} {probe : Except Refusal RomSecurityInfo}
    (h : probeOperation config.parse payload probe prepared = .ok prepared') :
    (∃ romMac, prepared' = { prepared with romMac }) ∧ NotOlder config payload prepared' := by
  unfold probeOperation at h
  cases hsecurity : operationRomSecurity prepared probe with
  | error refusal =>
    rw [hsecurity] at h
    cases h
  | ok security =>
    rw [hsecurity] at h
    replace h : (do
      validateOperationDowngrade config.parse { prepared with romMac := security.romMac } payload
      return { prepared with romMac := security.romMac }) = Except.ok prepared' := h
    cases hvalid : validateOperationDowngrade config.parse
        { prepared with romMac := security.romMac } payload with
    | error refusal =>
      rw [hvalid] at h
      cases h
    | ok valid =>
      rw [hvalid] at h
      obtain rfl := Except.ok.inj h
      refine ⟨⟨_, rfl⟩, fun hupdate hallow => ?_⟩
      unfold validateOperationDowngrade at hvalid
      rw [if_neg (by simp [hupdate, hallow])] at hvalid
      split at hvalid
      · cases hvalid
      · rename_i hnot
        exact Bool.eq_false_of_not_eq_true hnot

theorem takeFirmwareApproval_state (payload : FirmwareOperationRequest) (state : DevdState) :
    (takeFirmwareApproval payload state).1 = state ∨
      ∃ token, (takeFirmwareApproval payload state).1 =
        { state with firmwareApprovals := state.firmwareApprovals.erase token } := by
  unfold takeFirmwareApproval
  split
  · exact .inl rfl
  · exact .inr ⟨_, rfl⟩

theorem takeFirmwareApproval_ok {token : String} {approval : FirmwareApproval}
    (h : (takeFirmwareApproval payload state).2 = .ok (token, approval)) :
    state.firmwareApprovals.lookup token = some approval ∧
      (takeFirmwareApproval payload state).1 =
        { state with firmwareApprovals := state.firmwareApprovals.erase token } := by
  unfold takeFirmwareApproval at h ⊢
  split at h
  · cases h
  · dsimp only at h ⊢
    split at h
    · cases h
    · rename_i found hfound
      cases h
      exact ⟨hfound, rfl⟩

theorem checkFirmwareApproval_ok {allowRealFlash : Bool} {preflightDigest : String}
    {approval : FirmwareApproval}
    (h : checkFirmwareApproval allowRealFlash deviceId payload prepared preflightDigest approval
      now = .ok ()) :
    approval.covers deviceId payload prepared preflightDigest now = true ∧
      prepared.transport = .nativeSerial := by
  unfold checkFirmwareApproval at h
  split at h
  · cases h
  rename_i hcovers
  split at h
  · cases h
  split at h
  · cases h
  split at h
  · cases h
  rename_i htransport
  exact ⟨by simpa using hcovers, not_not.mp htransport⟩

end

end FirmwareDaemon

end FluxPurr.Devd
