import FluxPurr.Devd.FirmwareSteps

/-!
# What firmware operations keep

Two invariants of a run of concurrent firmware operations.  `LeaseSide` says that every
execution under way still has its lease, as long as no step takes it away.  `TokenSide` says
where each token comes from, that it is taken at most once, and what an operation knows in
its stage.
-/

namespace FluxPurr.Devd

open FluxPurr.Collections FluxPurr.Runs
open DevdState

namespace FirmwareDaemon

/-! ## The leases of the executions -/

/-- The lease is stored, and it is one of the device. -/
def HasLease (state : DevdState) (leaseId deviceId : String) : Prop :=
  ∃ lease, state.leases.lookup leaseId = some lease ∧ lease.deviceId = deviceId

/-- Every execution under way still has its lease. -/
structure LeaseSide (before : FirmwareDaemon) : Prop where
  lease : Invariant before.daemon
  held : ∀ execution, before.Executes execution →
    HasLease before.daemon.state execution.payload.leaseId execution.deviceId

section

variable {Version : Type} [LinearOrder Version] {config : FirmwareConfig Version}
  {before after : FirmwareDaemon} {index : ℕ} {clock : Instant}

theorem executes_update {operation execution : Running}
    (hrunning : after.running = Function.update before.running index (some operation))
    (h : after.Executes execution) :
    before.Executes execution ∨
      execution = operation ∧ operation.payload.dryRun = false ∧ operation.stage.UnderWay := by
  obtain ⟨⟨other, hother⟩, hdry, hunderWay⟩ := h
  rw [hrunning] at hother
  by_cases heq : other = index
  · subst heq
    rw [Function.update_self] at hother
    obtain rfl := Option.some.inj hother
    exact .inr ⟨rfl, hdry, hunderWay⟩
  · rw [Function.update_of_ne heq] at hother
    exact .inl ⟨⟨other, hother⟩, hdry, hunderWay⟩

theorem leaseSide_of_update {operation : Running} (hinv : Invariant after.daemon)
    (hrunning : after.running = Function.update before.running index (some operation))
    (hkept : ∀ execution, before.Executes execution →
      HasLease after.daemon.state execution.payload.leaseId execution.deviceId)
    (hnew : operation.payload.dryRun = false → operation.stage.UnderWay →
      HasLease after.daemon.state operation.payload.leaseId operation.deviceId) :
    LeaseSide after := by
  refine ⟨hinv, fun execution hexecution => ?_⟩
  obtain hbefore | ⟨rfl, hdry, hunderWay⟩ := executes_update hrunning hexecution
  · exact hkept execution hbefore
  · exact hnew hdry hunderWay

variable {operation operation' : Running}

theorem leaseSide_of_stage (hside : LeaseSide before) (hinv : Invariant after.daemon)
    (hrunning : after.running = Function.update before.running index (some operation'))
    (hleases : after.daemon.state.leases = before.daemon.state.leases)
    (hbefore : before.running index = some operation)
    (hpayload : operation'.payload = operation.payload)
    (hdevice : operation'.deviceId = operation.deviceId)
    (hunderWay : operation'.stage.UnderWay → operation.stage.UnderWay) : LeaseSide after := by
  have hkept : ∀ execution, before.Executes execution →
      HasLease after.daemon.state execution.payload.leaseId execution.deviceId := by
    intro execution hexecution
    rw [HasLease, hleases]
    exact hside.held execution hexecution
  refine leaseSide_of_update hinv hrunning hkept fun hdry hstage => ?_
  rw [hpayload, hdevice]
  exact hkept operation ⟨⟨index, hbefore⟩, hpayload ▸ hdry, hunderWay hstage⟩

variable {daemon : Daemon}

theorem invariant_of_devices {state : DevdState} (hinv : Invariant daemon)
    (hclock : daemon.clock ≤ clock) (hleases : state.leases = daemon.state.leases)
    (hsequence : daemon.state.sequence ≤ state.sequence) (hbounded : state.sequence ≤ sequenceMax)
    (hkeyed : Keyed daemon.state.devices → Keyed state.devices)
    (hdevices : ∀ deviceId, (daemon.state.devices.lookup deviceId).isSome →
      (state.devices.lookup deviceId).isSome) :
    Invariant { daemon with state, clock } := by
  have hlawful : Invariant { daemon with state, clock } ∧
      LeaseLaw none daemon (.nextId "" 0) { daemon with state, clock } :=
    lawful_of_devices hinv hclock hleases hsequence hbounded rfl hkeyed hdevices
  exact hlawful.1

theorem invariant_of_clock (hinv : Invariant daemon)
    (hclock : daemon.clock ≤ clock) : Invariant { daemon with clock } :=
  invariant_of_devices hinv hclock rfl le_rfl hinv.bounded id fun _ h => h

theorem invariant_of_cleanup {now : Instant} (hinv : Invariant daemon)
    (hclock : daemon.clock ≤ clock) :
    Invariant { daemon with state := (daemon.state.cleanupLeases now).1, clock } := by
  have hlawful : Invariant { daemon with state := (daemon.state.cleanupLeases now).1, clock } ∧
      LeaseLaw none daemon (.reapExpiredLeases now)
        { daemon with state := (daemon.state.cleanupLeases now).1, clock } :=
    lawful_of_cleanup hinv rfl hclock rfl rfl
  exact hlawful.1

theorem leaseSide_other {operation : Operation} (hside : LeaseSide before)
    (hmeets : Meets config.serialPort before (.other operation))
    (hnext : Next config before (.other operation) after) : LeaseSide after := by
  obtain ⟨hwithin, hstep⟩ := hnext
  have hafter : after.daemon = before.daemon.after config.serialPort operation
      after.daemon.clock := by
    rw [step] at hstep
    exact congrArg FirmwareDaemon.daemon (Option.some.inj hstep).symm
  have hrunning : after.running = before.running := by
    rw [step] at hstep
    rw [← Option.some.inj hstep]
  obtain ⟨hinv, hlaw⟩ := lawful hside.lease hmeets.1 ⟨hwithin, hafter⟩
  refine ⟨hinv, fun execution hexecution => ?_⟩
  have hbefore : before.Executes execution := by
    rw [Executes, hrunning] at hexecution
    exact hexecution
  obtain ⟨hdelete, htime, henumerated⟩ := hmeets.2 execution hbefore
  obtain ⟨lease, hlease, hdevice⟩ := hside.held execution hbefore
  obtain ⟨lease', hlease', hsame⟩ | hdeleted | htimedOut | hmissed := hlaw.stable _ lease hlease
  · exact ⟨lease', hlease', hsame.trans hdevice⟩
  · exact absurd hdeleted hdelete
  · exact absurd htimedOut htime
  · exact absurd (hdevice ▸ hmissed) henumerated

theorem leaseSide_load {bundle : Except String FirmwareBundle}
    {usbIdentity : Except String UsbSerialIdentity} {now : Instant} (hside : LeaseSide before)
    (hmeets : Meets config.serialPort before (.load index bundle usbIdentity now))
    (hnext : Next config before (.load index bundle usbIdentity now) after) :
    LeaseSide after := by
  obtain ⟨⟨hstart, hend⟩, hstep⟩ := hnext
  obtain ⟨deviceId, payload, reported, hrunning, hafter⟩ := step_load hstep
  have hclock := hstart.trans hend
  have hstate : after.daemon.state =
      (loadOperation deviceId payload bundle usbIdentity now before.daemon.state).1 := by
    rw [hafter]
    rfl
  have hdaemon : after.daemon =
      { before.daemon with state := after.daemon.state, clock := after.daemon.clock } := by
    rw [hafter]
    rfl
  have hcases : after.daemon.state = before.daemon.state ∨
      after.daemon.state = (before.daemon.state.cleanupLeases now).1 := by
    rw [hstate]
    exact loadOperation_state bundle usbIdentity
  have hupdate : after.running = Function.update before.running index
      (some ⟨deviceId, payload, reported, stageOf .loaded
        (loadOperation deviceId payload bundle usbIdentity now before.daemon.state).2⟩) := by
    rw [hafter]
    rfl
  refine leaseSide_of_update ?_ hupdate ?_ ?_
  · rw [hdaemon]
    obtain hsame | hcleaned := hcases
    · rw [hsame]
      exact invariant_of_clock hside.lease hclock
    · rw [hcleaned]
      exact invariant_of_cleanup hside.lease hclock
  · intro execution hexecution
    obtain ⟨lease, hlease, hdevice⟩ := hside.held execution hexecution
    have hfresh : now < lease.expiresAt := by
      rw [hside.lease.dated _ _ hlease]
      exact hmeets execution hexecution
    refine ⟨lease, ?_, hdevice⟩
    obtain hsame | hcleaned := hcases
    · rw [hsame, hlease]
    · rw [hcleaned, lookup_leases_cleanup, hlease, Option.filter_some, if_pos]
      exact decide_eq_true hfresh
  · intro _ hunderWay
    rw [hstate]
    cases hloaded : (loadOperation deviceId payload bundle usbIdentity now
        before.daemon.state).2 with
    | error refusal =>
      rw [hloaded] at hunderWay
      cases hunderWay
    | ok prepared => exact lease_of_loadOperation hloaded

theorem LeaseSide.congr {other : FirmwareDaemon} (hside : LeaseSide other)
    (hdaemon : after.daemon = other.daemon) (hrunning : after.running = other.running) :
    LeaseSide after := by
  refine ⟨hdaemon ▸ hside.lease, fun execution hexecution => ?_⟩
  rw [hdaemon]
  exact hside.held execution (by rwa [Executes, ← hrunning])

/-- A part of an operation under way that leaves the leases alone. -/
theorem leaseSide_of_part {state : DevdState}
    (hside : LeaseSide before) (hbefore : before.running index = some operation)
    (hunderWay : operation.stage.UnderWay) (hinv : Invariant { before.daemon with state, clock })
    (hleases : state.leases = before.daemon.state.leases)
    (hpayload : operation'.payload = operation.payload)
    (hdevice : operation'.deviceId = operation.deviceId) :
    LeaseSide (before.put index clock state operation') :=
  leaseSide_of_stage hside hinv rfl hleases hbefore hpayload hdevice fun _ => hunderWay

theorem takeFirmwareApproval_keeps (payload : FirmwareOperationRequest) (state : DevdState) :
    (takeFirmwareApproval payload state).1 =
      { state with
        firmwareApprovals := (takeFirmwareApproval payload state).1.firmwareApprovals } := by
  obtain hsame | ⟨token, herased⟩ := takeFirmwareApproval_state payload state
  · rw [hsame]
  · rw [herased]

theorem leaseSide_step {action : FirmwareAction} (hside : LeaseSide before)
    (hmeets : Meets config.serialPort before action) (hnext : Next config before action after) :
    LeaseSide after := by
  cases action with
  | other operation => exact leaseSide_other hside hmeets hnext
  | accept index deviceId payload =>
    obtain ⟨hclock, hstep⟩ := hnext
    obtain ⟨hnone, hafter⟩ := step_accept hstep
    rw [hafter]
    exact leaseSide_of_update (invariant_of_clock hside.lease hclock) rfl hside.held
      fun _ hunderWay => False.elim hunderWay
  | load index bundle usbIdentity now => exact leaseSide_load hside hmeets hnext
  | refresh index facts =>
    obtain ⟨hclock, hstep⟩ := hnext
    obtain ⟨deviceId, payload, reported, prepared, hrunning, hafter⟩ := step_refresh hstep
    rw [hafter]
    obtain hsame | ⟨prepared', identity, hupdated⟩ :=
      refreshOperationFacts_state deviceId payload before.daemon.state prepared facts
    · rw [hsame]
      exact leaseSide_of_part hside hrunning trivial (invariant_of_clock hside.lease hclock)
        rfl rfl rfl
    · rw [hupdated]
      refine leaseSide_of_part hside hrunning trivial ?_ rfl rfl rfl
      exact invariant_of_devices hside.lease hclock rfl le_rfl hside.lease.bounded
        (keyed_updateOperationDevice identity)
        fun other hother => (isSome_updateOperationDevice identity other).trans hother
  | probe index probe =>
    obtain ⟨hclock, hstep⟩ := hnext
    obtain ⟨deviceId, payload, reported, prepared, hrunning, hafter⟩ := step_probe hstep
    rw [hafter]
    exact leaseSide_of_part hside hrunning trivial (invariant_of_clock hside.lease hclock)
      rfl rfl rfl
  | approve index nowMillis now =>
    obtain ⟨⟨hstart, hend⟩, hstep⟩ := hnext
    obtain ⟨deviceId, payload, reported, prepared, created, hrunning, hdry, hcreated, hafter⟩ :=
      step_approve hstep
    have hinv : Invariant { before.daemon with
        state := created.1, clock := after.daemon.clock } := by
      rw [hcreated]
      exact invariant_of_devices hside.lease (hstart.trans hend) rfl
        (le_min (Nat.le_succ _) hside.lease.bounded) (min_le_right _ _) id fun _ h => h
    have hleases : created.1.leases = before.daemon.state.leases := by
      rw [hcreated]
      rfl
    have hput : LeaseSide (before.put index after.daemon.clock created.1
        ⟨deviceId, payload, reported, .passed created.2⟩) :=
      leaseSide_of_part hside hrunning trivial hinv hleases rfl rfl
    rw [hafter]
    exact hput.congr rfl rfl
  | take index =>
    obtain ⟨hclock, hstep⟩ := hnext
    obtain ⟨deviceId, payload, reported, prepared, hrunning, hdry, hcases⟩ := step_take hstep
    have hput : ∀ stage, LeaseSide (before.put index after.daemon.clock
        (takeFirmwareApproval payload before.daemon.state).1
        ⟨deviceId, payload, reported, stage⟩) := by
      intro stage
      rw [takeFirmwareApproval_keeps]
      exact leaseSide_of_part hside hrunning trivial (invariant_of_devices hside.lease hclock rfl
        le_rfl hside.lease.bounded id fun _ h => h) rfl rfl rfl
    obtain ⟨refusal, hafter⟩ | ⟨token, approval, -, hafter⟩ := hcases
    · rw [hafter]
      exact hput _
    · rw [hafter]
      exact (hput _).congr rfl rfl
  | check index now =>
    obtain ⟨⟨hstart, hend⟩, hstep⟩ := hnext
    obtain ⟨deviceId, payload, reported, prepared, token, approval, hrunning, hcases⟩ :=
      step_check hstep
    have hput : ∀ stage, LeaseSide (before.put index after.daemon.clock before.daemon.state
        ⟨deviceId, payload, reported, stage⟩) := fun stage =>
      leaseSide_of_part hside hrunning trivial
        (invariant_of_clock hside.lease (hstart.trans hend)) rfl rfl rfl
    obtain ⟨refusal, hafter⟩ | ⟨-, hafter⟩ := hcases
    · rw [hafter]
      exact hput _
    · rw [hafter]
      exact (hput _).congr rfl rfl

end

/-! ## The tokens -/

/-- The approval is the one that the dry run left. -/
def Approves (dryRun : PassedDryRun) (approval : FirmwareApproval) : Prop :=
  ∃ preflightDigest, approval = firmwareApproval dryRun.deviceId dryRun.payload dryRun.prepared
    preflightDigest dryRun.createdAt

/-- What is known of an operation in its stage. -/
def Consistent {Version : Type} [LinearOrder Version] (config : FirmwareConfig Version)
    (passed : List PassedDryRun) (taken : List (ℕ × String)) (index : ℕ) (operation : Running) :
    Prop :=
  match operation.stage with
  | .refreshed prepared => Reported operation.payload operation.reported prepared
  | .ready prepared =>
      Reported operation.payload operation.reported prepared ∧
        NotOlder config operation.payload prepared
  | .taken prepared token approval =>
      Reported operation.payload operation.reported prepared ∧
        NotOlder config operation.payload prepared ∧ operation.payload.dryRun = false ∧
        (index, token) ∈ taken ∧ ∃ dryRun ∈ passed, dryRun.token = token ∧ Approves dryRun approval
  | _ => True

/-- Every token comes from a dry run, is taken at most once, and authorizes only the
operation that took it. -/
structure TokenSide {Version : Type} [LinearOrder Version] (config : FirmwareConfig Version)
    (before : FirmwareDaemon) : Prop where
  stored : ∀ token approval,
    before.daemon.state.firmwareApprovals.lookup token = some approval →
      token ∉ before.taken.map Prod.snd ∧
        ∃ dryRun ∈ before.passed, dryRun.token = token ∧ Approves dryRun approval
  dry : ∀ dryRun ∈ before.passed,
    dryRun.payload.dryRun = true ∧ dryRun.createdAt ≤ before.daemon.clock
  numbered : ∀ dryRun ∈ before.passed, ∃ nowMillis number,
    dryRun.token = idText "firmware-approval" nowMillis number ∧
      number ≤ before.daemon.state.sequence
  takenPassed : ∀ entry ∈ before.taken, ∃ dryRun ∈ before.passed, dryRun.token = entry.2
  takenOnce : (before.taken.map Prod.snd).Nodup
  authorizedTaken : ∀ entry ∈ before.authorized, entry ∈ before.taken ∧
    ∃ operation, before.running entry.1 = some operation ∧ operation.stage = .authorized entry.2
  stages : ∀ index operation, before.running index = some operation →
    Consistent config before.passed before.taken index operation

section

variable {Version : Type} [LinearOrder Version] {config : FirmwareConfig Version}
  {before after : FirmwareDaemon} {index : ℕ} {clock : Instant}

variable {operation : Running}

theorem Consistent.mono {passed passed' : List PassedDryRun} {taken taken' : List (ℕ × String)}
    (h : Consistent config passed taken index operation)
    (hpassed : passed ⊆ passed') (htaken : taken ⊆ taken') :
    Consistent config passed' taken' index operation := by
  unfold Consistent at h ⊢
  split
  · rename_i prepared hstage
    rw [hstage] at h
    exact h
  · rename_i prepared hstage
    rw [hstage] at h
    exact h
  · rename_i prepared token approval hstage
    rw [hstage] at h
    obtain ⟨hreported, holder, hexecutes, hmem, dryRun, hdryRun, htoken, happroves⟩ := h
    exact ⟨hreported, holder, hexecutes, htaken hmem, dryRun, hpassed hdryRun, htoken, happroves⟩
  · trivial

theorem tokenSide_of_same (hside : TokenSide config before)
    (happrovals : after.daemon.state.firmwareApprovals = before.daemon.state.firmwareApprovals)
    (hclock : before.daemon.clock ≤ after.daemon.clock)
    (hsequence : before.daemon.state.sequence ≤ after.daemon.state.sequence)
    (hpassed : after.passed = before.passed) (htaken : after.taken = before.taken)
    (hauthorized : after.authorized = before.authorized)
    (hkept : ∀ index operation token, before.running index = some operation →
      operation.stage = .authorized token → after.running index = some operation)
    (hnew : ∀ index operation, after.running index = some operation →
      before.running index = some operation ∨
        Consistent config before.passed before.taken index operation) :
    TokenSide config after where
  stored token approval h := by
    rw [happrovals] at h
    rw [htaken, hpassed]
    exact hside.stored token approval h
  dry dryRun h := by
    rw [hpassed] at h
    exact ⟨(hside.dry dryRun h).1, (hside.dry dryRun h).2.trans hclock⟩
  numbered dryRun h := by
    rw [hpassed] at h
    obtain ⟨nowMillis, number, htoken, hle⟩ := hside.numbered dryRun h
    exact ⟨nowMillis, number, htoken, hle.trans hsequence⟩
  takenPassed entry h := by
    rw [hpassed]
    exact hside.takenPassed entry (htaken ▸ h)
  takenOnce := htaken ▸ hside.takenOnce
  authorizedTaken entry h := by
    obtain ⟨hmem, operation, hrunning, hstage⟩ := hside.authorizedTaken entry (hauthorized ▸ h)
    exact ⟨htaken ▸ hmem, operation, hkept _ _ _ hrunning hstage, hstage⟩
  stages index operation h := by
    rw [hpassed, htaken]
    obtain hold | hconsistent := hnew index operation h
    · exact hside.stages index operation hold
    · exact hconsistent

theorem tokenSide_of_stage (hside : TokenSide config before) {state : DevdState}
    (happrovals : state.firmwareApprovals = before.daemon.state.firmwareApprovals)
    (hclock : before.daemon.clock ≤ clock)
    (hsequence : before.daemon.state.sequence ≤ state.sequence)
    (hfree : ∀ operation token, before.running index = some operation →
      operation.stage ≠ .authorized token)
    (hconsistent : Consistent config before.passed before.taken index operation) :
    TokenSide config (before.put index clock state operation) := by
  refine tokenSide_of_same hside happrovals hclock hsequence rfl rfl rfl ?_ ?_
  · intro other operation' token hrunning hstage
    change Function.update before.running index _ other = _
    by_cases heq : other = index
    · subst heq
      exact absurd hstage (hfree operation' token hrunning)
    · rw [Function.update_of_ne heq, hrunning]
  · intro other operation' hrunning
    replace hrunning : Function.update before.running index (some operation) other =
      some operation' := hrunning
    by_cases heq : other = index
    · subst heq
      rw [Function.update_self] at hrunning
      exact .inr (Option.some.inj hrunning ▸ hconsistent)
    · rw [Function.update_of_ne heq] at hrunning
      exact .inl hrunning

theorem not_authorized_of_running (hrunning : before.running index = some operation)
    (hstage : ∀ token, operation.stage ≠ .authorized token) (operation' : Running)
    (token : String) (h : before.running index = some operation') :
    operation'.stage ≠ .authorized token := by
  rw [hrunning] at h
  exact Option.some.inj h ▸ hstage token

theorem perform_firmwareApprovals (serialPort : Option String) (operation : Operation)
    (state : DevdState) :
    (operation.perform serialPort state).1.firmwareApprovals = state.firmwareApprovals := by
  cases operation with
  | createLease host deviceId readings =>
    rw [Operation.perform, createLeaseHandler]
    obtain ⟨refusal, h⟩ | ⟨leaseId, -, -, -, h⟩ := createLease_cases deviceId readings
      (state.refreshSerialDevices (scanSerialDevices host serialPort)).1
    · rw [h]
      rfl
    · rw [h]
      rfl
  | heartbeatLease leaseId cleanup renewed =>
    rw [Operation.perform]
    obtain ⟨refusal, h⟩ | ⟨lease, lease', -, -, -, h⟩ :=
      heartbeatLease_cases leaseId cleanup renewed state
    · rw [h]
      rfl
    · rw [h]
  | requireLease deviceId leaseId now =>
    rw [Operation.perform, requireLease_state]
    rfl
  | _ => rfl

theorem perform_sequence (serialPort : Option String) (operation : Operation)
    {state : DevdState} (hbounded : state.sequence ≤ sequenceMax) :
    state.sequence ≤ (operation.perform serialPort state).1.sequence := by
  have hdrawn : state.sequence ≤ min (state.sequence + 1) sequenceMax :=
    le_min (Nat.le_succ _) hbounded
  cases operation with
  | createLease host deviceId readings =>
    rw [Operation.perform, createLeaseHandler]
    obtain ⟨refusal, h⟩ | ⟨leaseId, -, -, -, h⟩ := createLease_cases deviceId readings
      (state.refreshSerialDevices (scanSerialDevices host serialPort)).1
    · rw [h]
      exact le_rfl
    · rw [h]
      exact hdrawn
  | heartbeatLease leaseId cleanup renewed =>
    rw [Operation.perform]
    obtain ⟨refusal, h⟩ | ⟨lease, lease', -, -, -, h⟩ :=
      heartbeatLease_cases leaseId cleanup renewed state
    · rw [h]
      exact le_rfl
    · rw [h]
  | requireLease deviceId leaseId now =>
    rw [Operation.perform, requireLease_state]
    exact le_rfl
  | nextId label nowMillis => exact hdrawn
  | _ => exact le_rfl

theorem within_le {operation : Operation} {clock' : Instant}
    (h : operation.Within clock clock') : clock ≤ clock' := by
  cases operation with
  | createLease host deviceId readings =>
    exact h.1.trans (((h.2.1 "").1.trans (h.2.1 "").2).trans h.2.2)
  | heartbeatLease leaseId cleanup renewed => exact h.1.trans (h.2.1.trans h.2.2)
  | reapExpiredLeases now | requireLease deviceId leaseId now => exact h.1.trans h.2
  | listDevices host | deleteLease leaseId | findLocalUpdateTarget host port
  | connectLanDevice device | pushEvent event | nextId label nowMillis => exact h

theorem consistent_stageOf {next : PreparedFirmwareOperation → Stage} {passed : List PassedDryRun}
    {taken : List (ℕ × String)} {deviceId : String} {payload : FirmwareOperationRequest}
    {reported : Option String} (result : Except Refusal PreparedFirmwareOperation)
    (h : ∀ prepared, result = .ok prepared →
      Consistent config passed taken index ⟨deviceId, payload, reported, next prepared⟩) :
    Consistent config passed taken index ⟨deviceId, payload, reported, stageOf next result⟩ := by
  cases result with
  | error refusal => trivial
  | ok prepared => exact h prepared rfl

theorem tokenSide_approve {nowMillis : ℕ} {now : Instant} (hside : TokenSide config before)
    (hmeets : Meets config.serialPort before (.approve index nowMillis now))
    (hnext : Next config before (.approve index nowMillis now) after) :
    TokenSide config after := by
  obtain ⟨⟨hstart, hend⟩, hstep⟩ := hnext
  obtain ⟨deviceId, payload, reported, prepared, created, hrunning, hdry, hcreated, hafter⟩ :=
    step_approve hstep
  obtain ⟨token, htoken⟩ : ∃ token, token = created.2 := ⟨_, rfl⟩
  have hname : token = idText "firmware-approval" nowMillis
      (min (before.daemon.state.sequence + 1) sequenceMax) := by
    rw [htoken, hcreated]
    rfl
  have hsequence : before.daemon.state.sequence + 1 ≤ created.1.sequence := by
    rw [hcreated]
    exact le_min le_rfl hmeets
  have happrovals : ∃ preflightDigest, created.1.firmwareApprovals =
      before.daemon.state.firmwareApprovals.insert token
        (firmwareApproval deviceId payload prepared preflightDigest now) := by
    rw [htoken, hcreated]
    exact ⟨_, rfl⟩
  have hfresh : ∀ dryRun ∈ before.passed, dryRun.token ≠ token := by
    intro dryRun hdryRun heq
    obtain ⟨nowMillis', number, hid, hle⟩ := hside.numbered dryRun hdryRun
    have hnumber := idText_inj (hid.symm.trans (heq.trans hname))
    have hroom : before.daemon.state.sequence < sequenceMax := hmeets
    omega
  have hput : TokenSide config (before.put index after.daemon.clock before.daemon.state
      ⟨deviceId, payload, reported, .passed token⟩) :=
    tokenSide_of_stage hside rfl (hstart.trans hend) le_rfl
      (not_authorized_of_running hrunning fun token => by simp) trivial
  have hmem : ∀ dryRun ∈ before.passed,
      dryRun ∈ before.passed ++ [⟨token, deviceId, payload, prepared, now⟩] :=
    fun dryRun h => List.mem_append_left _ h
  rw [hafter, ← htoken]
  refine ⟨?_, ?_, ?_, ?_, hput.takenOnce, hput.authorizedTaken, ?_⟩
  · intro other approval h
    obtain ⟨preflightDigest, hinsert⟩ := happrovals
    replace h : created.1.firmwareApprovals.lookup other = some approval := h
    rw [hinsert, HashMap.lookup_insert_eq] at h
    split at h
    · rename_i heq
      subst heq
      refine ⟨?_, ⟨other, deviceId, payload, prepared, now⟩, by simp, rfl, preflightDigest,
        (Option.some.inj h).symm⟩
      intro htaken
      obtain ⟨entry, hentry, hsnd⟩ := List.mem_map.mp htaken
      obtain ⟨dryRun, hdryRun, hsame⟩ := hside.takenPassed entry hentry
      exact hfresh dryRun hdryRun (hsame.trans hsnd)
    · obtain ⟨huntaken, dryRun, hdryRun, hrest⟩ := hside.stored other approval h
      exact ⟨huntaken, dryRun, hmem dryRun hdryRun, hrest⟩
  · intro dryRun h
    obtain hold | hnew := List.mem_append.mp h
    · exact hput.dry dryRun hold
    · rw [List.mem_singleton.mp hnew]
      exact ⟨hdry, hend⟩
  · intro dryRun h
    obtain hold | hnew := List.mem_append.mp h
    · obtain ⟨nowMillis', number, hid, hle⟩ := hside.numbered dryRun hold
      exact ⟨nowMillis', number, hid, hle.trans ((Nat.le_succ _).trans hsequence)⟩
    · rw [List.mem_singleton.mp hnew]
      refine ⟨nowMillis, _, hname, ?_⟩
      rw [hcreated]
      exact le_rfl
  · intro entry h
    obtain ⟨dryRun, hdryRun, hsame⟩ := hside.takenPassed entry h
    exact ⟨dryRun, hmem dryRun hdryRun, hsame⟩
  · intro other operation h
    exact (hput.stages other operation h).mono hmem fun _ h => h

theorem tokenSide_take (hside : TokenSide config before)
    (hnext : Next config before (.take index) after) : TokenSide config after := by
  obtain ⟨hclock, hstep⟩ := hnext
  obtain ⟨deviceId, payload, reported, prepared, hrunning, hdry, hcases⟩ := step_take hstep
  have hready := hside.stages index _ hrunning
  have hput : ∀ stage,
      Consistent config before.passed before.taken index ⟨deviceId, payload, reported, stage⟩ →
      TokenSide config (before.put index after.daemon.clock before.daemon.state
        ⟨deviceId, payload, reported, stage⟩) :=
    fun stage hconsistent => tokenSide_of_stage hside rfl hclock le_rfl
      (not_authorized_of_running hrunning fun token => by simp) hconsistent
  have hstored : ∀ token, (∀ approval,
      (takeFirmwareApproval payload before.daemon.state).1.firmwareApprovals.lookup token =
        some approval → before.daemon.state.firmwareApprovals.lookup token = some approval) := by
    intro token approval h
    obtain hsame | ⟨erased, herased⟩ := takeFirmwareApproval_state payload before.daemon.state
    · rwa [hsame] at h
    · rw [herased] at h
      replace h : (before.daemon.state.firmwareApprovals.erase erased).lookup token =
        some approval := h
      rw [HashMap.lookup_erase_eq] at h
      split at h
      · cases h
      · exact h
  have hnumbered : ∀ dryRun ∈ before.passed, ∃ nowMillis number,
      dryRun.token = idText "firmware-approval" nowMillis number ∧
        number ≤ (takeFirmwareApproval payload before.daemon.state).1.sequence := by
    rw [takeFirmwareApproval_keeps]
    exact hside.numbered
  obtain ⟨refusal, hafter⟩ | ⟨token, approval, htook, hafter⟩ := hcases
  · have hsame := hput (.refused refusal) trivial
    rw [hafter]
    refine { hsame with stored := ?_, numbered := hnumbered }
    intro token approval h
    exact hside.stored token approval (hstored token approval h)
  · obtain ⟨hlookup, herased⟩ := takeFirmwareApproval_ok htook
    obtain ⟨huntaken, hdryRun⟩ := hside.stored token approval hlookup
    have hsame := hput (.refused (.internal "")) trivial
    have hmem : ∀ entry ∈ before.taken, entry ∈ before.taken ++ [(index, token)] :=
      fun entry h => List.mem_append_left _ h
    rw [hafter]
    refine ⟨?_, hsame.dry, hnumbered, ?_, ?_, ?_, ?_⟩
    · intro other approval' h
      replace h : (takeFirmwareApproval payload before.daemon.state).1.firmwareApprovals.lookup
        other = some approval' := h
      have hne : other ≠ token := by
        rintro rfl
        rw [herased, AList.lookup_erase] at h
        cases h
      obtain ⟨hother, hrest⟩ := hside.stored other approval' (hstored other approval' h)
      refine ⟨?_, hrest⟩
      rw [List.map_append, List.mem_append, not_or]
      exact ⟨hother, by simpa using hne⟩
    · intro entry h
      obtain hold | hnew := List.mem_append.mp h
      · exact hside.takenPassed entry hold
      · obtain ⟨dryRun, hmemDry, htoken, -⟩ := hdryRun
        rw [List.mem_singleton.mp hnew]
        exact ⟨dryRun, hmemDry, htoken⟩
    · rw [List.map_append, List.nodup_append]
      refine ⟨hside.takenOnce, List.nodup_singleton _, ?_⟩
      intro first hfirst second hsecond heq
      rw [List.map_singleton, List.mem_singleton] at hsecond
      have hsame : first = token := heq.trans hsecond
      exact huntaken (hsame ▸ hfirst)
    · intro entry h
      obtain ⟨htaken, operation, hrun, hstage⟩ := hside.authorizedTaken entry h
      refine ⟨hmem entry htaken, operation, ?_, hstage⟩
      have hne : entry.1 ≠ index := by
        rintro heq
        rw [heq, hrunning] at hrun
        rw [← Option.some.inj hrun] at hstage
        cases hstage
      exact (Function.update_of_ne hne _ _).trans hrun
    · intro other operation h
      replace h : Function.update before.running index (some ⟨deviceId, payload, reported,
        .taken prepared token approval⟩) other = some operation := h
      by_cases heq : other = index
      · subst heq
        rw [Function.update_self] at h
        obtain rfl := Option.some.inj h
        exact ⟨hready.1, hready.2, hdry, by simp, hdryRun⟩
      · rw [Function.update_of_ne heq] at h
        exact (hside.stages other operation h).mono (fun _ h => h) hmem

theorem tokenSide_check {now : Instant} (hside : TokenSide config before)
    (hnext : Next config before (.check index now) after) : TokenSide config after := by
  obtain ⟨⟨hstart, hend⟩, hstep⟩ := hnext
  obtain ⟨deviceId, payload, reported, prepared, token, approval, hrunning, hcases⟩ :=
    step_check hstep
  have htaken := hside.stages index _ hrunning
  have hput : ∀ stage,
      Consistent config before.passed before.taken index ⟨deviceId, payload, reported, stage⟩ →
      TokenSide config (before.put index after.daemon.clock before.daemon.state
        ⟨deviceId, payload, reported, stage⟩) :=
    fun stage hconsistent => tokenSide_of_stage hside rfl (hstart.trans hend) le_rfl
      (not_authorized_of_running hrunning fun token => by simp) hconsistent
  obtain ⟨refusal, hafter⟩ | ⟨-, hafter⟩ := hcases
  · rw [hafter]
    exact hput _ trivial
  · have hmoved := hput (.authorized token) trivial
    rw [hafter]
    refine { hmoved with authorizedTaken := ?_ }
    intro entry h
    obtain hold | hnew := List.mem_append.mp h
    · exact hmoved.authorizedTaken entry hold
    · rw [List.mem_singleton.mp hnew]
      exact ⟨htaken.2.2.2.1, ⟨deviceId, payload, reported, .authorized token⟩,
        Function.update_self _ _ _, rfl⟩

theorem tokenSide_step {action : FirmwareAction} (hside : TokenSide config before)
    (hbounded : before.daemon.state.sequence ≤ sequenceMax)
    (hmeets : Meets config.serialPort before action) (hnext : Next config before action after) :
    TokenSide config after := by
  cases action with
  | other operation =>
    obtain ⟨hwithin, hstep⟩ := hnext
    rw [step] at hstep
    rw [← Option.some.inj hstep]
    refine tokenSide_of_same hside ?_ (within_le hwithin) ?_ rfl rfl rfl
      (fun _ _ _ h _ => h) (fun _ _ h => .inl h)
    · exact perform_firmwareApprovals config.serialPort operation before.daemon.state
    · exact perform_sequence config.serialPort operation hbounded
  | accept index deviceId payload =>
    obtain ⟨hclock, hstep⟩ := hnext
    obtain ⟨hnone, hafter⟩ := step_accept hstep
    rw [hafter]
    refine tokenSide_of_stage hside rfl hclock le_rfl (fun operation token h => ?_) trivial
    cases hnone.symm.trans h
  | load index bundle usbIdentity now =>
    obtain ⟨⟨hstart, hend⟩, hstep⟩ := hnext
    obtain ⟨deviceId, payload, reported, hrunning, hafter⟩ := step_load hstep
    have hstate := @loadOperation_state deviceId payload before.daemon.state now bundle usbIdentity
    rw [hafter]
    have hkept : ∀ state, (state = before.daemon.state ∨
        state = (before.daemon.state.cleanupLeases now).1) →
        state.firmwareApprovals = before.daemon.state.firmwareApprovals ∧
          state.sequence = before.daemon.state.sequence := by
      rintro state (rfl | rfl) <;> exact ⟨rfl, rfl⟩
    obtain ⟨happrovals, hsequence⟩ := hkept _ hstate
    exact tokenSide_of_stage hside happrovals (hstart.trans hend) hsequence.ge
      (not_authorized_of_running hrunning fun token => by simp)
      (consistent_stageOf _ fun _ _ => trivial)
  | refresh index facts =>
    obtain ⟨hclock, hstep⟩ := hnext
    obtain ⟨deviceId, payload, reported, prepared, hrunning, hafter⟩ := step_refresh hstep
    have hstate := refreshOperationFacts_state deviceId payload before.daemon.state prepared facts
    rw [hafter]
    refine tokenSide_of_stage hside ?_ hclock ?_
      (not_authorized_of_running hrunning fun token => by simp)
      (consistent_stageOf _ fun _ hok => reported_of_refresh hok)
    · obtain hsame | ⟨prepared', identity, hupdated⟩ := hstate
      · rw [hsame]
      · rw [hupdated]
        rfl
    · obtain hsame | ⟨prepared', identity, hupdated⟩ := hstate
      · rw [hsame]
      · rw [hupdated]
        exact le_rfl
  | probe index probe =>
    obtain ⟨hclock, hstep⟩ := hnext
    obtain ⟨deviceId, payload, reported, prepared, hrunning, hafter⟩ := step_probe hstep
    have hreported : Reported payload reported prepared := hside.stages index _ hrunning
    rw [hafter]
    refine tokenSide_of_stage hside rfl hclock le_rfl
      (not_authorized_of_running hrunning fun token => by simp)
      (consistent_stageOf _ fun prepared' hok => ?_)
    obtain ⟨⟨romMac, hprepared⟩, holder⟩ := probeOperation_ok hok
    refine ⟨?_, holder⟩
    rw [hprepared]
    exact hreported
  | approve index nowMillis now => exact tokenSide_approve hside hmeets hnext
  | take index => exact tokenSide_take hside hnext
  | check index now => exact tokenSide_check hside hnext

end

end FirmwareDaemon

end FluxPurr.Devd
