import FluxPurr.Devd.FirmwareInvariants
import Mathlib.Tactic.IntervalCases

/-!
# Authorizations of a real flash

The lease is looked at only when an operation is loaded, so it may be gone when the flash
is authorized (`not_all_currently_authorized`).  Where no step takes the lease of an
execution away while it is under way, an authorization is current
(`authorized_currently`).
-/

namespace FluxPurr.Devd

open FluxPurr.Runs

namespace FirmwareDaemon

section

variable {Version : Type} [LinearOrder Version] {config : FirmwareConfig Version}
  {before after : FirmwareDaemon} {index : ℕ} {clock : Instant}

/-! ## Runs -/

/-- No operation has been accepted and no lease granted. -/
structure Started (start : FirmwareDaemon) : Prop where
  daemon : Devd.Started start.daemon
  approvals : start.daemon.state.firmwareApprovals = ∅
  running : ∀ index, start.running index = none
  passed : start.passed = []
  taken : start.taken = []
  authorized : start.authorized = []

variable {start : FirmwareDaemon}

theorem Started.leaseSide (hstart : Started start) : LeaseSide start := by
  refine ⟨hstart.daemon.invariant, fun execution hexecution => ?_⟩
  obtain ⟨⟨index, hrunning⟩, -⟩ := hexecution
  cases (hstart.running index).symm.trans hrunning

theorem Started.tokenSide (hstart : Started start) :
    TokenSide config start where
  stored token approval h := by
    rw [hstart.approvals, AList.lookup_empty] at h
    cases h
  dry dryRun h := by
    rw [hstart.passed] at h
    cases h
  numbered dryRun h := by
    rw [hstart.passed] at h
    cases h
  takenPassed entry h := by
    rw [hstart.taken] at h
    cases h
  takenOnce := by
    rw [hstart.taken]
    exact List.nodup_nil
  authorizedTaken entry h := by
    rw [hstart.authorized] at h
    cases h
  stages index operation h := by
    cases (hstart.running index).symm.trans h

/-- An authorization in a state with the invariants is current. -/
theorem current_of_check {now : Instant} {execution : Running}
    {prepared : PreparedFirmwareOperation} {token : String} {approval : FirmwareApproval}
    (hleases : LeaseSide before) (htokens : TokenSide config before)
    (hmeets : Meets config.serialPort before (.check index now))
    (hrunning : before.running index = some execution)
    (hstage : execution.stage = .taken prepared token approval)
    (hok : checkFirmwareApproval config.allowRealFlash execution.deviceId execution.payload
      prepared (firmwarePreflightDigest config.sha256Hex execution.payload execution.deviceId
        prepared) approval now = .ok ())
    (hclock : before.daemon.clock ≤ now) :
    Current config before index execution prepared token now := by
  obtain ⟨hcovers, hserial⟩ := checkFirmwareApproval_ok hok
  have hconsistent := htokens.stages index execution hrunning
  rw [Consistent, hstage] at hconsistent
  obtain ⟨hreported, holder, hdry, htaken, dryRun, hdryRun, htoken, preflightDigest, rfl⟩ :=
    hconsistent
  simp only [FirmwareApproval.covers, Bool.and_eq_true, decide_eq_true_eq] at hcovers
  obtain ⟨⟨⟨⟨⟨⟨⟨⟨⟨hnow, hleaseId⟩, hdeviceId⟩, hportPath⟩, husb⟩, hmac⟩, hbundle⟩, hoperation⟩,
    hallow⟩, -⟩ := hcovers
  refine ⟨⟨dryRun, hdryRun, htoken, ?_, hnow, ⟨(htokens.dry dryRun hdryRun).1, hleaseId, hdeviceId,
    hportPath, husb, hmac, hbundle, hoperation, hallow⟩⟩, ⟨?_, ?_⟩, ?_, ?_⟩
  · exact (htokens.dry dryRun hdryRun).2.trans hclock
  · intro other hother
    exact congrArg Prod.fst (List.inj_on_of_nodup_map htokens.takenOnce hother htaken rfl)
  · intro hused
    obtain ⟨entry, hentry, hsnd⟩ := List.mem_map.mp hused
    obtain ⟨hmem, operation, hrun, hauthorized⟩ := htokens.authorizedTaken entry hentry
    obtain rfl := List.inj_on_of_nodup_map htokens.takenOnce hmem htaken hsnd
    rw [hrunning] at hrun
    rw [← Option.some.inj hrun, hstage] at hauthorized
    cases hauthorized
  · obtain ⟨lease, hlease, hdevice⟩ := hleases.held execution
      ⟨⟨index, hrunning⟩, hdry, by rw [hstage]; trivial⟩
    refine ⟨lease, hlease, hdevice, ?_⟩
    rw [hleases.lease.dated _ _ hlease]
    exact hmeets execution hrunning
  · intro hupdate hforbidden
    refine ⟨_, hreported hupdate hserial, ?_⟩
    intro current target hcurrent htarget
    have hnot := holder hupdate hforbidden
    simp only [isDowngrade, hcurrent, htarget, decide_eq_false_iff_not] at hnot
    exact hnot

theorem Started.sides (hstart : Started start) {actions : List FirmwareAction}
    (hrun : Reaches (fun before action after =>
      Meets config.serialPort before action ∧ Next config before action after)
      start actions before) : LeaseSide before ∧ TokenSide config before := by
  have hinv : ∀ before action after, LeaseSide before ∧ TokenSide config before →
      Meets config.serialPort before action ∧ Next config before action after →
        LeaseSide after ∧ TokenSide config after := by
    rintro before action after ⟨hleases, htokens⟩ ⟨hmeets, hnext⟩
    exact ⟨leaseSide_step hleases hmeets hnext,
      tokenSide_step htokens hleases.lease.bounded hmeets hnext⟩
  exact hrun.invariant ⟨hstart.leaseSide, hstart.tokenSide⟩ hinv

/-- In a run that takes no lease away from an execution under way, every authorization is
current. -/
theorem authorized_currently {Version : Type} [LinearOrder Version]
    {config : FirmwareConfig Version} {start before after : FirmwareDaemon}
    (hstart : Started start) {actions : List FirmwareAction}
    (hrun : Reaches (fun before action after =>
      Meets config.serialPort before action ∧ Next config before action after)
      start actions before)
    {action : FirmwareAction} (hmeets : Meets config.serialPort before action)
    (hnext : Next config before action after) :
    AuthorizesCurrently config before action after := by
  rintro index now execution prepared token approval rfl hrunning hstage hauthorized
  obtain ⟨hleases, htokens⟩ := hstart.sides hrun
  obtain ⟨⟨hclock, -⟩, hstep⟩ := hnext
  obtain ⟨deviceId, payload, reported, prepared', token', approval', hrunning', hcases⟩ :=
    step_check hstep
  rw [hrunning] at hrunning'
  obtain rfl := Option.some.inj hrunning'
  cases hstage
  obtain ⟨refusal, hafter⟩ | ⟨hok, -⟩ := hcases
  · have hrefused : after.running index = some ⟨deviceId, payload, reported, .refused refusal⟩ := by
      rw [hafter]
      exact Function.update_self _ _ _
    rw [hrefused] at hauthorized
    cases hauthorized
  · exact current_of_check hleases htokens hmeets hrunning rfl hok hclock

end

/-! ## A recovery install on one device -/

def exampleConfig : FirmwareConfig ℕ where
  serialPort := none
  allowRealFlash := true
  -- no version is parsed for a recovery install
  parse _ := none
  sha256Hex _ := "d55ed0cac71af1c147f9b2bb70f16396ec6320cfd498b8581b88e0db89c4bda3"

def exampleStart : FirmwareDaemon where
  daemon := idleDaemon
  running _ := none
  passed := []
  taken := []
  authorized := []

theorem exampleStart_started : Started exampleStart :=
  ⟨idleDaemon_started, rfl, fun _ => rfl, rfl, rfl, rfl⟩

def exampleBundle : FirmwareBundle where
  bundleSha256 := "sha256:7c2525e8659380468228a98c80355b01f454e651e0f2d0af9f6b1f43ef30dbec"
  version := "1.0.0"

def exampleRom : RomSecurityInfo where
  romMac := "aa:bb:cc:dd:ee:ff"
  secureBootEnabled := false
  flashEncryptionEnabled := false
  secureDownloadModeEnabled := false
  responseKnown := true
  chipIsEsp32s3 := true
  flashSizeBytes := flashSize
  packageMatches := true

def exampleRequest (dryRun : Bool) : FirmwareOperationRequest where
  leaseId := "lease-0-1"
  artifactId := exampleBundle.bundleSha256
  operation := .installRecovery
  dryRun := dryRun
  approvalToken := if dryRun then none else some "firmware-approval-0-2"
  confirm := some "ERASE_INSTALL"
  allowDowngrade := false

/-- An operation up to where its ROM has been probed. -/
def prepareActions (index : ℕ) (dryRun : Bool) : List FirmwareAction := [
  .accept index "serial-303a-1001-A1" (exampleRequest dryRun),
  .load index (.ok exampleBundle) (.ok ⟨0x303a, 0x1001, "A1"⟩) 0,
  .refresh index (.error (.internal "not asked")),
  .probe index (.ok exampleRom)]

/-- A lease, a dry run under it, and an execution up to where its ROM has been probed. -/
def exampleActions : List FirmwareAction :=
  .other leaseSecond :: prepareActions 0 true ++ [.approve 0 0 0] ++ prepareActions 1 false

section

variable {Version : Type} [LinearOrder Version] {config : FirmwareConfig Version}
  {before after : FirmwareDaemon} {clock : Instant} {action : FirmwareAction}

theorem step_clock (h : before.step config clock action = some after) :
    after.daemon.clock = clock := by
  cases action with
  | other operation =>
    rw [step] at h
    rw [← Option.some.inj h]
    rfl
  | accept index deviceId payload =>
    rw [(step_accept h).2]
    rfl
  | load index bundle usbIdentity now =>
    obtain ⟨_, _, _, -, hafter⟩ := step_load h
    rw [hafter]
    rfl
  | refresh index facts =>
    obtain ⟨_, _, _, _, -, hafter⟩ := step_refresh h
    rw [hafter]
    rfl
  | probe index probe =>
    obtain ⟨_, _, _, _, -, hafter⟩ := step_probe h
    rw [hafter]
    rfl
  | approve index nowMillis now =>
    obtain ⟨_, _, _, _, _, -, -, -, hafter⟩ := step_approve h
    rw [hafter]
    rfl
  | take index =>
    obtain ⟨_, _, _, _, -, -, ⟨_, hafter⟩ | ⟨_, _, -, hafter⟩⟩ := step_take h
    · rw [hafter]
      rfl
    · rw [hafter]
      rfl
  | check index now =>
    obtain ⟨_, _, _, _, _, _, -, ⟨_, hafter⟩ | ⟨-, hafter⟩⟩ := step_check h
    · rw [hafter]
      rfl
    · rw [hafter]
      rfl

/-- A run in which the clock stands still, with a condition on the states before its steps. -/
theorem reaches_of_foldlM {start : FirmwareDaemon} {actions : List FirmwareAction}
    (Condition : FirmwareDaemon → FirmwareAction → Prop) (hstart : start.daemon.clock = clock)
    (hwithin : ∀ action ∈ actions, action.Within clock clock)
    (hcondition : ∀ (n : ℕ) (hn : n < actions.length) (before : FirmwareDaemon),
      (actions.take n).foldlM (fun before action => before.step config clock action) start =
        some before → Condition before actions[n])
    (hrun : actions.foldlM (fun before action => before.step config clock action) start =
      some after) :
    Reaches (fun before action after => Condition before action ∧ Next config before action after)
      start actions after ∧ after.daemon.clock = clock := by
  induction actions using List.reverseRecOn generalizing after with
  | nil =>
    obtain rfl : start = after := Option.some.inj hrun
    exact ⟨.refl, hstart⟩
  | append_singleton actions action ih =>
    rw [List.foldlM_append] at hrun
    obtain ⟨middle, hmiddle, hlast⟩ := Option.bind_eq_some_iff.mp hrun
    obtain ⟨final, hstep, hfinal⟩ := Option.bind_eq_some_iff.mp hlast
    obtain rfl : final = after := Option.some.inj hfinal
    have hbefore : ∀ (n : ℕ) (hn : n < actions.length) (before : FirmwareDaemon),
        (actions.take n).foldlM (fun before action => before.step config clock action) start =
          some before → Condition before actions[n] := by
      intro n hn before h
      have hcond := hcondition n (by simp; omega) before
        (by rwa [List.take_append_of_le_length hn.le])
      rwa [List.getElem_append_left hn] at hcond
    obtain ⟨hreaches, hclock⟩ := ih
      (fun action h => hwithin action (List.mem_append_left _ h)) hbefore hmiddle
    have hlastCondition := hcondition actions.length (by simp) middle
      (by rwa [List.take_left])
    rw [List.getElem_concat_length rfl] at hlastCondition
    have hnow := step_clock hstep
    refine ⟨.step hreaches ⟨hlastCondition, ?_, ?_⟩, hnow⟩
    · rw [hclock, hnow]
      exact hwithin action (by simp)
    · rw [hnow]
      exact hstep

end

/-- The lease is given back between the probe and the authorization. -/
def deletedActions : List FirmwareAction :=
  exampleActions ++ [.other (.deleteLease "lease-0-1"), .take 1]

def runExample (actions : List FirmwareAction) : Option FirmwareDaemon :=
  actions.foldlM (fun before action => before.step exampleConfig 0 action) exampleStart

theorem within_exampleActions : ∀ action ∈ exampleActions, action.Within 0 0 := by
  intro action haction
  simp only [exampleActions, prepareActions, leaseSecond, List.cons_append, List.nil_append,
    List.mem_cons, List.not_mem_nil, or_false] at haction
  rcases haction with rfl | rfl | rfl | rfl | rfl | rfl | rfl | rfl | rfl | rfl <;>
    simp [FirmwareAction.Within, Operation.Within]

variable {actions : List FirmwareAction}

variable {before : FirmwareDaemon}

theorem reaches_runExample
    (hwithin : ∀ action ∈ actions, action.Within 0 0) (hrun : runExample actions = some before) :
    Reaches (Next exampleConfig) exampleStart actions before ∧ before.daemon.clock = 0 := by
  have hstart : exampleStart.daemon.clock = 0 := rfl
  obtain ⟨hreaches, hclock⟩ :=
    reaches_of_foldlM (fun _ _ => True) hstart hwithin (fun _ _ _ _ => trivial) hrun
  exact ⟨hreaches.mono fun _ _ _ h => h.2, hclock⟩

/-- The flash is authorized although the lease has been deleted. -/
theorem not_all_currently_authorized :
    ¬ ∀ (Version : Type) [LinearOrder Version] (config : FirmwareConfig Version)
        (start : FirmwareDaemon), Started start →
      ∀ (actions : List FirmwareAction) (before : FirmwareDaemon),
        Reaches (Next config) start actions before →
          ∀ (action : FirmwareAction) (after : FirmwareDaemon), Next config before action after →
            AuthorizesCurrently config before action after := by
  intro h
  obtain ⟨before, hbefore⟩ : ∃ before, runExample deletedActions = some before :=
    Option.isSome_iff_exists.mp (by decide +kernel)
  obtain ⟨after, hstep⟩ : ∃ after, before.step exampleConfig 0 (.check 1 0) = some after := by
    have hsome : ((runExample deletedActions).bind fun before =>
      before.step exampleConfig 0 (.check 1 0)).isSome = true := by decide +kernel
    rw [hbefore] at hsome
    exact Option.isSome_iff_exists.mp hsome
  have hwithin : ∀ action ∈ deletedActions, action.Within 0 0 := by
    intro action haction
    obtain hexample | hlast := List.mem_append.mp haction
    · exact within_exampleActions action hexample
    · simp only [List.mem_cons, List.not_mem_nil, or_false] at hlast
      rcases hlast with rfl | rfl <;> simp [FirmwareAction.Within, Operation.Within]
  obtain ⟨hreaches, hclock⟩ := reaches_runExample hwithin hbefore
  have hafter := step_clock hstep
  have hnext : Next exampleConfig before (.check 1 0) after := by
    rw [Next, hclock, hafter]
    exact ⟨⟨le_rfl, le_rfl⟩, hstep⟩
  obtain ⟨deviceId, payload, reported, prepared, token, approval, hrunning, hcases⟩ :=
    step_check hstep
  have hauthorized : ((runExample deletedActions).bind fun before =>
      (before.step exampleConfig 0 (.check 1 0)).map fun after =>
        after.authorized.length) = some 1 := by decide +kernel
  have hnone : (runExample deletedActions).map (fun before => before.authorized.length) =
      some 0 := by decide +kernel
  have hlease : (runExample deletedActions).map (fun before =>
      ((before.running 1).map (·.payload.leaseId),
        (before.daemon.state.leases.lookup "lease-0-1").isNone)) =
      some (some "lease-0-1", true) := by decide +kernel
  rw [hbefore] at hauthorized hnone hlease
  simp only [Option.bind_some, Option.map_some, Option.some.injEq, Prod.mk.injEq, hstep,
    hrunning] at hauthorized hnone hlease
  obtain ⟨refusal, hrefused⟩ | ⟨-, hok⟩ := hcases
  · rw [hrefused] at hauthorized
    have hsame : (0 : ℕ) = 1 := hnone.symm.trans hauthorized
    cases hsame
  · have hstage : (after.running 1).map Running.stage = some (.authorized token) := by
      rw [hok]
      change (Function.update before.running 1 _ 1).map Running.stage = _
      rw [Function.update_self]
      rfl
    obtain ⟨lease, hfound, -⟩ := (h ℕ exampleConfig exampleStart exampleStart_started _ before
      hreaches (.check 1 0) after hnext 1 0 _ prepared token approval rfl hrunning rfl
      hstage).lease
    rw [show payload.leaseId = "lease-0-1" from hlease.1] at hfound
    rw [hfound] at hlease
    cases hlease.2

/-- The number of the operation that moves. -/
def index? : FirmwareAction → Option ℕ
  | .other _ => none
  | .accept index _ _ | .load index _ _ _ | .refresh index _ | .probe index _
  | .approve index _ _ | .take index | .check index _ => some index

theorem running_of_step {Version : Type} [LinearOrder Version] {config : FirmwareConfig Version}
    {before after : FirmwareDaemon} {clock : Instant} {action : FirmwareAction} {index : ℕ}
    (h : before.step config clock action = some after) (hne : index? action ≠ some index) :
    after.running index = before.running index := by
  have hput : ∀ moved, some moved ≠ some index → ∀ operation : Option Running,
      Function.update before.running moved operation index = before.running index :=
    fun moved hmoved operation => Function.update_of_ne (fun h => hmoved (congrArg some h.symm)) ..
  cases action with
  | other operation =>
    rw [step] at h
    rw [← Option.some.inj h]
  | accept moved deviceId payload =>
    rw [(step_accept h).2]
    exact hput moved hne _
  | load moved bundle usbIdentity now =>
    obtain ⟨_, _, _, -, hafter⟩ := step_load h
    rw [hafter]
    exact hput moved hne _
  | refresh moved facts =>
    obtain ⟨_, _, _, _, -, hafter⟩ := step_refresh h
    rw [hafter]
    exact hput moved hne _
  | probe moved probe =>
    obtain ⟨_, _, _, _, -, hafter⟩ := step_probe h
    rw [hafter]
    exact hput moved hne _
  | approve moved nowMillis now =>
    obtain ⟨_, _, _, _, _, -, -, -, hafter⟩ := step_approve h
    rw [hafter]
    exact hput moved hne _
  | take moved =>
    obtain ⟨_, _, _, _, -, -, ⟨_, hafter⟩ | ⟨_, _, -, hafter⟩⟩ := step_take h
    · rw [hafter]
      exact hput moved hne _
    · rw [hafter]
      exact hput moved hne _
  | check moved now =>
    obtain ⟨_, _, _, _, _, _, -, ⟨_, hafter⟩ | ⟨-, hafter⟩⟩ := step_check h
    · rw [hafter]
      exact hput moved hne _
    · rw [hafter]
      exact hput moved hne _

theorem running_runExample
    (hactions : ∀ action ∈ actions, ∀ index, 2 ≤ index → index? action ≠ some index)
    (hrun : runExample actions = some before) {index : ℕ} (hindex : 2 ≤ index) :
    before.running index = none := by
  induction actions using List.reverseRecOn generalizing before with
  | nil =>
    rw [← Option.some.inj hrun]
    rfl
  | append_singleton actions action ih =>
    rw [runExample, List.foldlM_append] at hrun
    obtain ⟨middle, hmiddle, hlast⟩ := Option.bind_eq_some_iff.mp hrun
    obtain ⟨final, hstep, hfinal⟩ := Option.bind_eq_some_iff.mp hlast
    obtain rfl : final = before := Option.some.inj hfinal
    rw [running_of_step hstep (hactions action (by simp) index hindex)]
    exact ih (fun action h => hactions action (List.mem_append_left _ h)) hmiddle

def executing (operation : Option Running) : Bool :=
  operation.any fun operation => !operation.payload.dryRun && decide operation.stage.UnderWay

theorem not_executes_runExample
    (hactions : ∀ action ∈ actions, ∀ index, 2 ≤ index → index? action ≠ some index)
    (hrun : runExample actions = some before) (hidle : (runExample actions).map (fun before =>
      (executing (before.running 0), executing (before.running 1))) = some (false, false))
    (execution : Running) : ¬ before.Executes execution := by
  rintro ⟨⟨index, hrunning⟩, hdry, hunderWay⟩
  have hexecuting : executing (some execution) = true := by
    simp [executing, hdry, hunderWay]
  rw [hrun] at hidle
  obtain ⟨hfirst, hsecond⟩ := Prod.mk.inj (Option.some.inj hidle)
  match index, hrunning with
  | 0, hrunning =>
    rw [hrunning, hexecuting] at hfirst
    cases hfirst
  | 1, hrunning =>
    rw [hrunning, hexecuting] at hsecond
    cases hsecond
  | index + 2, hrunning =>
    cases (running_runExample hactions hrun (Nat.le_add_left 2 index)).symm.trans hrunning

/-- The execution has taken its approval. -/
def takenActions : List FirmwareAction := exampleActions ++ [.take 1]

theorem index_takenActions : ∀ action ∈ takenActions, ∀ index, 2 ≤ index →
    index? action ≠ some index := by
  intro action haction index hindex
  simp only [takenActions, exampleActions, prepareActions, leaseSecond, List.cons_append,
    List.nil_append, List.mem_cons, List.not_mem_nil, or_false] at haction
  rcases haction with rfl | rfl | rfl | rfl | rfl | rfl | rfl | rfl | rfl | rfl | rfl <;>
    simp [index?] <;> omega

theorem meets_takenActions {n : ℕ} (hn : n < takenActions.length)
    (hrun : runExample (takenActions.take n) = some before) :
    Meets none before takenActions[n] := by
  have hactions : ∀ action ∈ takenActions.take n, ∀ index, 2 ≤ index →
      index? action ≠ some index :=
    fun action h => index_takenActions action (List.mem_of_mem_take h)
  have hquiet := not_executes_runExample hactions hrun
  have hlength : n < 11 := hn
  interval_cases n
  · obtain rfl : exampleStart = before := Option.some.inj hrun
    have hroom : exampleStart.daemon.state.sequence < sequenceMax := by decide
    exact ⟨hroom, fun execution h => (hquiet (by decide +kernel) execution h).elim⟩
  · trivial
  · exact fun execution h => (hquiet (by decide +kernel) execution h).elim
  · trivial
  · trivial
  · have hroom : (runExample (takenActions.take 5)).map (fun before =>
        decide (before.daemon.state.sequence < sequenceMax)) = some true := by decide +kernel
    rw [hrun] at hroom
    have hbelow : before.daemon.state.sequence < sequenceMax :=
      of_decide_eq_true (Option.some.inj hroom)
    exact hbelow
  · trivial
  · exact fun execution h => (hquiet (by decide +kernel) execution h).elim
  · trivial
  · trivial
  · trivial

/-- The lease stays, and the flash is authorized. -/
theorem authorized_currently_recovery : ∃ before after, runExample takenActions = some before ∧
      before.step exampleConfig 0 (.check 1 0) = some after ∧ after.authorized.length = 1 ∧
      AuthorizesCurrently exampleConfig before (.check 1 0) after := by
  obtain ⟨before, hbefore⟩ :
      ∃ before, runExample takenActions = some before :=
    Option.isSome_iff_exists.mp (by decide +kernel)
  have hstep : ((runExample takenActions).bind fun before =>
      (before.step exampleConfig 0 (.check 1 0)).map (·.authorized.length)) = some 1 := by
    decide +kernel
  rw [hbefore] at hstep
  obtain ⟨after, hafter, hlength⟩ := Option.map_eq_some_iff.mp hstep
  have hwithin : ∀ action ∈ takenActions, action.Within 0 0 := by
    intro action haction
    obtain hexample | hlast := List.mem_append.mp haction
    · exact within_exampleActions action hexample
    · rw [List.mem_singleton.mp hlast]
      exact le_rfl
  have hstart : exampleStart.daemon.clock = 0 := rfl
  obtain ⟨hreaches, hclock⟩ :=
    reaches_of_foldlM (Meets none) hstart hwithin (fun n hn before => meets_takenActions hn) hbefore
  have hnow := step_clock hafter
  have hnext : Next exampleConfig before (.check 1 0) after := by
    rw [Next, hclock, hnow]
    exact ⟨⟨le_rfl, le_rfl⟩, hafter⟩
  have hfresh : Meets exampleConfig.serialPort before (.check 1 0) := by
    intro execution _
    exact Nat.lt_of_lt_of_le (by decide : 0 < defaultLeaseTtlMs * nanosPerMilli)
      (Nat.le_add_left _ _)
  exact ⟨before, after, hbefore, hafter, hlength,
    authorized_currently exampleStart_started hreaches hfresh hnext⟩

end FirmwareDaemon

end FluxPurr.Devd
