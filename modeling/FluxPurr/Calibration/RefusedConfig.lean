import FluxPurr.Calibration.RuntimeConfig

/-!
# What a refused configuration has changed

A refusal by the checks, or by the calibration control before it writes, has changed nothing.
The two later refusals come after the calibration control has written its mode, its target and
its heater (`setHold`), and the refusal of the operator's request also after its PPS request
(`setPps`).  They have changed nothing if what was written was there already, `SetsNothing`
and `PpsStands`, and `RefusesCleanly` says this of a whole request.

The predicates are about the command and the state before it.  `AsksForPps`, `wantedMv` and
`wantedMa` are the request of the calibration, `leavesMv` and `leavesMa` what the operator's
request finds after it.
-/

namespace FluxPurr.Calibration

open FluxPurr.Memory FluxPurr.Pd
open CalibrationControlCommand
open ManualPpsState

namespace CalibrationControlCommand

variable (command : CalibrationControlCommand) (state : CalibrationRequests)

/-! ## The request of the calibration -/

/-- The calibration is turned off and owns the PPS request. -/
def TurnsOffOwner : Prop := command.mode = some .off ∧ state.manualPps.owner = .calibration

instance : Decidable (command.TurnsOffOwner state) := inferInstanceAs (Decidable (_ ∧ _))

def AsksForPps : Prop :=
  command.ppsEnabled = some true ∨ command.ppsEnabled = none ∧ command.ppsMv.isSome = true

instance : Decidable command.AsksForPps := inferInstanceAs (Decidable (_ ∨ _))

def wantedMv : Option UInt16 := command.ppsMv.or state.calibration.ppsMv

def wantedMa : Option UInt16 :=
  state.calibration.ppsMa.or
    (if command.TurnsOffOwner state then none else state.manualPps.targetMa)

def PpsRefused : Prop :=
  command.AsksForPps ∧ ∀ targetMv, command.wantedMv state = some targetMv →
    ¬state.manualPps.Offers targetMv (command.wantedMa state)

/-- The mode, the target and the heater are what they were. -/
@[mk_iff] structure SetsNothing : Prop where
  mode : state.calibration.mode = command.mode.getD state.calibration.mode
  off : command.mode = some .off →
    state.manualPps.owner ≠ .calibration ∧ state.calibration.ppsEnabled = false ∧
      state.calibration.stable = false ∧ state.calibration.stabilityErrorMv = none ∧
      state.calibration.job = {} ∧ state.calibration.jobData = none ∧
      state.calibration.scanPhase = none ∧ state.calibration.scanFailure = none ∧
      state.calibration.scanContractConfirmed = false
  target : state.calibration.targetAdcMv =
    command.targetAdcMv.or
      (if command.mode = some .off then none else state.calibration.targetAdcMv)
  heater : state.calibration.heaterEnabled =
    command.heaterEnabled.getD
      (if command.mode = some .off then false else state.calibration.heaterEnabled)

/-- The PPS request is what it was. -/
@[mk_iff] structure PpsStands : Prop where
  disabled : command.ppsEnabled = some false →
    state.manualPps.owner ≠ .calibration ∧ state.calibration.ppsEnabled = false ∧
      state.calibration.ppsMv = none ∧ state.calibration.ppsMa = none
  enabled : command.AsksForPps →
    state.calibration.ppsEnabled = true ∧ state.calibration.ppsMv = state.manualPps.targetMv ∧
      state.calibration.ppsMa = state.manualPps.targetMa ∧ state.calibration.error = none ∧
      state.manualPps.enabled = true ∧ state.manualPps.owner = .calibration ∧
      state.manualPps.targetMv = command.wantedMv state ∧
      state.manualPps.targetMa =
        (command.wantedMa state).or
          ((command.wantedMv state).bind state.manualPps.maximumPpsCurrentForTarget) ∧
      state.manualPps.error = none ∧ state.manualPps.automaticRestorePending = false ∧
      state.manualPps.automaticRestoreConfirmed = false

/-! ## What the operator's request finds -/

def GivesUp : Prop :=
  state.manualPps.owner = .calibration ∧
    (command.mode = some .off ∨ command.ppsEnabled = some false)

instance : Decidable (command.GivesUp state) := inferInstanceAs (Decidable (_ ∧ _))

def leavesMv : Option UInt16 :=
  if command.AsksForPps then command.wantedMv state
  else if command.GivesUp state then none
  else state.manualPps.targetMv

def leavesMa : Option UInt16 :=
  if command.AsksForPps then
    (command.wantedMa state).or
      ((command.wantedMv state).bind state.manualPps.maximumPpsCurrentForTarget)
  else if command.GivesUp state then none
  else state.manualPps.targetMa

variable {command state}

/-! ## The mode, the target and the heater -/

theorem setMode_of_not_off (h : command.mode ≠ some .off) : command.setMode state = { state with
        calibration :=
          { state.calibration with mode := command.mode.getD state.calibration.mode } } := by
  unfold setMode
  split
  case h_1 hmode => rw [hmode]; rfl
  case h_2 hmode => exact absurd hmode h
  case h_3 mode _ hmode => rw [hmode]; rfl

theorem disarm_of_mutation (h : command.refusal state.calibration = none)
    (hmutation : command.requestsMutation = true) :
    state.calibration.immediateHeaterDisarmPending = false := by
  unfold refusal at h
  rw [hmutation] at h
  cases hpending : state.calibration.immediateHeaterDisarmPending with
  | false => rfl
  | true =>
    rw [hpending] at h
    split at h
    case isTrue => cases h
    case isFalse => simp at h

theorem setHold_setMode_eq_iff (h : command.refusal state.calibration = none) :
    command.setHold (command.setMode state) = state ↔ command.SetsNothing state := by
  rw [setsNothing_iff]
  by_cases hoff : command.mode = some .off
  · have harmed : state.calibration.immediateHeaterDisarmPending = false :=
      disarm_of_mutation h (by simp [requestsMutation, hoff])
    simp only [setHold, setMode, hoff, CalibrationRequests.ext_iff, CalibrationRuntimeState.ext_iff,
      release_eq_iff, harmed]
    simp
    grind
  · rw [setMode_of_not_off hoff]
    simp only [setHold, CalibrationRequests.ext_iff, CalibrationRuntimeState.ext_iff]
    simp [hoff]
    grind

theorem manualPps_setMode : (command.setMode state).manualPps =
      if command.TurnsOffOwner state then state.manualPps.clear else state.manualPps := by
  by_cases hoff : command.mode = some .off
  · simp [setMode, hoff, TurnsOffOwner, release]
  · rw [setMode_of_not_off hoff, if_neg fun h => hoff h.1]

theorem ppsMv_setMode : (command.setMode state).calibration.ppsMv = state.calibration.ppsMv := by
  unfold setMode
  split <;> rfl

theorem ppsMa_setMode : (command.setMode state).calibration.ppsMa = state.calibration.ppsMa := by
  unfold setMode
  split <;> rfl

theorem disarm_setMode : (command.setMode state).calibration.immediateHeaterDisarmPending =
      (decide (command.TurnsOffOwner state) ||
        state.calibration.immediateHeaterDisarmPending) := by
  by_cases hoff : command.mode = some .off
  · simp [setMode, hoff, TurnsOffOwner]
  · rw [setMode_of_not_off hoff]
    simp [TurnsOffOwner, hoff]

/-! ## The request of the calibration -/

/-- What the calibration control has written when its PPS request is looked at. -/
def held (command : CalibrationControlCommand) (state : CalibrationRequests) :
    CalibrationRequests := command.setHold (command.setMode state)

theorem manualPps_held : (command.held state).manualPps =
      if command.TurnsOffOwner state then state.manualPps.clear else state.manualPps :=
  manualPps_setMode

theorem wantedMv_held : command.ppsMv.or (command.held state).calibration.ppsMv =
    command.wantedMv state := by
  change command.ppsMv.or (command.setMode state).calibration.ppsMv = _
  rw [ppsMv_setMode, wantedMv]

theorem wantedMa_held : (command.held state).calibration.ppsMa.or
    (command.held state).manualPps.targetMa = command.wantedMa state := by
  change (command.setMode state).calibration.ppsMa.or _ = _
  rw [ppsMa_setMode, manualPps_held, wantedMa]
  split <;> rfl

theorem offers_held {targetMv : UInt16} {targetMa : Option UInt16} :
    (command.held state).manualPps.Offers targetMv targetMa ↔
      state.manualPps.Offers targetMv targetMa := by
  rw [manualPps_held]
  split <;> exact Iff.rfl

theorem setPps_of_asks (hasks : command.AsksForPps) (requests : CalibrationRequests) :
    command.setPps requests =
      match command.ppsMv.or requests.calibration.ppsMv with
      | none => .error .invalidVoltage
      | some targetMv =>
        (requests.manualPps.enable .calibration targetMv
          (requests.calibration.ppsMa.or requests.manualPps.targetMa)).map fun manualPps =>
            { calibration :=
                { requests.calibration with
                  ppsEnabled := true
                  ppsMv := manualPps.targetMv
                  ppsMa := manualPps.targetMa
                  error := none }
              manualPps } := by
  have henabled : ¬command.ppsEnabled = some false := by rcases hasks with h | h <;> simp [h]
  have hwants : command.ppsEnabled = some true ∨ command.ppsMv.isSome = true := by
    rcases hasks with h | h <;> simp [h]
  rw [setPps, if_neg henabled, if_pos hwants]
  cases command.ppsMv.or requests.calibration.ppsMv with
  | none => rfl
  | some targetMv =>
    dsimp only
    cases requests.manualPps.enable .calibration targetMv
      (requests.calibration.ppsMa.or requests.manualPps.targetMa) <;> rfl

theorem setPps_refused (h : command.PpsRefused state) :
    ∃ error, command.setPps (command.held state) = .error error := by
  obtain ⟨hasks, hrefused⟩ := h
  rw [setPps_of_asks hasks, wantedMv_held, wantedMa_held]
  cases hwanted : command.wantedMv state with
  | none => exact ⟨_, rfl⟩
  | some targetMv =>
    obtain ⟨error, herror⟩ := (command.held state).manualPps.enable_refused .calibration
      (fun hoffers => hrefused targetMv hwanted (offers_held.mp hoffers))
    exact ⟨error, by simp only [herror, Except.map]⟩

/-- The state after a request of the calibration that is not refused. -/
structure Settled (command : CalibrationControlCommand) (state settled : CalibrationRequests) :
    Prop where
  targetMv : settled.manualPps.targetMv = command.leavesMv state
  targetMa : settled.manualPps.targetMa = command.leavesMa state
  admits : ∀ targetMv targetMa,
    settled.manualPps.Admits targetMv targetMa ↔ state.manualPps.Admits targetMv targetMa
  disarm : settled.calibration.immediateHeaterDisarmPending =
    (decide (command.TurnsOffOwner state) || state.calibration.immediateHeaterDisarmPending)
  running : thermalPlantCalibrationJobRunning settled.calibration =
    thermalPlantCalibrationJobRunning (command.setMode state).calibration
  stands : settled = state ↔ command.SetsNothing state ∧ command.PpsStands state

theorem settled_of_asks {targetMv currentMa : UInt16}
    (h : command.refusal state.calibration = none) (hasks : command.AsksForPps)
    (hmv : command.wantedMv state = some targetMv)
    (hma : (command.wantedMa state).or (state.manualPps.maximumPpsCurrentForTarget targetMv) =
      some currentMa) :
    command.Settled state
      { calibration :=
          { (command.held state).calibration with
            ppsEnabled := true
            ppsMv := some targetMv
            ppsMa := some currentMa
            error := none }
        manualPps :=
          (command.held state).manualPps.withTarget .calibration targetMv currentMa } where
  targetMv := by rw [leavesMv, if_pos hasks, hmv]; rfl
  targetMa := by rw [leavesMa, if_pos hasks, hmv, Option.bind_some, hma]; rfl
  admits := by
    rw [manualPps_held]
    split <;> exact fun _ _ => Iff.rfl
  disarm := disarm_setMode
  running := rfl
  stands := by
    by_cases hoff : command.mode = some .off
    · -- The request is the calibration's afterwards, and was not before.
      refine ⟨fun heq => ?_, fun ⟨hnothing, hstands⟩ => ?_⟩
      · have howner : state.manualPps.owner = .calibration := by rw [← heq]; rfl
        have hdisarmed : state.calibration.immediateHeaterDisarmPending = true := by
          rw [← heq]
          change (command.setMode state).calibration.immediateHeaterDisarmPending = true
          rw [disarm_setMode, decide_eq_true ⟨hoff, howner⟩, Bool.true_or]
        have harmed := disarm_of_mutation h (by simp [requestsMutation, hoff])
        rw [hdisarmed] at harmed
        cases harmed
      · have howner := (hstands.enabled hasks).2.2.2.2.2.1
        exact absurd howner (hnothing.off hoff).1
    · rw [setsNothing_iff, ppsStands_iff, hmv, Option.bind_some, hma]
      simp only [held, setHold, setMode_of_not_off hoff, ManualPpsState.withTarget,
        CalibrationRequests.ext_iff, CalibrationRuntimeState.ext_iff, ManualPpsState.ext_iff]
      simp [hoff, hasks]
      grind [AsksForPps]

theorem release_held : (command.held state).manualPps.release = state.manualPps.release := by
  rw [manualPps_held]
  split
  case isTrue hoff =>
    rw [release_of_debug _ (by simp), release, if_pos hoff.2]
  case isFalse => rfl

theorem givesUp_of_disabled (hdisabled : command.ppsEnabled = some false) :
    command.GivesUp state ↔ state.manualPps.owner = .calibration := by
  simp [GivesUp, hdisabled]

theorem settled_of_disabled (h : command.refusal state.calibration = none)
    (hdisabled : command.ppsEnabled = some false) :
    command.Settled state
      { calibration := (command.held state).calibration.withoutPps
        manualPps := (command.held state).manualPps.release } := by
  have hasks : ¬command.AsksForPps := by simp [AsksForPps, hdisabled]
  rw [release_held]
  refine ⟨?_, ?_, ?_, disarm_setMode, rfl, ?_⟩
  · rw [leavesMv, if_neg hasks, release]
    simp only [givesUp_of_disabled hdisabled]
    split <;> rfl
  · rw [leavesMa, if_neg hasks, release]
    simp only [givesUp_of_disabled hdisabled]
    split <;> rfl
  · rw [release]
    split <;> exact fun _ _ => Iff.rfl
  · rw [setsNothing_iff, ppsStands_iff]
    by_cases hoff : command.mode = some .off
    · have harmed := disarm_of_mutation h (by simp [requestsMutation, hoff])
      simp only [held, setHold, setMode, hoff, CalibrationRuntimeState.withoutPps,
        CalibrationRequests.ext_iff, CalibrationRuntimeState.ext_iff,
        release_eq_iff]
      simp [hasks, harmed]
      grind
    · simp only [held, setHold, setMode_of_not_off hoff, CalibrationRuntimeState.withoutPps,
        CalibrationRequests.ext_iff, CalibrationRuntimeState.ext_iff,
        release_eq_iff]
      simp [hoff, hasks]
      grind

theorem settled_of_silent (h : command.refusal state.calibration = none)
    (hasks : ¬command.AsksForPps) (hdisabled : command.ppsEnabled ≠ some false) :
    command.Settled state (command.held state) := by
  have hgives : command.GivesUp state ↔ command.TurnsOffOwner state := by
    simp [GivesUp, TurnsOffOwner, hdisabled, and_comm]
  refine ⟨?_, ?_, ?_, disarm_setMode, rfl, ?_⟩
  · rw [leavesMv, if_neg hasks, manualPps_held]
    simp only [hgives]
    split <;> rfl
  · rw [leavesMa, if_neg hasks, manualPps_held]
    simp only [hgives]
    split <;> rfl
  · rw [manualPps_held]
    split <;> exact fun _ _ => Iff.rfl
  · have hstands : command.PpsStands state :=
      ⟨fun h => absurd h hdisabled, fun h => absurd h hasks⟩
    rw [held, setHold_setMode_eq_iff h, and_iff_left hstands]

theorem setPps_settled (h : command.refusal state.calibration = none)
    (haccepted : ¬command.PpsRefused state) :
    ∃ settled, command.setPps (command.held state) = .ok settled ∧
      command.Settled state settled := by
  by_cases hasks : command.AsksForPps
  · obtain ⟨targetMv, hmv, currentMa, hma, hvalid⟩ : ∃ targetMv,
        command.wantedMv state = some targetMv ∧
          state.manualPps.Offers targetMv (command.wantedMa state) := by
      by_contra hnone
      exact haccepted ⟨hasks, fun targetMv hmv hoffers => hnone ⟨targetMv, hmv, hoffers⟩⟩
    have henable : (command.held state).manualPps.enable .calibration targetMv
        (command.wantedMa state) =
          .ok ((command.held state).manualPps.withTarget .calibration targetMv currentMa) := by
      rw [manualPps_held]
      split <;> exact enable_eq_ok _ .calibration hma hvalid
    refine ⟨_, ?_, settled_of_asks h hasks hmv hma⟩
    rw [setPps_of_asks hasks, wantedMv_held, wantedMa_held, hmv]
    simp only [henable, Except.map, ManualPpsState.withTarget]
  · by_cases hdisabled : command.ppsEnabled = some false
    · refine ⟨_, ?_, settled_of_disabled h hdisabled⟩
      rw [setPps, if_pos hdisabled]
    · refine ⟨_, ?_, settled_of_silent h hasks hdisabled⟩
      have hsilent : ¬(command.ppsEnabled = some true ∨ command.ppsMv.isSome = true) := by
        intro hwants
        cases henabled : command.ppsEnabled with
        | none => simp_all [AsksForPps]
        | some enabled => cases enabled <;> simp_all [AsksForPps]
      rw [setPps, if_neg hdisabled, if_neg hsilent]

theorem running_setMode (h : command.refusal state.calibration = none)
    (hidle : thermalPlantCalibrationJobRunning state.calibration = false) :
    thermalPlantCalibrationJobRunning (command.setMode state).calibration = false := by
  have hmode : command.mode ≠ some .thermalPlant := by
    intro hplant
    unfold refusal at h
    rw [hplant] at h
    split at h
    case isTrue => cases h
    case isFalse =>
      split at h
      case isTrue => cases h
      case isFalse => simp at h
  by_cases hoff : command.mode = some .off
  · simp [setMode, hoff, thermalPlantCalibrationJobRunning]
  · rw [setMode_of_not_off hoff]
    cases hcommand : command.mode with
    | none => exact hidle
    | some mode =>
      have hother : mode ≠ .thermalPlant := fun heq => hmode (by rw [hcommand, heq])
      simp [thermalPlantCalibrationJobRunning, hother]

end CalibrationControlCommand

/-! ## The request of the operator -/

theorem debugRequest_refused_iff {manualPps : ManualPpsState} {targetMv : UInt16}
    {targetMa : Option UInt16} :
    (∃ error, manualPps.debugRequest targetMv targetMa = .error error) ↔
      ¬manualPps.Admits targetMv targetMa := by
  unfold debugRequest ManualPpsState.Admits
  split
  case isTrue =>
    cases targetMa with
    | none => simp
    | some targetMa =>
      by_cases hok : (PdContractRequest.pps targetMv.toNat targetMa.toNat).isOk = true
      · obtain ⟨staged, hstaged⟩ := manualPps.stagePendingRequest_admitted .debug hok
        simp [hstaged, hok]
      · obtain ⟨error, herror⟩ := manualPps.stagePendingRequest_refused .debug hok
        simp [herror, hok]
  case isFalse =>
    by_cases hoffers : manualPps.Offers targetMv targetMa
    · obtain ⟨currentMa, hcurrent, hvalid⟩ := id hoffers
      simp [enable_eq_ok _ .debug hcurrent hvalid, hoffers]
    · obtain ⟨error, herror⟩ := manualPps.enable_refused .debug hoffers
      simp [herror, hoffers]

theorem applyManualPpsConfig_refused_iff {config : RuntimeConfigCommand}
    {calibration : CalibrationRuntimeState} {manualPps : ManualPpsState}
    (hidle : thermalPlantCalibrationJobRunning calibration = false) :
    (∃ error, applyManualPpsConfig config calibration manualPps = .error error) ↔
      config.manualPpsRequested = true ∧ config.manualPpsEnabled ≠ some false ∧
        (calibration.immediateHeaterDisarmPending = true ∨
          ∀ targetMv, config.manualPpsMv.or manualPps.targetMv = some targetMv →
            ¬manualPps.Admits targetMv (config.manualPpsMa.or manualPps.targetMa)) := by
  have hwants : config.manualPpsRequested = true → config.manualPpsEnabled ≠ some false →
      config.manualPpsEnabled = some true ∨ config.manualPpsMv.isSome = true ∨
        config.manualPpsMa.isSome = true := by
    intro hrequested henabled
    unfold RuntimeConfigCommand.manualPpsRequested at hrequested
    cases h : config.manualPpsEnabled with
    | none => simpa [h] using hrequested
    | some enabled => cases enabled <;> simp_all
  unfold applyManualPpsConfig
  rw [if_neg (show ¬(thermalPlantCalibrationJobRunning calibration = true ∧
    config.manualPpsRequested = true) by simp [hidle])]
  by_cases hasked : config.manualPpsRequested = true ∧ config.manualPpsEnabled ≠ some false
  · obtain ⟨hrequested, henabled⟩ := hasked
    simp only [hrequested, henabled, true_and, and_true, ne_eq, not_false_eq_true, if_false]
    by_cases hpending : calibration.immediateHeaterDisarmPending = true
    · simp [hpending]
    · rw [if_neg hpending, if_pos (hwants hrequested henabled)]
      cases config.manualPpsMv.or manualPps.targetMv with
      | none => simp
      | some targetMv => simpa [hpending] using debugRequest_refused_iff
  · have hnone : ¬(config.manualPpsRequested = true ∧ config.manualPpsEnabled ≠ some false ∧
        (calibration.immediateHeaterDisarmPending = true ∨
          ∀ targetMv, config.manualPpsMv.or manualPps.targetMv = some targetMv →
            ¬manualPps.Admits targetMv (config.manualPpsMa.or manualPps.targetMa))) :=
      fun h => hasked ⟨h.1, h.2.1⟩
    rw [if_neg (fun h => hasked h.2), iff_false_right hnone]
    rintro ⟨error, herror⟩
    split at herror
    case isTrue => cases herror
    case isFalse henabled =>
      split at herror
      case isTrue hwants =>
        refine hasked ⟨?_, henabled⟩
        rcases hwants with h | h | h <;> simp [RuntimeConfigCommand.manualPpsRequested, h]
      case isFalse => cases herror

/-- The operator's request is refused after the request of the calibration. -/
def RuntimeConfigCommand.ManualRefused (config : RuntimeConfigCommand)
    (command : CalibrationControlCommand) (state : CalibrationRequests) : Prop :=
  config.manualPpsRequested = true ∧ config.manualPpsEnabled ≠ some false ∧
    (state.calibration.immediateHeaterDisarmPending = true ∨ command.TurnsOffOwner state ∨
      ∀ targetMv, config.manualPpsMv.or (command.leavesMv state) = some targetMv →
        ¬state.manualPps.Admits targetMv (config.manualPpsMa.or (command.leavesMa state)))

theorem manualRefused_iff (config : RuntimeConfigCommand) {command : CalibrationControlCommand}
    {state settled : CalibrationRequests} (h : command.Settled state settled)
    (hidle : thermalPlantCalibrationJobRunning (command.setMode state).calibration = false) :
    (∃ error, applyManualPpsConfig config settled.calibration settled.manualPps = .error error) ↔
      config.ManualRefused command state := by
  rw [applyManualPpsConfig_refused_iff (h.running.trans hidle), h.targetMv, h.targetMa, h.disarm]
  simp only [h.admits, RuntimeConfigCommand.ManualRefused, Bool.or_eq_true, decide_eq_true_eq,
    or_assoc, or_left_comm]

/-- The request is not refused after something was written, or what was written was there
already. -/
def RefusesCleanly (config : RuntimeConfigCommand) (state : CalibrationRequests) : Prop :=
  ∀ command, config.calibration = some command →
    runtimeConfigValidation config state.calibration = none →
      command.refusal state.calibration = none →
        (command.PpsRefused state → command.SetsNothing state) ∧
          (¬command.PpsRefused state → config.ManualRefused command state →
            command.SetsNothing state ∧ command.PpsStands state)

/-! ## A whole request -/

section

variable {Preview : Type} {model : ThermalModel Preview} {config : RuntimeConfigCommand}
  {state : RuntimeConfigState Preview}

variable {requests : CalibrationRequests}

theorem requests_eq_iff :
    ({ state with requests } : RuntimeConfigState Preview) = state ↔ requests = state.requests := by
  constructor
  · intro heq
    rw [← heq]
  · rintro rfl
    rfl

/-- If the calibration control is not refused, a refusal comes from the operator's request. -/
theorem clean_of_control (hvalid : runtimeConfigValidation config state.requests.calibration = none)
    (hcontrol : config.applyControl state.requests = (none, requests)) :
    ((usbRuntimeConfigResponse model config state).1 ≠ none →
      (usbRuntimeConfigResponse model config state).2 = state) ↔
      ((∃ error, applyManualPpsConfig config requests.calibration requests.manualPps =
        .error error) → requests = state.requests) := by
  unfold usbRuntimeConfigResponse
  rw [hvalid, hcontrol]
  dsimp only
  cases applyManualPpsConfig config requests.calibration requests.manualPps with
  | ok manualPps => simp
  | error error => simp [requests_eq_iff]

theorem clean_of_refused_control {error : ManualPpsError}
    (hvalid : runtimeConfigValidation config state.requests.calibration = none)
    (hcontrol : config.applyControl state.requests = (some error, requests)) :
    ((usbRuntimeConfigResponse model config state).1 ≠ none →
      (usbRuntimeConfigResponse model config state).2 = state) ↔
      requests = state.requests := by
  unfold usbRuntimeConfigResponse
  rw [hvalid, hcontrol]
  simp [requests_eq_iff]

theorem idle_of_valid {command : CalibrationControlCommand}
    (hvalid : runtimeConfigValidation config state.requests.calibration = none)
    (hcommand : config.calibration = some command) :
    thermalPlantCalibrationJobRunning state.requests.calibration = false := by
  unfold runtimeConfigValidation at hvalid
  cases hrunning : thermalPlantCalibrationJobRunning state.requests.calibration with
  | false => rfl
  | true =>
    rw [hrunning, hcommand] at hvalid
    split at hvalid
    case isTrue => cases hvalid
    case isFalse => simp at hvalid

theorem applyControl_eq {command : CalibrationControlCommand}
    (hcommand : config.calibration = some command)
    (hrefusal : command.refusal state.requests.calibration = none) :
    config.applyControl state.requests =
      match command.setPps (command.held state.requests) with
      | .error error => (some error, command.held state.requests)
      | .ok settled => (none, settled) := by
  unfold RuntimeConfigCommand.applyControl
  rw [hcommand]
  dsimp only [applyCalibrationControlConfig]
  rw [hrefusal]
  rfl

/-- A refusal has changed nothing if and only if it came before anything was written, or what
was written was there already. -/
theorem refusal_changes_nothing_iff (model : ThermalModel Preview) (config : RuntimeConfigCommand)
    (state : RuntimeConfigState Preview) :
    ((usbRuntimeConfigResponse model config state).1 ≠ none →
      (usbRuntimeConfigResponse model config state).2 = state) ↔
      RefusesCleanly config state.requests := by
  cases hvalid : runtimeConfigValidation config state.requests.calibration with
  | some error =>
      have hclean : RefusesCleanly config state.requests := by
        intro command _ hnone
        rw [hvalid] at hnone
        cases hnone
      simp [usbRuntimeConfigResponse, hvalid, hclean]
  | none =>
      cases hcalibration : config.calibration with
      | none =>
          have hcontrol : config.applyControl state.requests = (none, state.requests) := by
            rw [RuntimeConfigCommand.applyControl, hcalibration]
          rw [clean_of_control hvalid hcontrol]
          have hclean : RefusesCleanly config state.requests := by
            intro command hsome
            rw [hcalibration] at hsome
            cases hsome
          simp [hclean]
      | some command =>
          have hidle := idle_of_valid hvalid hcalibration
          have hclean : RefusesCleanly config state.requests ↔
              (command.refusal state.requests.calibration = none →
                (command.PpsRefused state.requests → command.SetsNothing state.requests) ∧
                  (¬command.PpsRefused state.requests →
                    config.ManualRefused command state.requests →
                      command.SetsNothing state.requests ∧ command.PpsStands state.requests)) := by
            simp [RefusesCleanly, hcalibration, hvalid]
          rw [hclean]
          cases hrefusal : command.refusal state.requests.calibration with
          | some error =>
              have hcontrol :
                  config.applyControl state.requests = (some error, state.requests) := by
                simp [RuntimeConfigCommand.applyControl, hcalibration,
                  applyCalibrationControlConfig, hrefusal]
              simp [clean_of_refused_control hvalid hcontrol]
          | none =>
              have hcontrol := applyControl_eq hcalibration hrefusal
              by_cases hpps : command.PpsRefused state.requests
              · obtain ⟨error, herror⟩ := setPps_refused hpps
                rw [herror] at hcontrol
                rw [clean_of_refused_control hvalid hcontrol]
                simp [hpps, ← setHold_setMode_eq_iff hrefusal, held]
              · obtain ⟨settled, hsettled, hspec⟩ :=
                  setPps_settled hrefusal hpps
                rw [hsettled] at hcontrol
                have hmanual := manualRefused_iff config hspec
                  (running_setMode hrefusal hidle)
                rw [clean_of_control hvalid hcontrol, hmanual, hspec.stands]
                simp [hpps]

end

/-! A device that has just started, on a source without PPS. -/

def idleUiState : FrontPanelUiState where
  targetTempC := 100
  selectedPresetSlot := 1
  presetsC := defaultPresetsC
  activeCoolingEnabled := true
  postHeatCoolingMode := .normal
  heatingFanGuardMode := .medium
  heaterEnabled := false
  manualPpsEnabled := false
  fanSettingsDraftPostHeat := .normal
  fanSettingsDraftGuard := .medium
  fanSettingsApplyRequested := false

def idleState : RuntimeConfigState Unit where
  uiState := idleUiState
  memoryConfig := {}
  requests := { calibration := {}, manualPps := {} }
  thermalControlProfilePreview := none

def uncalibrated : ThermalModel Unit where
  previewOf _ := ()
  plantIsAvailable _ := false
  holdTargetC _ := 0

/-- The PPS request is refused, and the calibration mode is set. -/
theorem not_all_refusals_change_nothing :
    ¬∀ (config : RuntimeConfigCommand) (state : RuntimeConfigState Unit),
      (usbRuntimeConfigResponse uncalibrated config state).1 ≠ none →
        (usbRuntimeConfigResponse uncalibrated config state).2 = state := by
  intro h
  let command : CalibrationControlCommand :=
    { mode := some .vinAdc, ppsEnabled := some true, ppsMv := some 9000 }
  have hsame := h { calibration := some command } idleState (by decide)
  have hmode : CalibrationMode.vinAdc = .off :=
    congrArg (fun state => state.requests.calibration.mode) hsame
  cases hmode

end FluxPurr.Calibration
