import FluxPurr.Thermal.ControllerSteps
import FluxPurr.Runs.Throughout

/-!
# The safety envelope of the heater controller

A run calls the controller in any order: its two updates, the faults and the reseeds, and what
the runtime loop writes into it.  `Envelope` says of one call, after any run, that

* the duty is at most full power;
* from a measurement at the hard cut-off on it is zero until the fault is cleared;
* it is zero for a disabled update, and the next enabled one starts in the warm-up;
* it is zero at the target plus the overshoot cut-off and above;
* a refused measurement does not raise it while the controller heats to the same target;
* hold is left by a new target, a new kind, a fault or a disabled update only.

All of it holds of every call but one kind, `WarmsUpBlind`: a refused measurement that sends the
controller back to the warm-up, or that comes with the first production update while it heats.
The guard of the source looks at the phase that the update ends in, so that the full power of a
new warm-up passes it.
-/

namespace FluxPurr.Thermal

open Heater (HeaterFaultReason HeaterControlPhase)
open Runs (Throughout)
open HeaterController

variable {History Trajectory : Type}

/-- A call of the controller.  The last three are what the runtime loop writes into it: the heat
it has applied, a new heat response, and that no production controller is selected. -/
inductive ThermalCall where
  | updateAt (targetTempC : ℤ) (measuredTempC : ℚ) (heaterEnabled : Bool)
      (profile : Option ThermalControlProfile) (nowMs : ℕ)
  | updateProductionAt (kind : ProductionThermalController) (input : ThermalPlantRuntimeInput)
      (profile : Option ThermalControlProfile)
  | latchFault (reason : HeaterFaultReason)
  | clearFaultLatch
  | reseedMeasurement (measuredTempC : ℚ)
  | reseedMeasurementAfterPpsStep (measuredTempC : ℚ)
  | observeAppliedHeat (nowMs : ℕ) (powerMw : ℚ)
  | identifyHeatResponse (response : Option HeatResponse)
  | releaseProduction

/-- What a call hands to `updateAt`. -/
structure Update (History Trajectory : Type) where
  entered : HeaterController History Trajectory
  targetTempC : ℤ
  measuredTempC : ℚ
  accepted : Bool
  heaterEnabled : Bool
  profile : Option ThermalControlProfile
  nowMs : ℕ

namespace ThermalCall

variable (forecast : HeatForecast History Trajectory)

/-- The update that a call makes.  A production update is enabled if the heater is asked for,
the kind has a profile and is not a change of a selected one. -/
def update (call : ThermalCall) (controller : HeaterController History Trajectory) :
    Option (Update History Trajectory) :=
  match call with
  | updateAt targetTempC measuredTempC heaterEnabled profile nowMs =>
      some
        { entered := controller
          targetTempC
          measuredTempC
          accepted := controller.controlMeasurementAccepted
          heaterEnabled
          profile
          nowMs }
  | updateProductionAt kind input profile =>
      some
        { entered := controller.prepareProduction forecast kind input
          targetTempC := input.targetTempC
          measuredTempC := input.measuredTempC
          accepted := input.measurementAccepted
          heaterEnabled := input.heaterEnabled &&
            !controller.disarmsForSourceChange kind input && kind.isProfile
          profile
          nowMs := input.nowMs }
  | _ => none

/-- The controller after a call, and the snapshot that an update returns. -/
def apply (call : ThermalCall) (controller : HeaterController History Trajectory) :
    HeaterController History Trajectory × Option HeaterPidSnapshot :=
  match call with
  | updateAt targetTempC measuredTempC heaterEnabled profile nowMs =>
      let updated := controller.updateAt forecast targetTempC measuredTempC heaterEnabled profile
        nowMs
      (updated.1, some updated.2)
  | updateProductionAt kind input profile =>
      let updated := controller.updateProductionAt forecast kind input profile
      (updated.1, some updated.2.1)
  | latchFault reason => ((controller.latchFault forecast reason).1, none)
  | clearFaultLatch => (controller.clearFaultLatch forecast, none)
  | reseedMeasurement measuredTempC =>
      (controller.reseedMeasurement forecast measuredTempC, none)
  | reseedMeasurementAfterPpsStep measuredTempC =>
      (controller.reseedMeasurementAfterPpsStep forecast measuredTempC, none)
  | observeAppliedHeat nowMs powerMw =>
      ({ controller with
        appliedHeat := forecast.observe controller.appliedHeat nowMs powerMw }, none)
  | identifyHeatResponse response => ({ controller with heatResponse := response }, none)
  | releaseProduction => ({ controller with productionController := none }, none)

/-- The time of an update. -/
def time : ThermalCall → Option ℕ
  | updateAt _ _ _ _ nowMs => some nowMs
  | updateProductionAt _ input _ => some input.nowMs
  | _ => none

/-- A measurement at the hard cut-off or above. -/
def Overheats (call : ThermalCall) : Prop :=
  match call with
  | updateAt _ measuredTempC _ _ _ => heaterHardCutoffTempC ≤ measuredTempC
  | updateProductionAt _ input _ => heaterHardCutoffTempC ≤ input.measuredTempC
  | _ => False

instance (call : ThermalCall) : Decidable call.Overheats := by
  unfold Overheats
  cases call <;> infer_instance

end ThermalCall

/-! ## What an update starts from -/

section Update

variable {forecast : HeatForecast History Trajectory} {call : ThermalCall}
  {controller : HeaterController History Trajectory} {update : Update History Trajectory}

/-- The update itself: `updateAt` from the state entered. -/
abbrev Update.result (forecast : HeatForecast History Trajectory)
    (update : Update History Trajectory) :
    HeaterController History Trajectory × HeaterPidSnapshot :=
  update.entered.updateAt forecast update.targetTempC update.measuredTempC update.heaterEnabled
    update.profile update.nowMs

theorem ThermalCall.apply_of_update (h : call.update forecast controller = some update) :
    call.apply forecast controller =
      ((update.result forecast).1, some (update.result forecast).2) := by
  cases call <;> cases h <;> rfl

theorem ThermalCall.apply_of_none (h : call.update forecast controller = none) :
    (call.apply forecast controller).2 = none := by
  cases call <;> first | rfl | cases h

/-- What the state entered has in common with the controller: the fault and the target, and
unless it is started over with the measurement of the update, the phase and the duty. -/
structure Enters (controller : HeaterController History Trajectory)
    (update : Update History Trajectory) : Prop where
  faultLatched : update.entered.faultLatched = controller.faultLatched
  lastTargetTempC : update.entered.lastTargetTempC = controller.lastTargetTempC
  start : update.entered.phase = controller.phase ∧
      update.entered.dutyPercent = controller.dutyPercent ∨
    update.entered.FreshAt update.measuredTempC
  accepted : update.heaterEnabled = true →
    update.entered.controlMeasurementAccepted = update.accepted

theorem enters_prepareProduction (kind : ProductionThermalController)
    (input : ThermalPlantRuntimeInput) (profile : Option ThermalControlProfile)
    (h : (ThermalCall.updateProductionAt kind input profile).update forecast controller =
      some update) : Enters controller update := by
  cases h
  have haccepted (prepared : HeaterController History Trajectory)
      (hprepared : prepared.naturalCoolingInput = if kind.isProfile then some input else none)
      (henabled : (input.heaterEnabled && !controller.disarmsForSourceChange kind input &&
        kind.isProfile) = true) :
      prepared.controlMeasurementAccepted = input.measurementAccepted := by
    have hprofile : kind.isProfile = true := by
      rw [Bool.and_eq_true] at henabled
      exact henabled.2
    rw [controlMeasurementAccepted, hprepared, if_pos hprofile]
    rfl
  by_cases hchanged : controller.productionController ≠ some kind
  · refine ⟨?_, ?_, .inr ?_, haccepted _ rfl⟩ <;>
      simp only [prepareProduction, if_pos hchanged] <;> first | rfl | skip
    exact ⟨rfl, rfl, rfl, rfl, rfl, rfl⟩
  · refine ⟨?_, ?_, .inl ?_, haccepted _ rfl⟩ <;>
      simp only [prepareProduction, if_neg hchanged, and_self]

theorem enters_of_update (h : call.update forecast controller = some update) :
    Enters controller update := by
  cases call with
  | updateAt targetTempC measuredTempC heaterEnabled profile nowMs =>
    cases h
    exact ⟨rfl, rfl, .inl ⟨rfl, rfl⟩, fun _ => rfl⟩
  | updateProductionAt kind input profile => exact enters_prepareProduction kind input profile h
  | _ => cases h

theorem overheats_iff (h : call.update forecast controller = some update) :
    call.Overheats ↔ heaterHardCutoffTempC ≤ update.measuredTempC := by
  cases call <;> cases h <;> exact Iff.rfl

theorem Enters.heats_iff (h : Enters controller update) :
    update.entered.Heats update.measuredTempC update.heaterEnabled ↔
      controller.Heats update.measuredTempC update.heaterEnabled := by
  constructor
  · rintro ⟨henabled, hfault, hbelow⟩
    exact ⟨henabled, h.faultLatched ▸ hfault, hbelow⟩
  · rintro ⟨henabled, hfault, hbelow⟩
    exact ⟨henabled, h.faultLatched.trans hfault, hbelow⟩

end Update

/-! ## Runs -/

/-- The controller in a run, with what the calls so far have shown. -/
structure HeaterRun (History Trajectory : Type) where
  controller : HeaterController History Trajectory
  /-- The duty of the last update. -/
  lastDuty : ℕ := 0
  /-- The last update was a disabled one. -/
  disabled : Bool := false
  /-- A measurement reached the hard cut-off since the fault was last cleared. -/
  cutOff : Bool := false

namespace HeaterRun

variable (forecast : HeatForecast History Trajectory)

def start : HeaterRun History Trajectory := { controller := .new forecast }

def next (run : HeaterRun History Trajectory) (call : ThermalCall) : HeaterRun History Trajectory :=
  let applied := call.apply forecast run.controller
  { controller := applied.1
    lastDuty := (applied.2.map (·.dutyPercent)).getD run.lastDuty
    disabled := ((call.update forecast run.controller).map (!·.heaterEnabled)).getD run.disabled
    cutOff :=
      match call with
      | .clearFaultLatch => false
      | _ => run.cutOff || decide call.Overheats }

/-- Every call is possible. -/
def step (run : HeaterRun History Trajectory) (call : ThermalCall) :
    Option (HeaterRun History Trajectory) :=
  some (run.next forecast call)

/-- The call neither faults, nor disables, nor gives a new target or a new kind. -/
def Continues (run : HeaterRun History Trajectory) (call : ThermalCall) : Prop :=
  (match call with
    | .latchFault _ | .clearFaultLatch => False
    | .updateProductionAt kind _ _ => run.controller.productionController = some kind
    | _ => True) ∧
  ∀ update ∈ call.update forecast run.controller,
    run.controller.Heats update.measuredTempC update.heaterEnabled ∧
      clampTarget update.targetTempC = run.controller.lastTargetTempC

/-- The safety envelope, of one call. -/
structure Envelope (run : HeaterRun History Trajectory) (call : ThermalCall) : Prop where
  bounded : ∀ snapshot ∈ (call.apply forecast run.controller).2, snapshot.dutyPercent ≤ 100
  cutOff : run.cutOff = true ∨ call.Overheats →
    ∀ snapshot ∈ (call.apply forecast run.controller).2, snapshot.dutyPercent = 0
  disabled : ∀ update ∈ call.update forecast run.controller, update.heaterEnabled = false →
    ∀ snapshot ∈ (call.apply forecast run.controller).2, snapshot.dutyPercent = 0
  restart : run.disabled = true →
    ∀ update ∈ call.update forecast run.controller, update.entered.phase = .warmup
  overshoot : ∀ update ∈ call.update forecast run.controller,
    clampTarget update.targetTempC +
      (controlTargetFor update.profile (clampTarget update.targetTempC)).overshootCutoffC ≤
        update.measuredTempC →
    ∀ snapshot ∈ (call.apply forecast run.controller).2, snapshot.dutyPercent = 0
  refused : ∀ update ∈ call.update forecast run.controller,
    run.controller.heaterWasEnabled = true → run.controller.phase ≠ .warmup →
    clampTarget update.targetTempC = run.controller.lastTargetTempC → update.accepted = false →
    ∀ snapshot ∈ (call.apply forecast run.controller).2, snapshot.dutyPercent ≤ run.lastDuty
  hold : run.controller.phase = .hold → run.Continues forecast call →
    (call.apply forecast run.controller).1.phase = .hold

/-- The call that adds heat on a refused measurement: the controller heats, with less than full
power, to the same target in approach or hold, and the update warms up. -/
def WarmsUpBlind (run : HeaterRun History Trajectory) (call : ThermalCall) : Prop :=
  ∃ update ∈ call.update forecast run.controller,
    run.controller.heaterWasEnabled = true ∧ run.controller.phase ≠ .warmup ∧
    clampTarget update.targetTempC = run.controller.lastTargetTempC ∧ update.accepted = false ∧
    run.controller.Heats update.measuredTempC update.heaterEnabled ∧
    update.entered.Rewarms forecast (clampTarget update.targetTempC) update.measuredTempC
      (controlTargetFor update.profile (clampTarget update.targetTempC)) ∧
    run.lastDuty < 100

/-! ## The invariant -/

structure Inv (run : HeaterRun History Trajectory) : Prop where
  heating : run.controller.heaterWasEnabled = true → run.controller.dutyPercent = run.lastDuty
  bounded : run.lastDuty ≤ 100
  cutOff : run.cutOff = true → run.controller.faultLatched.isSome = true
  disabled : run.disabled = true →
    run.controller.phase = .warmup ∧ run.controller.heaterWasEnabled = false

theorem inv_start : (start forecast).Inv where
  heating := nofun
  bounded := Nat.zero_le _
  cutOff := nofun
  disabled := nofun

variable {forecast} {run : HeaterRun History Trajectory} {call : ThermalCall}
  {update : Update History Trajectory}

theorem next_of_update (h : call.update forecast run.controller = some update) :
    run.next forecast call =
      { controller := (update.result forecast).1
        lastDuty := (update.result forecast).2.dutyPercent
        disabled := !update.heaterEnabled
        cutOff := run.cutOff || decide (heaterHardCutoffTempC ≤ update.measuredTempC) } := by
  have hover := overheats_iff h
  have hclear : call ≠ .clearFaultLatch := by rintro rfl; cases h
  unfold next
  simp only [ThermalCall.apply_of_update h, h, Option.map_some, Option.getD_some,
    decide_eq_decide.mpr hover]

theorem Inv.next_update (hinv : run.Inv)
    (h : call.update forecast run.controller = some update) : (run.next forecast call).Inv := by
  have henters := enters_of_update h
  rw [next_of_update h]
  by_cases hheats : update.entered.Heats update.measuredTempC update.heaterEnabled
  · have hon := @turnedOn_updateAt _ _ forecast update.entered update.targetTempC
      update.measuredTempC update.heaterEnabled update.profile update.nowMs hheats
    refine ⟨fun _ => hon.dutyPercent, hon.answered_le, fun hcut => ?_, fun hdisabled => ?_⟩
    · simp only [Bool.or_eq_true, decide_eq_true_eq, not_le.mpr hheats.below, or_false] at hcut
      have hfault := hinv.cutOff hcut
      rw [← henters.faultLatched, hheats.unfaulted] at hfault
      cases hfault
    · simp [hheats.enabled] at hdisabled
  · obtain ⟨hzero, hoff⟩ := @updateAt_off _ _ forecast update.entered
      update.targetTempC update.measuredTempC update.heaterEnabled update.profile update.nowMs
      hheats
    refine ⟨fun hon => ?_, hzero.trans_le (Nat.zero_le _), fun hcut => ?_,
      fun _ => ⟨hoff.phase, hoff.heaterWasEnabled⟩⟩
    · rw [hoff.heaterWasEnabled] at hon
      cases hon
    · rw [hoff.faultLatched]
      split_ifs with hhot
      · rfl
      · simp only [hhot, decide_false, Bool.or_false] at hcut
        rw [henters.faultLatched]
        exact hinv.cutOff hcut

theorem Inv.next (hinv : run.Inv) (call : ThermalCall) : (run.next forecast call).Inv := by
  cases hupdate : call.update forecast run.controller with
  | some update => exact hinv.next_update hupdate
  | none =>
    cases call with
    | updateAt => cases hupdate
    | updateProductionAt => cases hupdate
    | latchFault reason => exact ⟨nofun, hinv.bounded, fun _ => rfl, fun _ => ⟨rfl, rfl⟩⟩
    | clearFaultLatch => exact ⟨nofun, hinv.bounded, nofun, fun _ => ⟨rfl, rfl⟩⟩
    | _ =>
      refine { hinv with cutOff := fun hcut => hinv.cutOff ?_ }
      exact ((Bool.or_eq_true _ _).mp hcut).resolve_right fun hover => of_decide_eq_true hover

/-! ## The clauses -/

/-- A clause about the snapshot of an update is one about its result. -/
theorem forall_snapshot_iff {P : HeaterPidSnapshot → Prop}
    (h : call.update forecast run.controller = some update) :
    (∀ snapshot ∈ (call.apply forecast run.controller).2, P snapshot) ↔
      P (update.result forecast).2 := by
  rw [ThermalCall.apply_of_update h]
  simp

/-- A call that goes on heating at the same target and of the same kind keeps hold. -/
theorem hold_of_continues (hhold : run.controller.phase = .hold)
    (hcontinues : run.Continues forecast call) :
    (call.apply forecast run.controller).1.phase = .hold := by
  cases hupdate : call.update forecast run.controller with
  | some update =>
    obtain ⟨hheats, htarget⟩ := hcontinues.2 update hupdate
    have henters := enters_of_update hupdate
    have hphase : update.entered.phase = .hold := by
      cases call with
      | updateAt => cases hupdate; exact hhold
      | updateProductionAt kind input profile =>
        cases hupdate
        have hkind : run.controller.productionController = some kind := hcontinues.1
        simp only [prepareProduction, if_neg (not_not.mpr hkind)]
        exact hhold
      | _ => cases hupdate
    rw [ThermalCall.apply_of_update hupdate]
    exact (turnedOn_updateAt (henters.heats_iff.mpr hheats)).hold hphase
      (htarget.trans henters.lastTargetTempC.symm)
  | none =>
    cases call with
    | updateAt => cases hupdate
    | updateProductionAt => cases hupdate
    | latchFault => exact hcontinues.1.elim
    | clearFaultLatch => exact hcontinues.1.elim
    | _ => exact hhold

theorem duty_of_not_heats (h : call.update forecast run.controller = some update)
    (hoff : ¬run.controller.Heats update.measuredTempC update.heaterEnabled) :
    (update.result forecast).2.dutyPercent = 0 :=
  (updateAt_off (mt (enters_of_update h).heats_iff.mp hoff)).1

/-- A refused measurement raises the duty exactly in a call that warms up blind. -/
theorem duty_le_iff_of_refused (hinv : run.Inv)
    (h : call.update forecast run.controller = some update)
    (hheating : run.controller.heaterWasEnabled = true)
    (hphase : run.controller.phase ≠ .warmup)
    (htarget : clampTarget update.targetTempC = run.controller.lastTargetTempC)
    (hrefused : update.accepted = false)
    (hheats : run.controller.Heats update.measuredTempC update.heaterEnabled) :
    (update.result forecast).2.dutyPercent ≤ run.lastDuty ↔
      ¬(update.entered.Rewarms forecast (clampTarget update.targetTempC) update.measuredTempC
          (controlTargetFor update.profile (clampTarget update.targetTempC)) ∧
        run.lastDuty < 100) := by
  have henters := enters_of_update h
  have hduty : update.entered.dutyPercent ≤ run.lastDuty := by
    rw [← hinv.heating hheating]
    rcases henters.start with ⟨-, hsame⟩ | hfresh
    · exact hsame.le
    · exact hfresh.dutyPercent.trans_le (Nat.zero_le _)
  have hfresh : update.entered.phase = .warmup → update.entered.FreshAt update.measuredTempC := by
    intro hwarm
    rcases henters.start with ⟨hsame, -⟩ | hfresh
    · exact absurd (hsame.symm.trans hwarm) hphase
    · exact hfresh
  obtain ⟨hfull, hheld⟩ := @duty_updateAt_of_refused _ _ forecast update.entered
    update.targetTempC update.measuredTempC update.heaterEnabled update.profile update.nowMs
    (henters.heats_iff.mpr hheats) ((henters.accepted hheats.enabled).trans hrefused)
    (htarget.trans henters.lastTargetTempC.symm) hfresh
  constructor
  · rintro hle ⟨hrewarms, hless⟩
    have hduty : (update.result forecast).2.dutyPercent = 100 := hfull hrewarms
    omega
  · intro hblind
    by_cases hrewarms : update.entered.Rewarms forecast (clampTarget update.targetTempC)
        update.measuredTempC (controlTargetFor update.profile (clampTarget update.targetTempC))
    · have hfullDuty : (update.result forecast).2.dutyPercent = 100 := hfull hrewarms
      have hfullBefore : ¬run.lastDuty < 100 := fun hless => hblind ⟨hrewarms, hless⟩
      omega
    · exact (hheld hrewarms).trans hduty

/-- After any run, the envelope holds of a call exactly if the call does not warm up blind. -/
theorem envelope_iff (hinv : run.Inv) :
    ¬run.WarmsUpBlind forecast call ↔ run.Envelope forecast call := by
  constructor
  · intro hcareful
    cases hupdate : call.update forecast run.controller with
    | none =>
      have hnone := ThermalCall.apply_of_none hupdate
      refine ⟨?_, ?_, ?_, ?_, ?_, ?_, hold_of_continues⟩ <;> simp [hnone, hupdate]
    | some update =>
      have henters := enters_of_update hupdate
      have hover := overheats_iff hupdate
      constructor
      case hold => exact hold_of_continues
      case restart =>
        intro hdisabled update' hupdate'
        obtain rfl : update = update' := Option.some.inj (hupdate.symm.trans hupdate')
        rcases henters.start with ⟨hsame, -⟩ | hfresh
        · exact hsame.trans (hinv.disabled hdisabled).1
        · exact hfresh.phase
      case bounded =>
        rw [forall_snapshot_iff hupdate]
        have hbounded : (run.next forecast call).lastDuty ≤ 100 := (hinv.next call).bounded
        rwa [next_of_update hupdate] at hbounded
      case cutOff =>
        rw [forall_snapshot_iff hupdate]
        intro hcut
        refine duty_of_not_heats hupdate fun hheats => ?_
        rcases hcut with hcut | hhot
        · have hfault := hinv.cutOff hcut
          rw [hheats.unfaulted] at hfault
          cases hfault
        · exact absurd (hover.mp hhot) (not_le.mpr hheats.below)
      case disabled =>
        intro update' hupdate' hdisabled
        obtain rfl : update = update' := Option.some.inj (hupdate.symm.trans hupdate')
        rw [forall_snapshot_iff hupdate]
        refine duty_of_not_heats hupdate fun hheats => ?_
        rw [hheats.enabled] at hdisabled
        cases hdisabled
      case overshoot =>
        intro update' hupdate' hhot
        obtain rfl : update = update' := Option.some.inj (hupdate.symm.trans hupdate')
        rw [forall_snapshot_iff hupdate]
        exact duty_updateAt_of_overshoot hhot
      case refused =>
        intro update' hupdate' hheating hphase htarget hrefused
        obtain rfl : update = update' := Option.some.inj (hupdate.symm.trans hupdate')
        rw [forall_snapshot_iff hupdate]
        by_cases hheats : run.controller.Heats update.measuredTempC update.heaterEnabled
        · rw [duty_le_iff_of_refused hinv hupdate hheating hphase htarget hrefused hheats]
          rintro ⟨hrewarms, hless⟩
          exact hcareful ⟨update, hupdate, hheating, hphase, htarget, hrefused, hheats, hrewarms,
            hless⟩
        · rw [duty_of_not_heats hupdate hheats]
          exact Nat.zero_le _
  · rintro henvelope ⟨update, hupdate, hheating, hphase, htarget, hrefused, hheats, hrewarms,
      hless⟩
    have hle := henvelope.refused update hupdate hheating hphase htarget hrefused
    rw [forall_snapshot_iff hupdate,
      duty_le_iff_of_refused hinv hupdate hheating hphase htarget hrefused hheats] at hle
    exact hle ⟨hrewarms, hless⟩

/-- A run of the controller stays in its safety envelope exactly if no call of it warms up
blind. -/
theorem envelope_throughout_iff (forecast : HeatForecast History Trajectory)
    (calls : List ThermalCall) :
    Throughout (step forecast) (fun run call => ¬run.WarmsUpBlind forecast call)
        (start forecast) calls ↔
      Throughout (step forecast) (fun run call => run.Envelope forecast call)
        (start forecast) calls := by
  refine Runs.throughout_congr (inv_start forecast) (fun run call hinv => envelope_iff hinv) ?_
  intro run call next hinv _ hnext
  obtain rfl := Option.some.inj hnext
  exact hinv.next call

/-! ## A blind warm-up -/

/-- A forecast with nothing in flight.  The powers and roots below are those of 0 and 1. -/
def restingForecast : HeatForecast Unit Unit where
  powf base _ := base
  sqrt value := value
  newHistory := ()
  configure _ _ := ()
  configureResponse _ _ := ()
  observe _ _ _ := ()
  resetTemperatureObservation _ := ()
  reanchorTemperature _ := ()
  observeTemperature _ _ _ _ := ()
  forecastFromMeasurement _ _ _ measuredTempC riseCPerS _ :=
    { temperatureC := measuredTempC, riseCPerS }
  predictResponse _ _ _ _ _ _ _ := none
  trackingRequestPermille _ _ _ _ _ _ := none
  trackingRequestBounds _ _ _ _ _ _ _ := none
  newTrajectory _ _ := ()
  advance _ _ _ _ _ _ := ((), { temperatureC := 0, riseCPerS := 0 })
  requestPermille _ _ _ _ := approachMinPermille
  projected _ _ _ _ _ _ := { temperatureC := 0, riseCPerS := 0 }
  referenceBrakeC _ _ _ _ _ := 0

/-- A production update to 100 °C without a source limit, so that no model is available, and
with an unfiltered measurement. -/
def unmodelledUpdate (measuredTempC : ℚ) (measurementAccepted : Bool) (nowMs : ℕ) : ThermalCall :=
  .updateProductionAt (.profile .pps3a)
    { targetTempC := 100
      measuredTempC
      measurementAccepted
      ambientTempC := 25
      heaterEnabled := true
      model :=
        { convectionMwPerC := 100
          radiationMwPerK4 := 0
          thermalCapacityMjPerC := 800
          transportDelayMs := 500 }
      maxPowerMw := 0
      allowIntegral := true
      nowMs }
    (some
      { settings := .ofConfig { tempFilterAlphaPermille := 1000 }
        points := Vector.replicate _ none })

/-- The approach asks for 18 percent; a refused reading of 80 °C then for full power. -/
theorem not_envelope_throughout :
    ¬∀ calls : List ThermalCall, (calls.filterMap ThermalCall.time).Pairwise (· ≤ ·) →
      Throughout (step restingForecast) (fun run call => run.Envelope restingForecast call)
        (start restingForecast) calls := by
  intro h
  obtain ⟨-, hrest⟩ := h [unmodelledUpdate 99.75 true 0, unmodelledUpdate 80 false 50] (by decide)
  obtain ⟨henvelope, -⟩ := hrest _ rfl
  have hle := henvelope.refused _ rfl (by decide +kernel) (by decide +kernel) (by decide +kernel)
    rfl _ rfl
  exact absurd hle (by decide +kernel)

end HeaterRun

end FluxPurr.Thermal
