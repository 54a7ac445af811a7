import FluxPurr.Thermal.Controller

/-!
# What one update of the heater controller does

Everything about an update comes from the phase it settles in and the duty it then asks for.
`Standing` is the part of the controller that the pieces of an update hand on unchanged, so that
a fact about the state before the update is one about the state in which its duty is computed.
-/

namespace FluxPurr.Thermal

open Heater (HeaterFaultReason HeaterControlPhase)

variable {History Trajectory : Type} {forecast : HeatForecast History Trajectory}
  {controller : HeaterController History Trajectory}

/-! ## Percentages -/

theorem percentFromPermille_le (permille : ℕ) : percentFromPermille permille ≤ 100 :=
  min_le_right _ _

@[simp] theorem percentFromPermille_full : percentFromPermille 1000 = 100 := by decide

/-- The blend of the hold entry, rounded, is at most full power. -/
theorem asU8_blend_le (value : ℚ) : asU8 (clampQ value 0 100 + 0.5) ≤ 100 := by
  have hle : clampQ value 0 100 ≤ 100 := clampQ_le (by norm_num)
  have hfloor : ⌊clampQ value 0 100 + 0.5⌋ < 101 := by
    rw [Int.floor_lt]
    push_cast
    linarith
  unfold asU8
  omega

/-! ## What the pieces hand on -/

structure Standing where
  faultLatched : Option HeaterFaultReason
  lastTargetTempC : ℤ
  dutyPercent : ℕ
  naturalCoolingInput : Option ThermalPlantRuntimeInput
  heatResponse : Option HeatResponse
  heaterWasEnabled : Bool
  productionController : Option ProductionThermalController

namespace HeaterController

def standing (controller : HeaterController History Trajectory) : Standing :=
  { faultLatched := controller.faultLatched
    lastTargetTempC := controller.lastTargetTempC
    dutyPercent := controller.dutyPercent
    naturalCoolingInput := controller.naturalCoolingInput
    heatResponse := controller.heatResponse
    heaterWasEnabled := controller.heaterWasEnabled
    productionController := controller.productionController }

/-- The same standing and the same phase. -/
structure Alike (controller before : HeaterController History Trajectory) : Prop where
  standing : controller.standing = before.standing
  phase : controller.phase = before.phase

namespace Alike

variable {before last : HeaterController History Trajectory}

theorem refl (controller : HeaterController History Trajectory) : Alike controller controller :=
  ⟨rfl, rfl⟩

theorem trans (hfirst : Alike controller before) (hsecond : Alike before last) :
    Alike controller last :=
  ⟨hfirst.standing.trans hsecond.standing, hfirst.phase.trans hsecond.phase⟩

theorem ite {condition : Prop} [Decidable condition]
    {first second : HeaterController History Trajectory}
    (hfirst : condition → Alike first before) (hsecond : ¬condition → Alike second before) :
    Alike (if condition then first else second) before := by
  by_cases h : condition
  · rw [if_pos h]; exact hfirst h
  · rw [if_neg h]; exact hsecond h

end Alike

variable {before : HeaterController History Trajectory}

theorem dutyPercent_of_standing
    (h : controller.standing = before.standing) : controller.dutyPercent = before.dutyPercent :=
  congrArg Standing.dutyPercent h

theorem naturalCoolingInput_of_standing (h : controller.standing = before.standing) :
    controller.naturalCoolingInput = before.naturalCoolingInput :=
  congrArg Standing.naturalCoolingInput h

theorem accepted_of_standing (h : controller.standing = before.standing) :
    controller.controlMeasurementAccepted = before.controlMeasurementAccepted := by
  rw [controlMeasurementAccepted, naturalCoolingInput_of_standing h, controlMeasurementAccepted]

theorem alike_advanceMeasurementHistory (measuredTempC : ℚ) :
    Alike (controller.advanceMeasurementHistory measuredTempC) controller :=
  .ite (fun _ => ⟨rfl, rfl⟩) fun _ => .refl _

theorem alike_observeTemperatureTransfer (nowMs : ℕ) (measuredTempC : ℚ) :
    Alike (controller.observeTemperatureTransfer forecast nowMs measuredTempC) controller := by
  refine .ite (fun _ => .refl _) fun _ => ?_
  simp only
  split <;> exact ⟨rfl, rfl⟩

theorem alike_measureProfileTemperature (measuredTempC nominalAlpha : ℚ) (elapsedMs : ℕ) :
    Alike (controller.measureProfileTemperature forecast measuredTempC nominalAlpha elapsedMs)
      controller :=
  .ite (fun _ => ⟨rfl, rfl⟩) fun _ => .ite (fun _ => ⟨rfl, rfl⟩) fun _ => ⟨rfl, rfl⟩

theorem standing_advancePhase (frame : ThermalControlFrame) (nowMs : ℕ) :
    (controller.advancePhase frame nowMs).standing = controller.standing := by
  unfold advancePhase
  by_cases h : controller.nextPhase frame ≠ controller.phase
  · rw [if_pos h]; rfl
  · rw [if_neg h]; rfl

theorem phase_advancePhase (frame : ThermalControlFrame) (nowMs : ℕ) :
    (controller.advancePhase frame nowMs).phase = controller.nextPhase frame := by
  unfold advancePhase
  by_cases h : controller.nextPhase frame ≠ controller.phase
  · rw [if_pos h]
  · rw [if_neg h]
    exact (not_not.mp h).symm

theorem alike_updateHoldTransition (frame : ThermalControlFrame) (measuredTempC : ℚ) :
    Alike (controller.updateHoldTransition frame measuredTempC) controller :=
  .ite (fun _ => ⟨rfl, rfl⟩) fun _ => ⟨rfl, rfl⟩

theorem alike_updateCoastState (frame : ThermalControlFrame)
    (measuredTempC previousMeasuredTempC : ℚ) :
    Alike (controller.updateCoastState frame measuredTempC previousMeasuredTempC) controller :=
  .ite (fun _ => ⟨rfl, rfl⟩) fun _ => .ite (fun _ => .refl _) fun _ =>
    .ite (fun _ => ⟨rfl, rfl⟩) fun _ => ⟨rfl, rfl⟩

theorem alike_movePhase (frame : ThermalControlFrame) (measuredTempC : ℚ) (nowMs : ℕ) :
    Alike (controller.movePhase frame measuredTempC nowMs)
      (controller.advancePhase frame nowMs) := by
  unfold movePhase
  simp only
  generalize controller.advancePhase frame nowMs = advanced
  generalize hcleared : (if advanced.phase ≠ .approach then advanced.clearApproachBraking
    else advanced) = cleared
  have hcleared' : Alike cleared advanced := by
    rw [← hcleared]
    exact .ite (fun _ => ⟨rfl, rfl⟩) fun _ => .refl _
  refine Alike.trans ?_ hcleared'
  exact .ite (fun _ => alike_updateHoldTransition _ _) fun _ => .refl _

theorem alike_settlePhase (frame : ThermalControlFrame)
    (measuredTempC previousMeasuredTempC : ℚ) (nowMs : ℕ) :
    Alike (controller.settlePhase frame measuredTempC previousMeasuredTempC nowMs)
      (controller.advancePhase frame nowMs) := by
  have hmoved : Alike (controller.movePhase frame measuredTempC nowMs) _ := alike_movePhase _ _ _
  unfold settlePhase
  simp only
  generalize controller.movePhase frame measuredTempC nowMs = moved at hmoved ⊢
  refine (alike_updateCoastState _ _ _).trans (Alike.trans ?_ hmoved)
  exact .ite (fun _ => ⟨rfl, rfl⟩) fun _ => .refl _

theorem standing_settlePhase (frame : ThermalControlFrame)
    (measuredTempC previousMeasuredTempC : ℚ) (nowMs : ℕ) :
    (controller.settlePhase frame measuredTempC previousMeasuredTempC nowMs).standing =
      controller.standing :=
  (alike_settlePhase _ _ _ _).standing.trans (standing_advancePhase _ _)

theorem phase_settlePhase (frame : ThermalControlFrame)
    (measuredTempC previousMeasuredTempC : ℚ) (nowMs : ℕ) :
    (controller.settlePhase frame measuredTempC previousMeasuredTempC nowMs).phase =
      controller.nextPhase frame :=
  (alike_settlePhase _ _ _ _).phase.trans (phase_advancePhase _ _)

theorem alike_calculateTrajectoryApproachDuty (frame : ThermalControlFrame)
    (enteredApproach : Bool) :
    Alike (controller.calculateTrajectoryApproachDuty forecast frame enteredApproach).1
      controller := by
  unfold calculateTrajectoryApproachDuty
  split
  · exact .refl _
  · rename_i input hinput
    simp only
    by_cases havailable : controller.modelApproachAvailable
    · rw [if_neg (by simpa using havailable)]
      generalize hstart : (if enteredApproach || controller.approachTrajectory.isNone then
        _ else controller) = started
      have hstarted : Alike started controller := by
        rw [← hstart]
        exact .ite (fun _ => ⟨rfl, rfl⟩) fun _ => .refl _
      by_cases hentered : enteredApproach
      · rw [if_pos hentered]
        exact hstarted
      · rw [if_neg hentered]
        cases htrajectory : started.approachTrajectory with
        | none => exact hstarted
        | some trajectory =>
          simp only
          split
          · exact ⟨hstarted.standing, hstarted.phase⟩
          · exact ⟨hstarted.standing, hstarted.phase⟩
    · rw [if_pos (by simpa using havailable)]
      exact .refl _

theorem alike_calculateHoldDuty (frame : ThermalControlFrame) (modelRequest : Option ℕ) :
    Alike (controller.calculateHoldDuty frame modelRequest).1 controller := by
  unfold calculateHoldDuty
  simp only
  split
  · exact ⟨rfl, rfl⟩
  · split <;> exact ⟨rfl, rfl⟩

theorem alike_calculateDutyPercent (frame : ThermalControlFrame) (enteredApproach : Bool)
    (holdModelRequest : Option ℕ) :
    Alike (controller.calculateDutyPercent forecast frame enteredApproach holdModelRequest).1
      controller := by
  unfold calculateDutyPercent
  split
  · exact ⟨rfl, rfl⟩
  · split
    · exact .refl _
    · exact alike_calculateTrajectoryApproachDuty _ _
    · exact alike_calculateHoldDuty _ _

theorem alike_limitHoldArrivalPower (frame : ThermalControlFrame) (dutyPercent : ℕ)
    (modelCeiling : Option ℕ) :
    Alike (controller.limitHoldArrivalPower forecast frame dutyPercent modelCeiling).1
      controller := by
  unfold limitHoldArrivalPower
  split
  · exact .refl _
  · exact .ite (fun _ => ⟨rfl, rfl⟩) fun _ => .refl _

theorem alike_requestDuty (frame : ThermalControlFrame) (enteredApproach : Bool) :
    Alike (controller.requestDuty forecast frame enteredApproach).1 controller := by
  unfold requestDuty
  simp only
  generalize (if controller.phase = .hold then controller.fullResponseHoldRequests forecast
    else none) = requests
  have hcalculated := @alike_calculateDutyPercent _ _ forecast controller frame enteredApproach (requests.map (·.1))
  generalize controller.calculateDutyPercent forecast frame enteredApproach
    (requests.map (·.1)) = calculated at hcalculated ⊢
  split
  · exact (alike_limitHoldArrivalPower _ _ _).trans hcalculated
  · exact hcalculated

/-! ## The duty that is asked for -/

theorem calculateTrajectoryApproachDuty_le (frame : ThermalControlFrame) (enteredApproach : Bool) :
    ∀ duty ∈ (controller.calculateTrajectoryApproachDuty forecast frame enteredApproach).2,
      duty ≤ 100 := by
  unfold calculateTrajectoryApproachDuty
  split
  · nofun
  · rename_i input hinput
    simp only
    by_cases havailable : controller.modelApproachAvailable
    · rw [if_neg (by simpa using havailable)]
      by_cases hentered : enteredApproach
      · rw [if_pos hentered]
        rintro duty ⟨⟩
        exact percentFromPermille_le _
      · rw [if_neg hentered]
        split
        · nofun
        · split
          · nofun
          · rintro duty ⟨⟩
            exact percentFromPermille_le _
    · rw [if_pos (by simpa using havailable)]
      nofun

theorem calculateApproachDuty_le (frame : ThermalControlFrame) (enteredApproach : Bool) :
    (controller.calculateApproachDuty forecast frame enteredApproach).2 ≤ 100 := by
  have htracked := @calculateTrajectoryApproachDuty_le _ _ forecast controller frame enteredApproach
  unfold calculateApproachDuty
  simp only
  cases hduty : (controller.calculateTrajectoryApproachDuty forecast frame enteredApproach).2 with
  | none => exact percentFromPermille_le _
  | some duty => exact htracked duty hduty

theorem calculateHoldDuty_le (frame : ThermalControlFrame) (modelRequest : Option ℕ) :
    (controller.calculateHoldDuty frame modelRequest).2 ≤ 100 := by
  unfold calculateHoldDuty
  simp only
  split
  · exact Nat.zero_le _
  · split
    · exact asU8_blend_le _
    · exact percentFromPermille_le _

theorem calculateDutyPercent_le (frame : ThermalControlFrame) (enteredApproach : Bool)
    (holdModelRequest : Option ℕ) :
    (controller.calculateDutyPercent forecast frame enteredApproach holdModelRequest).2 ≤
      100 := by
  unfold calculateDutyPercent
  split
  · exact Nat.zero_le _
  · split
    · exact percentFromPermille_le _
    · exact calculateApproachDuty_le _ _
    · exact calculateHoldDuty_le _ _

theorem applyUnderTargetReheatFloor_le {dutyPercent : ℕ} (h : dutyPercent ≤ 100)
    (errorC holdControlErrorC : ℚ) (target : ThermalControlTarget) :
    controller.applyUnderTargetReheatFloor dutyPercent errorC holdControlErrorC target ≤ 100 := by
  unfold applyUnderTargetReheatFloor
  split
  · exact h
  · split
    · exact h
    · exact percentFromPermille_le _
    · split
      · exact h
      · exact percentFromPermille_le _

theorem limitHoldArrivalPower_le (frame : ThermalControlFrame) (dutyPercent : ℕ)
    (modelCeiling : Option ℕ) :
    (controller.limitHoldArrivalPower forecast frame dutyPercent modelCeiling).2 ≤
      dutyPercent := by
  unfold limitHoldArrivalPower
  split
  · exact le_refl _
  · exact min_le_left _ _

theorem flooredDuty_le {dutyPercent : ℕ} (h : dutyPercent ≤ 100) (frame : ThermalControlFrame) :
    controller.flooredDuty frame dutyPercent ≤ 100 := by
  unfold flooredDuty
  simp only
  split
  · exact h
  · exact applyUnderTargetReheatFloor_le h _ _ _

variable {frame : ThermalControlFrame}

theorem flooredDuty_of_error_nonpos (h : frame.errorC ≤ 0)
    (dutyPercent : ℕ) : controller.flooredDuty frame dutyPercent = dutyPercent := by
  unfold flooredDuty applyUnderTargetReheatFloor
  simp only
  split
  · rfl
  · exact if_pos (.inr h)

theorem flooredDuty_of_warmup (h : controller.phase = .warmup) (frame : ThermalControlFrame)
    (dutyPercent : ℕ) : controller.flooredDuty frame dutyPercent = dutyPercent := by
  unfold flooredDuty applyUnderTargetReheatFloor
  simp only [h]
  split
  · rfl
  · split <;> rfl

theorem heldDuty_le (dutyPercent : ℕ) : controller.heldDuty dutyPercent ≤ dutyPercent := by
  unfold heldDuty
  split
  · exact min_le_left _ _
  · exact le_refl _

/-- After a refused measurement, outside of the warm-up, the duty does not rise. -/
theorem heldDuty_le_before (hphase : controller.phase ≠ .warmup)
    (hrefused : controller.controlMeasurementAccepted = false) (dutyPercent : ℕ) :
    controller.heldDuty dutyPercent ≤ controller.dutyPercent := by
  rw [heldDuty, if_pos (by simp [hphase, hrefused])]
  exact min_le_right _ _

theorem heldDuty_of_warmup (h : controller.phase = .warmup) (dutyPercent : ℕ) :
    controller.heldDuty dutyPercent = dutyPercent := by
  rw [heldDuty, if_neg (by simp [h])]

/-- The duty of an update is at most the floored duty of one calculation. -/
theorem requestDuty_le_floored (frame : ThermalControlFrame) (enteredApproach : Bool) :
    ∃ requests, (controller.requestDuty forecast frame enteredApproach).2 ≤
      (controller.calculateDutyPercent forecast frame enteredApproach requests).1.flooredDuty
        frame
        (controller.calculateDutyPercent forecast frame enteredApproach requests).2 := by
  unfold requestDuty
  simp only
  generalize (if controller.phase = .hold then controller.fullResponseHoldRequests forecast
    else none) = requests
  refine ⟨requests.map (·.1), (heldDuty_le _).trans ?_⟩
  split
  · exact limitHoldArrivalPower_le _ _ _
  · exact le_refl _

theorem requestDuty_le (frame : ThermalControlFrame) (enteredApproach : Bool) :
    (controller.requestDuty forecast frame enteredApproach).2 ≤ 100 := by
  obtain ⟨requests, hle⟩ := @requestDuty_le_floored _ _ forecast controller frame enteredApproach
  exact hle.trans (flooredDuty_le (calculateDutyPercent_le _ _ _) _)

theorem requestDuty_eq_zero (herror : frame.errorC ≤ 0)
    (hcutoff : frame.holdGuardErrorC ≤ -frame.controlTarget.overshootCutoffC)
    (enteredApproach : Bool) :
    (controller.requestDuty forecast frame enteredApproach).2 = 0 := by
  obtain ⟨requests, hle⟩ := @requestDuty_le_floored _ _ forecast controller frame enteredApproach
  rw [flooredDuty_of_error_nonpos herror, calculateDutyPercent, if_pos (.inr hcutoff)] at hle
  exact Nat.le_zero.mp hle

/-- A refused measurement does not raise the duty, outside of the warm-up. -/
theorem requestDuty_le_before (hphase : controller.phase ≠ .warmup)
    (hrefused : controller.controlMeasurementAccepted = false) (frame : ThermalControlFrame)
    (enteredApproach : Bool) :
    (controller.requestDuty forecast frame enteredApproach).2 ≤ controller.dutyPercent := by
  have halike := @alike_requestDuty _ _ forecast controller frame
    enteredApproach
  have hheld : ∃ dutyPercent, (controller.requestDuty forecast frame enteredApproach).2 =
      (controller.requestDuty forecast frame enteredApproach).1.heldDuty dutyPercent := ⟨_, rfl⟩
  obtain ⟨dutyPercent, hheld⟩ := hheld
  rw [hheld, ← dutyPercent_of_standing halike.standing]
  exact heldDuty_le_before (by rw [halike.phase]; exact hphase)
    (by rw [accepted_of_standing halike.standing]; exact hrefused) _

theorem requestDuty_of_warmup (hphase : controller.phase = .warmup)
    (hcoast : controller.holdCoastActive = false)
    (hcutoff : ¬frame.holdGuardErrorC ≤ -frame.controlTarget.overshootCutoffC)
    (enteredApproach : Bool) :
    (controller.requestDuty forecast frame enteredApproach).2 =
      percentFromPermille frame.controlTarget.warmupPowerPermille := by
  have hcalculated (requests : Option ℕ) :
      controller.calculateDutyPercent forecast frame enteredApproach requests =
        (controller, percentFromPermille frame.controlTarget.warmupPowerPermille) := by
    rw [calculateDutyPercent, if_neg (by simp [hcoast, hcutoff]), hphase]
  unfold requestDuty
  simp only [hcalculated, hphase, reduceCtorEq, if_false, heldDuty_of_warmup hphase,
    flooredDuty_of_warmup hphase]

/-! ## The coast of a warm-up -/

/-- A controller that does not coast does not start to in the warm-up, and one that goes back
to the warm-up ends its coast. -/
theorem holdCoastActive_movePhase (hnext : controller.nextPhase frame = .warmup)
    (hcoast : controller.phase = .warmup → controller.holdCoastActive = false)
    (measuredTempC : ℚ) (nowMs : ℕ) :
    (controller.movePhase frame measuredTempC nowMs).holdCoastActive = false := by
  have hphase := @phase_advancePhase _ _ controller frame nowMs
  rw [hnext] at hphase
  have hkept : (controller.advancePhase frame nowMs).holdCoastActive =
      controller.holdCoastActive := by
    unfold advancePhase
    by_cases h : controller.nextPhase frame ≠ controller.phase
    · rw [if_pos h]
    · rw [if_neg h]
  unfold movePhase
  simp only
  generalize controller.advancePhase frame nowMs = advanced at hphase hkept ⊢
  generalize hcleared : (if advanced.phase ≠ .approach then advanced.clearApproachBraking
    else advanced) = cleared
  obtain rfl : advanced.clearApproachBraking = cleared := by
    rw [← hcleared, if_pos (by simp [hphase])]
  have hclearedPhase : advanced.clearApproachBraking.phase = .warmup := hphase
  by_cases hstays : controller.phase = .warmup
  · rw [if_neg (by simp [hclearedPhase, hstays])]
    exact hkept.trans (hcoast hstays)
  · rw [if_pos (by rw [hclearedPhase]; exact hstays), updateHoldTransition,
      if_pos (by simp [hclearedPhase])]

theorem holdCoastActive_settlePhase (hnext : controller.nextPhase frame = .warmup)
    (hcoast : controller.phase = .warmup → controller.holdCoastActive = false)
    (measuredTempC previousMeasuredTempC : ℚ) (nowMs : ℕ) :
    (controller.settlePhase frame measuredTempC previousMeasuredTempC nowMs).holdCoastActive =
      false := by
  have hmoved := holdCoastActive_movePhase hnext hcoast measuredTempC nowMs
  have hphase : (controller.movePhase frame measuredTempC nowMs).phase = .warmup := by
    rw [(alike_movePhase _ _ _).phase, phase_advancePhase, hnext]
  unfold settlePhase
  simp only
  generalize controller.movePhase frame measuredTempC nowMs = moved at hmoved hphase ⊢
  rw [if_neg (by simp [hphase]), updateCoastState, if_pos (by simp [hmoved])]
  exact hmoved

/-! ## The state that an update admits -/

theorem standing_admitted (measuredTempC : ℚ) (target : ThermalControlTarget)
    (elapsedMs nowMs : ℕ) :
    (controller.admitted forecast measuredTempC target elapsedMs nowMs).standing =
        { controller.standing with heaterWasEnabled := true } ∧
      (controller.admitted forecast measuredTempC target elapsedMs nowMs).phase =
        controller.phase := by
  unfold admitted
  simp only
  generalize htimed : (if controller.controlMeasurementAccepted then
    { controller with lastAcceptedMeasurementAtMs := some nowMs } else controller) = timed
  have htimed' : Alike timed controller := by
    rw [← htimed]
    exact .ite (fun _ => ⟨rfl, rfl⟩) fun _ => .refl _
  generalize hstarted : (if timed.heaterWasEnabled then timed
    else { timed with warmupStartedAtMs := some nowMs }) = started
  have hstarted' : Alike started controller := by
    refine Alike.trans ?_ htimed'
    rw [← hstarted]
    exact .ite (fun _ => .refl _) fun _ => ⟨rfl, rfl⟩
  generalize henabled : ({ started with
    heaterWasEnabled := true
    profileLastControlAtMs := some nowMs
    appliedHeat := forecast.configureResponse started.appliedHeat started.heatResponse } :
      HeaterController History Trajectory) = enabled
  have hmeasured := (@alike_measureProfileTemperature _ _ forecast
    (enabled.observeTemperatureTransfer forecast nowMs measuredTempC) measuredTempC
    target.settings.tempFilterAlpha elapsedMs).trans
      (alike_observeTemperatureTransfer nowMs measuredTempC)
  have hstanding : enabled.standing = { started.standing with heaterWasEnabled := true } := by
    rw [← henabled]
    rfl
  have hphase : enabled.phase = started.phase := by rw [← henabled]
  exact ⟨by rw [hmeasured.standing, hstanding, hstarted'.standing],
    by rw [hmeasured.phase, hphase, hstarted'.phase]⟩

theorem admitted_of_refused (hrefused : controller.controlMeasurementAccepted = false)
    (measuredTempC : ℚ) (target : ThermalControlTarget) (elapsedMs nowMs : ℕ) :
    controller.admitted forecast measuredTempC target elapsedMs nowMs =
      { controller with
        warmupStartedAtMs :=
          if controller.heaterWasEnabled then controller.warmupStartedAtMs else some nowMs
        heaterWasEnabled := true
        profileLastControlAtMs := some nowMs
        profileMeasurementElapsedMs :=
          Usb.saturatingAddU64 controller.profileMeasurementElapsedMs elapsedMs
        appliedHeat := forecast.configureResponse controller.appliedHeat
          controller.heatResponse } := by
  have hinput : controller.naturalCoolingInput.all (·.measurementAccepted) = false := hrefused
  unfold admitted
  simp only [hrefused, Bool.false_eq_true, if_false]
  cases henabled : controller.heaterWasEnabled <;>
    simp [observeTemperatureTransfer, measureProfileTemperature, controlMeasurementAccepted, hinput]

theorem retarget_self {targetTempC lastTargetTempC : ℤ} (h : targetTempC = lastTargetTempC)
    (measuredTempC : ℚ) (nowMs : ℕ) :
    controller.retarget forecast targetTempC lastTargetTempC measuredTempC nowMs = controller :=
  if_neg (not_not.mpr h)

theorem standing_retarget (targetTempC lastTargetTempC : ℤ) (measuredTempC : ℚ) (nowMs : ℕ) :
    ∃ dutyPercent,
      (controller.retarget forecast targetTempC lastTargetTempC measuredTempC nowMs).standing =
        { controller.standing with dutyPercent := dutyPercent } := by
  unfold retarget
  by_cases h : targetTempC ≠ lastTargetTempC
  · rw [if_pos h]
    exact ⟨0, rfl⟩
  · rw [if_neg h]
    exact ⟨controller.dutyPercent, rfl⟩

/-! ## The driven controller -/

section Drive

variable (frame : ThermalControlFrame) (measuredTempC previousMeasuredTempC : ℚ) (nowMs : ℕ)

theorem standing_drive :
    (controller.drive forecast frame measuredTempC previousMeasuredTempC nowMs).1.standing =
      { controller.standing with
        dutyPercent :=
          (controller.drive forecast frame measuredTempC previousMeasuredTempC
            nowMs).2.dutyPercent } := by
  have hsettled := @standing_settlePhase _ _ controller frame measuredTempC previousMeasuredTempC
    nowMs
  rw [← hsettled]
  unfold drive
  simp only
  generalize controller.settlePhase frame measuredTempC previousMeasuredTempC nowMs = settled
  generalize (decide (controller.phase = .warmup) && decide (settled.phase = .approach)) = entered
  rw [← (@alike_requestDuty _ _ forecast settled frame entered).standing]
  rfl

theorem phase_drive :
    (controller.drive forecast frame measuredTempC previousMeasuredTempC nowMs).1.phase =
      controller.nextPhase frame :=
  (alike_requestDuty _ _).phase.trans (phase_settlePhase _ _ _ _)

theorem duty_drive_le :
    (controller.drive forecast frame measuredTempC previousMeasuredTempC nowMs).2.dutyPercent ≤
      100 :=
  requestDuty_le _ _

variable {frame}

theorem duty_drive_eq_zero (herror : frame.errorC ≤ 0)
    (hcutoff : frame.holdGuardErrorC ≤ -frame.controlTarget.overshootCutoffC) :
    (controller.drive forecast frame measuredTempC previousMeasuredTempC nowMs).2.dutyPercent = 0 :=
  requestDuty_eq_zero herror hcutoff _

/-- After a refused measurement the duty only rises into the warm-up. -/
theorem duty_drive_le_before (hphase : controller.nextPhase frame ≠ .warmup)
    (hrefused : controller.controlMeasurementAccepted = false) :
    (controller.drive forecast frame measuredTempC previousMeasuredTempC nowMs).2.dutyPercent ≤
      controller.dutyPercent := by
  have hsettled := @standing_settlePhase _ _ controller frame measuredTempC previousMeasuredTempC
    nowMs
  rw [← dutyPercent_of_standing hsettled]
  exact requestDuty_le_before (by rw [phase_settlePhase]; exact hphase)
    (by rw [accepted_of_standing hsettled]; exact hrefused) _ _

theorem duty_drive_of_warmup (hphase : controller.nextPhase frame = .warmup)
    (hcoast : controller.phase = .warmup → controller.holdCoastActive = false)
    (hcutoff : ¬frame.holdGuardErrorC ≤ -frame.controlTarget.overshootCutoffC) :
    (controller.drive forecast frame measuredTempC previousMeasuredTempC nowMs).2.dutyPercent =
      percentFromPermille frame.controlTarget.warmupPowerPermille :=
  requestDuty_of_warmup (by rw [phase_settlePhase]; exact hphase)
    (holdCoastActive_settlePhase hphase hcoast _ _ _) hcutoff _

end Drive

/-! ## The frame -/

theorem holdGuardError_of_neg {errorC : ℚ} (h : errorC < 0) (predictedErrorC : ℚ)
    (target : ThermalControlTarget) : holdGuardError errorC predictedErrorC target = errorC :=
  if_pos h

theorem holdGuardError_nonneg {errorC : ℚ} (h : 0 ≤ errorC) (predictedErrorC : ℚ)
    (target : ThermalControlTarget) : 0 ≤ holdGuardError errorC predictedErrorC target := by
  have hlag : (0.05 : ℚ) ≤ min (max target.holdOnErrorC 0.05) (max target.holdEntryErrorC 0.05) :=
    le_min (le_max_right _ _) (le_max_right _ _)
  rw [holdGuardError, if_neg (not_lt.mpr h)]
  exact le_min (le_max_right _ _) (by linarith)

theorem delayedBrakeC_pos (input : Option ThermalPlantRuntimeInput) (rate : Option ℚ)
    (targetTempC : ℤ) (measuredTempC : ℚ) (target : ThermalControlTarget)
    (slopeCPerS delayS : ℚ) :
    0.6 ≤ delayedBrakeC input rate targetTempC measuredTempC target slopeCPerS delayS := by
  refine le_max_of_le_left (le_max_of_le_right ?_)
  norm_num

/-- The brake distance lies outside of the band in which hold is entered. -/
theorem brakeDistance_pos (targetTempC : ℤ) (measuredTempC : ℚ) (target : ThermalControlTarget)
    (slopeCPerS : ℚ) :
    0.6 ≤ (controller.naturalCoolingGuidance forecast targetTempC measuredTempC target
      slopeCPerS).brakeDistanceC := by
  unfold naturalCoolingGuidance
  simp only
  cases hbrake : (controller.naturalCoolingInput.filter _).bind fun input =>
      controller.fullResponseBrake forecast input targetTempC measuredTempC
        target.brakeDistanceC with
  | none => exact delayedBrakeC_pos _ _ _ _ _ _ _
  | some brake =>
    obtain ⟨input, -, hinput⟩ := Option.bind_eq_some_iff.mp hbrake
    simp only [fullResponseBrake, Option.bind_eq_bind, Option.bind_eq_some_iff] at hinput
    obtain ⟨response, -, predicted, -, hclamped⟩ := hinput
    obtain rfl := Option.some.inj hclamped
    refine le_trans ?_ (le_clampQ _ _ _)
    norm_num

/-! ## The update -/

section Update

variable {targetTempC : ℤ} {measuredTempC : ℚ} {heaterEnabled : Bool}
  {profile : Option ThermalControlProfile} {nowMs : ℕ}

/-- The controller heats in an update: it is asked to, no fault is latched, and the measurement
is below the hard cut-off. -/
structure Heats (controller : HeaterController History Trajectory) (measuredTempC : ℚ)
    (heaterEnabled : Bool) : Prop where
  enabled : heaterEnabled = true
  unfaulted : controller.faultLatched = none
  below : measuredTempC < heaterHardCutoffTempC

theorem fault_advanceMeasurementHistory :
    (controller.advanceMeasurementHistory measuredTempC).faultLatched = controller.faultLatched :=
  congrArg Standing.faultLatched (alike_advanceMeasurementHistory measuredTempC).standing

/-- What an update leaves that does not heat. -/
structure TurnedOff (controller before : HeaterController History Trajectory)
    (targetTempC : ℤ) (measuredTempC : ℚ) : Prop where
  phase : controller.phase = .warmup
  heaterWasEnabled : controller.heaterWasEnabled = false
  dutyPercent : controller.dutyPercent = 0
  faultLatched : controller.faultLatched =
    if heaterHardCutoffTempC ≤ measuredTempC then some .overTemp else before.faultLatched
  lastTargetTempC : controller.lastTargetTempC = clampTarget targetTempC

theorem updateAt_off (h : ¬controller.Heats measuredTempC heaterEnabled) :
    (controller.updateAt forecast targetTempC measuredTempC heaterEnabled profile
        nowMs).2.dutyPercent = 0 ∧
      TurnedOff (controller.updateAt forecast targetTempC measuredTempC heaterEnabled profile
        nowMs).1 controller targetTempC measuredTempC := by
  unfold updateAt
  simp only
  generalize hadvanced : ({ controller with
    lastTargetTempC := clampTarget targetTempC }.advanceMeasurementHistory measuredTempC) = advanced
  have hfault : advanced.faultLatched = controller.faultLatched := by
    rw [← hadvanced, fault_advanceMeasurementHistory]
  have htarget : advanced.lastTargetTempC = clampTarget targetTempC := by
    rw [← hadvanced]
    exact congrArg Standing.lastTargetTempC
      (alike_advanceMeasurementHistory measuredTempC).standing
  by_cases hhot : heaterHardCutoffTempC ≤ measuredTempC
  · simp only [hhot, if_true]
    rw [if_pos (by simp [latchFault])]
    exact ⟨rfl, rfl, rfl, rfl, by rw [if_pos hhot]; rfl, htarget⟩
  · simp only [hhot, if_false]
    have hoff : (!heaterEnabled || advanced.faultLatched.isSome) = true := by
      by_contra hon
      rw [hfault] at hon
      simp only [Bool.or_eq_true, Bool.not_eq_true', not_or, Bool.not_eq_false] at hon
      exact h ⟨hon.1, Option.not_isSome_iff_eq_none.mp hon.2, not_le.mp hhot⟩
    rw [if_pos hoff]
    exact ⟨rfl, rfl, rfl, rfl, by rw [if_neg hhot]; exact hfault, htarget⟩

theorem updateAt_on (h : controller.Heats measuredTempC heaterEnabled) :
    controller.updateAt forecast targetTempC measuredTempC heaterEnabled profile nowMs =
      ({ controller with
        lastTargetTempC := clampTarget targetTempC }.advanceMeasurementHistory measuredTempC).heat
        forecast (clampTarget targetTempC) controller.lastTargetTempC measuredTempC
        (controller.previousMeasurement measuredTempC) profile nowMs := by
  unfold updateAt
  simp only
  rw [if_neg (not_le.mpr h.below), if_neg]
  rw [fault_advanceMeasurementHistory]
  simp [h.enabled, h.unfaulted]

/-- What an update leaves that heats. -/
structure TurnedOn (controller before : HeaterController History Trajectory)
    (targetTempC : ℤ) (answered : ℕ) : Prop where
  heaterWasEnabled : controller.heaterWasEnabled = true
  dutyPercent : controller.dutyPercent = answered
  answered_le : answered ≤ 100
  faultLatched : controller.faultLatched = before.faultLatched
  lastTargetTempC : controller.lastTargetTempC = clampTarget targetTempC
  hold : before.phase = .hold → clampTarget targetTempC = before.lastTargetTempC →
    controller.phase = .hold

theorem turnedOn_updateAt (h : controller.Heats measuredTempC heaterEnabled) :
    TurnedOn (controller.updateAt forecast targetTempC measuredTempC heaterEnabled profile
        nowMs).1 controller targetTempC
      (controller.updateAt forecast targetTempC measuredTempC heaterEnabled profile
        nowMs).2.dutyPercent := by
  rw [updateAt_on h, heat]
  have hadvanced := @alike_advanceMeasurementHistory _ _
    { controller with lastTargetTempC := clampTarget targetTempC } measuredTempC
  generalize ({ controller with
    lastTargetTempC := clampTarget targetTempC }.advanceMeasurementHistory measuredTempC) = advanced
    at hadvanced ⊢
  obtain ⟨duty, hretarget⟩ := @standing_retarget _ _ forecast advanced (clampTarget targetTempC)
    controller.lastTargetTempC measuredTempC nowMs
  have hsame : clampTarget targetTempC = controller.lastTargetTempC →
      advanced.retarget forecast (clampTarget targetTempC) controller.lastTargetTempC
        measuredTempC nowMs = advanced := fun htarget => retarget_self htarget _ _
  generalize advanced.retarget forecast (clampTarget targetTempC) controller.lastTargetTempC
    measuredTempC nowMs = aimed at hretarget hsame ⊢
  obtain ⟨hstanding, hphase⟩ := @standing_admitted _ _ forecast aimed measuredTempC
    (controlTargetFor profile (clampTarget targetTempC)) (aimed.profileControlElapsedMs nowMs)
    nowMs
  generalize aimed.admitted forecast measuredTempC
    (controlTargetFor profile (clampTarget targetTempC)) (aimed.profileControlElapsedMs nowMs)
    nowMs = before at hstanding hphase ⊢
  generalize before.controlFrame forecast _ _ _ _ _ = frame
  have hdriven := @standing_drive _ _ forecast before frame measuredTempC
    (controller.previousMeasurement measuredTempC) nowMs
  rw [hstanding, hretarget, hadvanced.standing] at hdriven
  refine ⟨congrArg Standing.heaterWasEnabled hdriven, congrArg Standing.dutyPercent hdriven,
    duty_drive_le _ _ _ _, congrArg Standing.faultLatched hdriven,
    congrArg Standing.lastTargetTempC hdriven, fun hhold htarget => ?_⟩
  rw [phase_drive, nextPhase, hphase, hsame htarget, hadvanced.phase, hhold]

/-- At or above the target and its overshoot cut-off an update asks for nothing. -/
theorem duty_updateAt_of_overshoot (h : clampTarget targetTempC +
      (controlTargetFor profile (clampTarget targetTempC)).overshootCutoffC ≤ measuredTempC) :
    (controller.updateAt forecast targetTempC measuredTempC heaterEnabled profile
      nowMs).2.dutyPercent = 0 := by
  by_cases hheats : controller.Heats measuredTempC heaterEnabled
  · have hcutoff := (qualified_controlTargetFor profile
      (clampTarget targetTempC)).overshootCutoff_pos
    have herror : (clampTarget targetTempC : ℚ) - measuredTempC < 0 := by linarith
    rw [updateAt_on hheats, heat]
    refine duty_drive_eq_zero _ _ _ herror.le ?_
    change holdGuardError _ _ _ ≤ _
    rw [holdGuardError_of_neg herror]
    change _ ≤ -(controlTargetFor profile (clampTarget targetTempC)).overshootCutoffC
    linarith
  · exact (updateAt_off hheats).1

/-! ### A refused measurement -/

/-- The brake distance of an update whose measurement is refused.  It is read off the state
before: the slope stays, and nothing is observed. -/
def refusedBrakeC (forecast : HeatForecast History Trajectory)
    (controller : HeaterController History Trajectory) (targetTempC : ℤ) (measuredTempC : ℚ)
    (target : ThermalControlTarget) : ℚ :=
  ({ controller with
    appliedHeat := forecast.configureResponse controller.appliedHeat
      controller.heatResponse }.naturalCoolingGuidance forecast targetTempC measuredTempC target
    controller.filteredSlopeCPerProfileTick).brakeDistanceC

/-- An update with a refused measurement goes on warming up, or goes back to it: out of the
approach of a plant without a model, when the temperature is far enough below. -/
def Rewarms (forecast : HeatForecast History Trajectory)
    (controller : HeaterController History Trajectory) (targetTempC : ℤ) (measuredTempC : ℚ)
    (target : ThermalControlTarget) : Prop :=
  match controller.phase with
  | .warmup =>
      controller.refusedBrakeC forecast targetTempC measuredTempC target <
        targetTempC - measuredTempC
  | .approach =>
      controller.modelApproachAvailable = false ∧
        controller.refusedBrakeC forecast targetTempC measuredTempC target +
          target.warmupReenterErrorC ≤ targetTempC - measuredTempC
  | .hold => False

/-- A controller that was just started over with a measurement. -/
structure FreshAt (controller : HeaterController History Trajectory) (measuredTempC : ℚ) :
    Prop where
  phase : controller.phase = .warmup
  dutyPercent : controller.dutyPercent = 0
  coast : controller.holdCoastActive = false
  measured : controller.previousMeasuredTempC = some measuredTempC
  filtered : controller.filteredTempC = some measuredTempC
  slope : controller.filteredSlopeCPerProfileTick = 0

/-- With one measurement only, the warm-up ends inside the brake distance. -/
theorem warmupHandoffReady_fresh {errorC brakeDistanceC handoffErrorC : ℚ}
    (hbrake : 0.6 ≤ brakeDistanceC) (hhandoff : handoffErrorC = brakeDistanceC) :
    warmupHandoffReady errorC errorC errorC brakeDistanceC handoffErrorC =
      decide (errorC ≤ brakeDistanceC) := by
  subst hhandoff
  unfold warmupHandoffReady
  rw [decide_eq_decide]
  norm_num at hbrake ⊢
  constructor
  · rintro (⟨hle, -⟩ | ⟨hle, -⟩) <;> exact hle
  · intro hle
    exact .inl ⟨hle, by linarith, by linarith, by linarith⟩

theorem warmupHandoffErrorC_still {brakeDistanceC warmupReenterErrorC : ℚ}
    (hbrake : 0 ≤ brakeDistanceC) (approachLeadTicks : ℕ) :
    warmupHandoffErrorC brakeDistanceC warmupReenterErrorC 0 approachLeadTicks =
      brakeDistanceC := by
  have hmargin : 0 ≤ max (warmupReenterErrorC - heaterHoldPhaseHysteresisC) 0 := le_max_right _ _
  simp only [warmupHandoffErrorC, max_self, zero_mul, max_eq_right hbrake]
  exact min_eq_left (by linarith)

theorem nextPhase_of_refused {before : HeaterController History Trajectory}
    {target : ThermalControlTarget} {targetTempC : ℤ} {previousMeasuredTempC : ℚ} {elapsedMs : ℕ}
    (hphase : before.phase = controller.phase)
    (hinput : before.naturalCoolingInput = controller.naturalCoolingInput)
    (hbrake : (before.controlFrame forecast targetTempC measuredTempC previousMeasuredTempC target
      elapsedMs).brakeDistanceC = controller.refusedBrakeC forecast targetTempC measuredTempC target)
    (hfresh : controller.phase = .warmup → before.filteredTempC = some measuredTempC ∧
      before.filteredSlopeCPerProfileTick = 0 ∧ previousMeasuredTempC = measuredTempC) :
    before.nextPhase (before.controlFrame forecast targetTempC measuredTempC
        previousMeasuredTempC target elapsedMs) = .warmup ↔
      controller.Rewarms forecast targetTempC measuredTempC target := by
  have hmodel : before.modelApproachAvailable = controller.modelApproachAvailable := by
    rw [modelApproachAvailable, hinput, modelApproachAvailable]
  have hpos := @brakeDistance_pos _ _ forecast before targetTempC measuredTempC target
    before.filteredSlopeCPerProfileTick
  unfold nextPhase Rewarms
  rw [hphase, ← hbrake]
  cases hcurrent : controller.phase with
  | hold => simp
  | approach =>
    rw [← hmodel]
    have hreenters : before.reentersWarmup (before.controlFrame forecast targetTempC
        measuredTempC previousMeasuredTempC target elapsedMs) = true ↔
        before.modelApproachAvailable = false ∧
          (before.controlFrame forecast targetTempC measuredTempC previousMeasuredTempC target
            elapsedMs).brakeDistanceC + target.warmupReenterErrorC ≤
              targetTempC - measuredTempC := by
      rw [reentersWarmup, Bool.and_eq_true, Bool.not_eq_true', decide_eq_true_eq]
      exact Iff.rfl
    simp only
    rw [← hreenters]
    split_ifs with hre <;> simp [hre]
  | warmup =>
    obtain ⟨hfiltered, hslope, hprevious⟩ := hfresh hcurrent
    have hready : warmupHandoffReady (targetTempC - measuredTempC)
        (targetTempC - measuredTempC) (targetTempC - measuredTempC)
        (before.controlFrame forecast targetTempC measuredTempC previousMeasuredTempC target
          elapsedMs).brakeDistanceC
        (before.controlFrame forecast targetTempC measuredTempC previousMeasuredTempC target
          elapsedMs).warmupHandoffErrorC =
          decide ((targetTempC - measuredTempC : ℚ) ≤
            (before.controlFrame forecast targetTempC measuredTempC previousMeasuredTempC target
              elapsedMs).brakeDistanceC) := by
      refine warmupHandoffReady_fresh hpos ?_
      unfold controlFrame
      simp only
      split
      · rfl
      · rw [hslope]
        exact warmupHandoffErrorC_still (le_trans (by norm_num) (hslope ▸ hpos)) _
    have herror : (before.controlFrame forecast targetTempC measuredTempC previousMeasuredTempC
        target elapsedMs).controlErrorC = targetTempC - measuredTempC := by
      simp [controlFrame, hfiltered]
    simp only
    rw [herror]
    change (if warmupHandoffReady (targetTempC - measuredTempC)
      (targetTempC - previousMeasuredTempC) _ _ _ = true then _ else _) = _ ↔ _
    rw [hprevious] at hready ⊢
    rw [hready, ← not_le]
    simp only [decide_eq_true_eq, ite_eq_right_iff, reduceCtorEq, imp_false]

/-- A state that differs from the one before an update only in its clocks, in its target and in
what the forecast is configured with. -/
structure Unobserved (forecast : HeatForecast History Trajectory)
    (before controller : HeaterController History Trajectory) (targetTempC : ℤ) : Prop where
  standing : before.standing = { controller.standing with
    lastTargetTempC := targetTempC, heaterWasEnabled := true }
  phase : before.phase = controller.phase
  coast : before.holdCoastActive = controller.holdCoastActive
  filtered : before.filteredTempC = controller.filteredTempC
  slope : before.filteredSlopeCPerProfileTick = controller.filteredSlopeCPerProfileTick
  accepted : before.lastAcceptedMeasurementAtMs = controller.lastAcceptedMeasurementAtMs
  heat : before.appliedHeat =
    forecast.configureResponse controller.appliedHeat controller.heatResponse

theorem unobserved_admitted (hrefused : controller.controlMeasurementAccepted = false)
    (target : ThermalControlTarget) (elapsedMs : ℕ) :
    Unobserved forecast ({ controller with lastTargetTempC := targetTempC }.admitted forecast
      measuredTempC target elapsedMs nowMs) controller targetTempC := by
  have hrefused' : ({ controller with lastTargetTempC := targetTempC } :
      HeaterController History Trajectory).controlMeasurementAccepted = false := hrefused
  rw [admitted_of_refused hrefused']
  exact ⟨rfl, rfl, rfl, rfl, rfl, rfl, rfl⟩

/-- An update with a refused measurement at the same target drives from an unobserved state. -/
theorem updateAt_of_refused (hheats : controller.Heats measuredTempC heaterEnabled)
    (hrefused : controller.controlMeasurementAccepted = false)
    (htarget : clampTarget targetTempC = controller.lastTargetTempC) :
    ∃ before : HeaterController History Trajectory, ∃ elapsedMs : ℕ,
      Unobserved forecast before controller (clampTarget targetTempC) ∧
      controller.updateAt forecast targetTempC measuredTempC heaterEnabled profile nowMs =
        before.drive forecast
          (before.controlFrame forecast (clampTarget targetTempC) measuredTempC
            (controller.previousMeasurement measuredTempC)
            (controlTargetFor profile (clampTarget targetTempC)) elapsedMs)
          measuredTempC (controller.previousMeasurement measuredTempC) nowMs := by
  have hadvance : ({ controller with
      lastTargetTempC := clampTarget targetTempC }.advanceMeasurementHistory measuredTempC) =
      { controller with lastTargetTempC := clampTarget targetTempC } :=
    if_neg (by rw [Bool.not_eq_true]; exact hrefused)
  rw [updateAt_on hheats, heat, hadvance, retarget_self htarget]
  exact ⟨_, _, unobserved_admitted hrefused _ _, rfl⟩

/-- The duty after a refused measurement at the same target: full power if the controller warms
up again, and otherwise at most the duty before. -/
theorem duty_updateAt_of_refused (hheats : controller.Heats measuredTempC heaterEnabled)
    (hrefused : controller.controlMeasurementAccepted = false)
    (htarget : clampTarget targetTempC = controller.lastTargetTempC)
    (hfresh : controller.phase = .warmup → controller.FreshAt measuredTempC) :
    (controller.Rewarms forecast (clampTarget targetTempC) measuredTempC
        (controlTargetFor profile (clampTarget targetTempC)) →
      (controller.updateAt forecast targetTempC measuredTempC heaterEnabled profile
        nowMs).2.dutyPercent = 100) ∧
    (¬controller.Rewarms forecast (clampTarget targetTempC) measuredTempC
        (controlTargetFor profile (clampTarget targetTempC)) →
      (controller.updateAt forecast targetTempC measuredTempC heaterEnabled profile
        nowMs).2.dutyPercent ≤ controller.dutyPercent) := by
  have hqualified := qualified_controlTargetFor profile (clampTarget targetTempC)
  obtain ⟨before, elapsedMs, hbefore, hupdate⟩ := @updateAt_of_refused _ _ forecast controller
    targetTempC measuredTempC heaterEnabled profile nowMs hheats hrefused htarget
  rw [hupdate]
  generalize controlTargetFor profile (clampTarget targetTempC) = target at hqualified ⊢
  have hinput : before.naturalCoolingInput = controller.naturalCoolingInput :=
    congrArg Standing.naturalCoolingInput hbefore.standing
  have hresponse : before.heatResponse = controller.heatResponse :=
    congrArg Standing.heatResponse hbefore.standing
  have hbrake : (before.naturalCoolingGuidance forecast (clampTarget targetTempC) measuredTempC
      target before.filteredSlopeCPerProfileTick).brakeDistanceC =
      controller.refusedBrakeC forecast (clampTarget targetTempC) measuredTempC target := by
    simp only [refusedBrakeC, naturalCoolingGuidance, fullResponseBrake, hinput, hresponse,
      hbefore.heat, hbefore.accepted, hbefore.slope]
  have hnext := @nextPhase_of_refused _ _ forecast controller measuredTempC before target
    (clampTarget targetTempC) (controller.previousMeasurement measuredTempC) elapsedMs
    hbefore.phase hinput hbrake fun hwarm => by
      have hstart := hfresh hwarm
      refine ⟨hbefore.filtered.trans hstart.filtered, hbefore.slope.trans hstart.slope, ?_⟩
      simp [previousMeasurement, hstart.measured]
  constructor
  · intro hrewarms
    have hpos : 0 ≤ (clampTarget targetTempC : ℚ) - measuredTempC := by
      have hbrakePos := @brakeDistance_pos _ _ forecast before (clampTarget targetTempC)
        measuredTempC target before.filteredSlopeCPerProfileTick
      have hreenter := hqualified.warmupReenter_nonneg
      rw [hbrake] at hbrakePos
      norm_num at hbrakePos
      unfold Rewarms at hrewarms
      split at hrewarms
      · linarith
      · linarith [hrewarms.2]
      · exact hrewarms.elim
    have hguard := @holdGuardError_nonneg _ hpos
      (before.controlFrame forecast (clampTarget targetTempC) measuredTempC
        (controller.previousMeasurement measuredTempC) target elapsedMs).holdControlErrorC target
    have hcutoff := hqualified.overshootCutoff_pos
    refine (duty_drive_of_warmup _ _ _ (hnext.mpr hrewarms) (fun hwarm => ?_) ?_).trans ?_
    · exact hbefore.coast.trans (hfresh (hbefore.phase ▸ hwarm)).coast
    · change ¬holdGuardError _ _ target ≤ -target.overshootCutoffC
      refine not_le.mpr (lt_of_lt_of_le ?_ hguard)
      linarith
    · change percentFromPermille target.warmupPowerPermille = 100
      rw [hqualified.warmupPower, percentFromPermille_full]
  · intro hcools
    refine (duty_drive_le_before _ _ _ (fun hwarm => hcools (hnext.mp hwarm)) ?_).trans
      (le_of_eq (congrArg Standing.dutyPercent hbefore.standing))
    rw [controlMeasurementAccepted, hinput]
    exact hrefused

end Update

end HeaterController

end FluxPurr.Thermal
