import FluxPurr.Devd.Mock.ShownRequest

/-!
# When a calibration request changes nothing

`CalibrationSettled` is what the device needs, beside what the status shows, for a calibration
request to change nothing (`applyCalibration_eq_of_settled`, `settled_of_applyCalibration_eq`).
-/

namespace FluxPurr.Devd.Mock

open FluxPurr.Devd.Mock.ControlPlaneStatus
open CalibrationRuntimeState

variable {status status' : ControlPlaneStatus}

/-- The supply is requested at this voltage, and there is no error. -/
structure SuppliedAt (status : ControlPlaneStatus) (millivolts : UInt16) : Prop where
  pdRequestMv : status.pdRequestMv = millivolts
  pdContractMv : status.pdContractMv = millivolts
  voltageMv : status.voltageMv = millivolts.toUInt32
  manualPpsError : status.manualPpsError = none

theorem eq_of_suppliedAt {millivolts : UInt16} {milliamps : Option UInt16}
    (hsupplied : SuppliedAt status millivolts) (henabled : status.manualPpsEnabled = true)
    (hmv : status.manualPpsMv = some millivolts) (hma : status.manualPpsMa = milliamps) :
    status.requestPps millivolts milliamps = status := by
  obtain ⟨hrequest, hcontract, hvoltage, herror⟩ := hsupplied
  rw [ControlPlaneStatus.ext_iff]
  simp only [requestPps, henabled, hmv, hma, hrequest, hcontract, hvoltage, herror, and_self]

/-- The calibration concerns the supply, the heater and itself. -/
theorem applyMockCalibrationRuntimeConfig_frame (status : ControlPlaneStatus)
    (calibration : CalibrationControlRequest) :
    let status' := applyMockCalibrationRuntimeConfig status calibration
    status' =
      { status with
        manualPpsEnabled := status'.manualPpsEnabled
        manualPpsMv := status'.manualPpsMv
        manualPpsMa := status'.manualPpsMa
        pdRequestMv := status'.pdRequestMv
        pdContractMv := status'.pdContractMv
        voltageMv := status'.voltageMv
        manualPpsError := status'.manualPpsError
        calibration := status'.calibration
        heaterEnabled := calibration.heaterEnabled.getD status.heaterEnabled
        heaterOutputPercent :=
          if calibration.heaterEnabled = some false then 0 else status.heaterOutputPercent } := by
  intro status'
  show applyMockCalibrationRuntimeConfig status calibration = _
  simp only [status', applyMockCalibrationRuntimeConfig]
  split
  · rfl
  · split <;> rfl

/-! ## The calibration -/

/-- What a calibration request needs, beside what the status shows, to change nothing. -/
structure CalibrationSettled (calibration : CalibrationControlRequest)
    (status : ControlPlaneStatus) : Prop where
  /-- A calibration that is switched off has only what the request gives it. -/
  off : calibration.mode = some .off →
    status.calibration.job = {} ∧
      (calibration.targetAdcMv = none → status.calibration.targetAdcMv = none) ∧
      (calibration.heaterEnabled = none → status.calibration.heaterEnabled = false) ∧
      (calibration.setsPps = false →
        status.calibration.ppsEnabled = false ∧ status.calibration.ppsMv = none ∧
          status.calibration.ppsMa = none ∧ status.calibration.error = none) ∧
      (calibration.ppsEnabled = some false →
        status.calibration.stable = false ∧ status.calibration.stabilityErrorMv = none)
  ppsOff : calibration.ppsEnabled = some false →
    status.calibration.ppsMv = none ∧ status.calibration.ppsMa = none
  /-- The supply is at the voltage of the calibration, and the manual request as well. -/
  ppsOn : calibration.setsPps = true →
    ∃ millivolts, SuppliedAt status millivolts ∧ status.manualPpsEnabled = true ∧
      status.manualPpsMv = some millivolts ∧
      (effectivePpsCurrentCapabilityMa status).or status.manualPpsMa = status.manualPpsMa ∧
      status.calibration.ppsEnabled = true ∧ status.calibration.ppsMv = some millivolts ∧
      status.calibration.ppsMa = status.manualPpsMa ∧ status.calibration.error = none
  stability : calibration.ppsEnabled ≠ some false →
    status.calibration.stabilityErrorMv = stabilityError status ∧
      status.calibration.stable = (stabilityError status).any fun error => error.abs ≤ 8
  heaterOutput : calibration.heaterEnabled = some false → status.heaterOutputPercent = 0

section Calibration

variable {calibration : CalibrationControlRequest}

theorem applyCalibrationMode_of_on (h : CalibrationShown calibration status)
    (hmode : calibration.mode ≠ some .off) :
    applyCalibrationMode calibration status.calibration = status.calibration := by
  have hstate : applyCalibrationMode calibration status.calibration =
      { status.calibration with
        mode := calibration.mode.getD status.calibration.mode
        targetAdcMv := calibration.targetAdcMv.or status.calibration.targetAdcMv
        heaterEnabled := calibration.heaterEnabled.getD status.calibration.heaterEnabled } := by
    rw [applyCalibrationMode]
    cases hcase : calibration.mode with
    | none => rfl
    | some mode =>
      cases mode with
      | off => exact absurd hcase hmode
      | rtdAdc => rfl
      | vinAdc => rfl
      | heaterCurve => rfl
      | thermalPlant => rfl
  rw [hstate, h.mode, h.targetAdcMv, h.heaterEnabled.1]

theorem applyCalibrationMode_of_off (hmode : calibration.mode = some .off)
    (state : CalibrationRuntimeState) :
    applyCalibrationMode calibration state =
      { targetAdcMv := calibration.targetAdcMv
        heaterEnabled := calibration.heaterEnabled.getD false } := by
  simp only [applyCalibrationMode, hmode, Option.or_none]

/-- The status before the PPS fields of the calibration are looked at. -/
def withCalibrationMode (status : ControlPlaneStatus) (calibration : CalibrationControlRequest) :
    ControlPlaneStatus :=
  { status with
    calibration := applyCalibrationMode calibration status.calibration
    heaterEnabled := calibration.heaterEnabled.getD status.heaterEnabled
    heaterOutputPercent :=
      if calibration.heaterEnabled = some false then 0 else status.heaterOutputPercent }

theorem applyCalibration_of_ppsOff (h : calibration.ppsEnabled = some false) :
    applyMockCalibrationRuntimeConfig status calibration =
      { withCalibrationMode status calibration with
        calibration :=
          { applyCalibrationMode calibration status.calibration with
            ppsEnabled := false
            ppsMv := none
            ppsMa := none } } := by
  rw [applyMockCalibrationRuntimeConfig, if_pos h]
  rfl

theorem applyCalibration_of_ppsOn (h : calibration.setsPps = true) :
    applyMockCalibrationRuntimeConfig status calibration =
      refreshStability
        (applyCalibrationPps calibration (withCalibrationMode status calibration)) := by
  have hon : calibration.ppsEnabled ≠ some false := by
    intro hoff
    simp [CalibrationControlRequest.setsPps, hoff] at h
  rw [applyMockCalibrationRuntimeConfig, if_neg hon, if_pos h]
  rfl

theorem applyCalibration_of_neither (hoff : calibration.ppsEnabled ≠ some false)
    (h : calibration.setsPps = false) :
    applyMockCalibrationRuntimeConfig status calibration =
      refreshStability (withCalibrationMode status calibration) := by
  rw [applyMockCalibrationRuntimeConfig, if_neg hoff, if_neg (by simp [h])]
  rfl

theorem setsPps_eq_false_of_ppsOff (h : calibration.ppsEnabled = some false) :
    calibration.setsPps = false := by
  simp [CalibrationControlRequest.setsPps, h]

/-- The steps on the PPS fields keep the mode, the target, the heater and the job. -/
structure KeepsMode (state state' : CalibrationRuntimeState) : Prop where
  mode : state.mode = state'.mode
  heaterEnabled : state.heaterEnabled = state'.heaterEnabled
  targetAdcMv : state.targetAdcMv = state'.targetAdcMv
  job : state.job = state'.job

theorem keepsMode_applyCalibration (status : ControlPlaneStatus)
    (calibration : CalibrationControlRequest) :
    KeepsMode (applyCalibrationMode calibration status.calibration)
      (applyMockCalibrationRuntimeConfig status calibration).calibration := by
  rw [applyMockCalibrationRuntimeConfig]
  split
  · exact ⟨rfl, rfl, rfl, rfl⟩
  · split <;> exact ⟨rfl, rfl, rfl, rfl⟩

theorem stability_of_refresh (h : refreshStability status = status') :
    status'.calibration.stabilityErrorMv = stabilityError status' ∧
      status'.calibration.stable =
        (stabilityError status').any fun error => error.abs ≤ 8 := by
  subst h
  exact ⟨rfl, rfl⟩

theorem stabilityError_congr (hmode : status.calibration.mode = status'.calibration.mode)
    (htarget : status.calibration.targetAdcMv = status'.calibration.targetAdcMv)
    (hrtd : status.rtdRawAdcMv = status'.rtdRawAdcMv)
    (hvin : status.vinRawAdcMv = status'.vinRawAdcMv) :
    stabilityError status = stabilityError status' := by
  have hobserved (mode : CalibrationMode) : observedMv status mode = observedMv status' mode := by
    cases mode with
    | off => rfl
    | rtdAdc => exact hrtd
    | vinAdc => exact hvin
    | heaterCurve | thermalPlant => rfl
  rw [stabilityError, stabilityError, htarget, hmode, hobserved]

/-- Where the request is shown, its mode, target and heater are there already. -/
theorem keepsMode_of_settled (h : CalibrationShown calibration status)
    (hsettled : CalibrationSettled calibration status) :
    KeepsMode (applyCalibrationMode calibration status.calibration) status.calibration := by
  by_cases hmode : calibration.mode = some .off
  · obtain ⟨hjob, htarget, hheater, -⟩ := hsettled.off hmode
    have hshownMode := h.mode
    have hshownTarget := h.targetAdcMv
    have hshownHeater := h.heaterEnabled.1
    rw [hmode] at hshownMode
    rw [applyCalibrationMode_of_off hmode]
    refine ⟨hshownMode, ?_, ?_, hjob.symm⟩
    · cases hrequested : calibration.heaterEnabled with
      | none => exact (hheater hrequested).symm
      | some enabled => rw [hrequested] at hshownHeater; exact hshownHeater
    · cases hrequested : calibration.targetAdcMv with
      | none => exact (htarget hrequested).symm
      | some target => rw [hrequested] at hshownTarget; exact hshownTarget
  · rw [applyCalibrationMode_of_on h hmode]
    exact ⟨rfl, rfl, rfl, rfl⟩

/-- What is left of the calibration's own PPS request, if the request does not set it. -/
theorem pps_of_settled (h : CalibrationShown calibration status)
    (hsettled : CalibrationSettled calibration status) (hsets : calibration.setsPps = false) :
    let state := applyCalibrationMode calibration status.calibration
    state.ppsEnabled = status.calibration.ppsEnabled ∧ state.ppsMv = status.calibration.ppsMv ∧
      state.ppsMa = status.calibration.ppsMa ∧ state.error = status.calibration.error := by
  intro state
  by_cases hmode : calibration.mode = some .off
  · obtain ⟨-, -, -, hpps, -⟩ := hsettled.off hmode
    obtain ⟨henabled, hmv, hma, herror⟩ := hpps hsets
    simp only [state, applyCalibrationMode_of_off hmode, henabled, hmv, hma, herror, and_self]
  · simp only [state, applyCalibrationMode_of_on h hmode, and_self]

theorem stability_of_settled (h : CalibrationShown calibration status)
    (hsettled : CalibrationSettled calibration status)
    (hoff : calibration.ppsEnabled = some false) :
    let state := applyCalibrationMode calibration status.calibration
    state.stable = status.calibration.stable ∧
      state.stabilityErrorMv = status.calibration.stabilityErrorMv := by
  intro state
  by_cases hmode : calibration.mode = some .off
  · obtain ⟨-, -, -, -, hstability⟩ := hsettled.off hmode
    obtain ⟨hstable, herror⟩ := hstability hoff
    simp only [state, applyCalibrationMode_of_off hmode, hstable, herror, and_self]
  · simp only [state, applyCalibrationMode_of_on h hmode, and_self]

/-- The voltage of the calibration is the one that the status has twice. -/
theorem calibrationVoltage_of_settled (h : CalibrationShown calibration status)
    {millivolts : UInt16} (hmanual : status.manualPpsMv = some millivolts)
    (hcalibration : status.calibration.ppsMv = some millivolts) :
    calibrationPpsMv calibration
        { status with calibration := applyCalibrationMode calibration status.calibration } =
      millivolts := by
  have hshown := h.ppsMv
  rw [hcalibration] at hshown
  cases hrequested : calibration.ppsMv with
  | some requested =>
    rw [hrequested] at hshown
    rw [calibrationPpsMv, hrequested]
    exact Option.some.inj hshown
  | none =>
    rw [calibrationPpsMv, hrequested]
    by_cases hmode : calibration.mode = some .off
    · rw [applyCalibrationMode_of_off hmode, hmanual]
      rfl
    · rw [applyCalibrationMode_of_on h hmode, hcalibration]
      rfl

theorem heaterOutput_of_settled (hsettled : CalibrationSettled calibration status) :
    (if calibration.heaterEnabled = some false then 0 else status.heaterOutputPercent) =
      status.heaterOutputPercent := by
  split
  · next hheater => exact (hsettled.heaterOutput hheater).symm
  · rfl

theorem applyCalibration_eq_of_settled (h : CalibrationShown calibration status)
    (hsettled : CalibrationSettled calibration status) :
    applyMockCalibrationRuntimeConfig status calibration = status := by
  have hkeeps := keepsMode_of_settled h hsettled
  have hmode : withCalibrationMode status calibration =
      { status with
        calibration := applyCalibrationMode calibration status.calibration } := by
    rw [withCalibrationMode, h.heaterEnabled.2, heaterOutput_of_settled hsettled]
  generalize hstate : applyCalibrationMode calibration status.calibration = state at hkeeps
  by_cases hoff : calibration.ppsEnabled = some false
  · obtain ⟨-, -, -, herror⟩ := pps_of_settled h hsettled (setsPps_eq_false_of_ppsOff hoff)
    obtain ⟨hstable, hstability⟩ := stability_of_settled h hsettled hoff
    obtain ⟨hmv, hma⟩ := hsettled.ppsOff hoff
    have henabled := h.ppsEnabled
    rw [hoff] at henabled
    rw [applyCalibration_of_ppsOff hoff, hmode, hstate]
    refine congrArg (fun calibration => { status with calibration }) ?_
    exact CalibrationRuntimeState.ext hkeeps.mode henabled hmv.symm hma.symm hkeeps.heaterEnabled
      hkeeps.targetAdcMv (hstate ▸ hstable) (hstate ▸ hstability) (hstate ▸ herror) hkeeps.job
  · obtain ⟨hstability, hstable⟩ := hsettled.stability hoff
    cases hsets : calibration.setsPps with
    | false =>
      obtain ⟨henabled, hmv, hma, herror⟩ := pps_of_settled h hsettled hsets
      rw [hstate] at henabled hmv hma herror
      have hobserved : stabilityError { status with calibration := state } =
          stabilityError status :=
        stabilityError_congr hkeeps.mode hkeeps.targetAdcMv rfl rfl
      rw [applyCalibration_of_neither hoff hsets, hmode, hstate, refreshStability, hobserved]
      refine congrArg (fun calibration => { status with calibration }) ?_
      exact CalibrationRuntimeState.ext hkeeps.mode henabled hmv hma hkeeps.heaterEnabled
        hkeeps.targetAdcMv hstable.symm hstability.symm herror hkeeps.job
    | true =>
      obtain ⟨millivolts, hsupplied, hmanual, hmanualMv, hcapability, henabled, hmv, hma,
        herror⟩ := hsettled.ppsOn hsets
      have hvoltage : calibrationPpsMv calibration { status with calibration := state } =
          millivolts := hstate ▸ calibrationVoltage_of_settled h hmanualMv hmv
      let supplied : ControlPlaneStatus :=
        { status with calibration := { state with
            ppsEnabled := true
            ppsMv := some millivolts
            ppsMa := status.manualPpsMa
            error := none } }
      have hpps : applyCalibrationPps calibration { status with calibration := state } =
          supplied := by
        have hsame : SuppliedAt supplied millivolts := { hsupplied with }
        rw [← eq_of_suppliedAt hsame hmanual hmanualMv rfl, applyCalibrationPps, hvoltage]
        exact congrArg (fun ma => { supplied with
          calibration := { supplied.calibration with ppsMa := ma } }.requestPps millivolts ma)
          hcapability
      have hobserved : stabilityError supplied = stabilityError status :=
        stabilityError_congr hkeeps.mode hkeeps.targetAdcMv rfl rfl
      rw [applyCalibration_of_ppsOn hsets, hmode, hstate, hpps, refreshStability, hobserved]
      refine congrArg (fun calibration => { status with calibration }) ?_
      exact CalibrationRuntimeState.ext hkeeps.mode henabled.symm hmv.symm hma.symm
        hkeeps.heaterEnabled hkeeps.targetAdcMv hstable.symm hstability.symm herror.symm
        hkeeps.job

theorem settled_of_applyCalibration_eq
    (heq : applyMockCalibrationRuntimeConfig status calibration = status) :
    CalibrationSettled calibration status where
  off := by
    intro hmode
    have hkept := keepsMode_applyCalibration status calibration
    rw [heq, applyCalibrationMode_of_off hmode] at hkept
    refine ⟨hkept.job.symm, fun htarget => ?_, fun hheater => ?_, fun hsets => ?_, fun hoff => ?_⟩
    · rw [← hkept.targetAdcMv, htarget]
    · rw [← hkept.heaterEnabled, hheater]
      rfl
    · have hstate := congrArg ControlPlaneStatus.calibration heq
      by_cases hoff : calibration.ppsEnabled = some false
      · rw [applyCalibration_of_ppsOff hoff, applyCalibrationMode_of_off hmode] at hstate
        rw [← hstate]
        exact ⟨rfl, rfl, rfl, rfl⟩
      · rw [applyCalibration_of_neither hoff hsets, refreshStability, withCalibrationMode,
          applyCalibrationMode_of_off hmode] at hstate
        rw [← hstate]
        exact ⟨rfl, rfl, rfl, rfl⟩
    · have hstate := congrArg ControlPlaneStatus.calibration heq
      rw [applyCalibration_of_ppsOff hoff, applyCalibrationMode_of_off hmode] at hstate
      rw [← hstate]
      exact ⟨rfl, rfl⟩
  ppsOff := by
    intro hoff
    rw [applyCalibration_of_ppsOff hoff] at heq
    rw [← heq]
    exact ⟨rfl, rfl⟩
  ppsOn := by
    intro hsets
    rw [applyCalibration_of_ppsOn hsets] at heq
    have hcapability := congrArg ControlPlaneStatus.manualPpsMa heq
    have hcalibration := congrArg ControlPlaneStatus.calibration heq
    exact ⟨calibrationPpsMv calibration (withCalibrationMode status calibration),
      ⟨(congrArg pdRequestMv heq).symm,
        (congrArg pdContractMv heq).symm,
        (congrArg voltageMv heq).symm,
        (congrArg manualPpsError heq).symm⟩,
      (congrArg manualPpsEnabled heq).symm,
      (congrArg manualPpsMv heq).symm, hcapability,
      (congrArg ppsEnabled hcalibration).symm,
      (congrArg ppsMv hcalibration).symm,
      (congrArg ppsMa hcalibration).symm.trans hcapability,
      (congrArg error hcalibration).symm⟩
  stability := by
    intro hoff
    cases hsets : calibration.setsPps with
    | false => exact stability_of_refresh (applyCalibration_of_neither hoff hsets ▸ heq)
    | true => exact stability_of_refresh (applyCalibration_of_ppsOn hsets ▸ heq)
  heaterOutput := by
    intro hheater
    have houtput := congrArg heaterOutputPercent
      (applyMockCalibrationRuntimeConfig_frame status calibration)
    rw [heq] at houtput
    rw [houtput, hheater]
    rfl

end Calibration

end FluxPurr.Devd.Mock
