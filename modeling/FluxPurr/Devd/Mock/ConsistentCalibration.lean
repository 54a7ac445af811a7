import FluxPurr.Devd.Mock.SettledRequest

/-!
# What the heater, the calibration and the supply show of a request

The three steps of a request that set them after each other are the heater, the manual PPS request
and the calibration, and the last of them wins.  Each of the lemmas says when a part of the request
is shown nevertheless.
-/

namespace FluxPurr.Devd.Mock

variable {request : RuntimeConfigRequest}

/-! ## The heater and the calibration -/

theorem heater_shown_iff {manual : ControlPlaneStatus} {heaterEnabled : Bool}
    (hmanual : manual.heaterEnabled = request.heaterEnabled.getD heaterEnabled) :
    request.heaterEnabled.getD (applyCalibrationFields request manual).heaterEnabled =
        (applyCalibrationFields request manual).heaterEnabled ↔
      ∀ calibration, request.calibration = some calibration →
        ∀ enabled, calibration.heaterEnabled = some enabled →
          request.heaterEnabled.getD enabled = enabled := by
  cases hcalibration : request.calibration with
  | none =>
    refine iff_of_true ?_ fun _ h => nomatch h
    rw [applyCalibrationFields, hcalibration, hmanual]
    cases request.heaterEnabled <;> rfl
  | some calibration =>
    have hheater : (applyCalibrationFields request manual).heaterEnabled =
        calibration.heaterEnabled.getD manual.heaterEnabled := by
      rw [applyCalibrationFields, hcalibration]
      exact congrArg ControlPlaneStatus.heaterEnabled
        (applyMockCalibrationRuntimeConfig_frame manual calibration)
    rw [hheater, hmanual]
    cases henabled : calibration.heaterEnabled with
    | none =>
      refine iff_of_true ?_ ?_
      · cases request.heaterEnabled <;> rfl
      · rintro _ h enabled hnone
        obtain rfl := Option.some.inj h
        rw [henabled] at hnone
        cases hnone
    | some enabled =>
      constructor
      · rintro hshown _ h other hother
        obtain rfl := Option.some.inj h
        rw [henabled] at hother
        obtain rfl := Option.some.inj hother
        exact hshown
      · intro h
        exact h calibration rfl enabled henabled

theorem getD_getD {α : Type} (requested : Option α) (value : α) :
    requested.getD (requested.getD value) = requested.getD value := by
  cases requested <;> rfl

theorem or_or {α : Type} (requested value : Option α) :
    requested.or (requested.or value) = requested.or value := by
  cases requested <;> rfl

variable (calibration : CalibrationControlRequest) {status manual : ControlPlaneStatus}

theorem mode_applyCalibrationMode (state : CalibrationRuntimeState) :
    (applyCalibrationMode calibration state).mode = calibration.mode.getD state.mode := by
  rw [applyCalibrationMode]
  cases calibration.mode with
  | none => rfl
  | some mode => cases mode <;> rfl

theorem ppsEnabled_eq_none {calibration : CalibrationControlRequest}
    (hoff : calibration.ppsEnabled ≠ some false) (hsets : calibration.setsPps = false) :
    calibration.ppsEnabled = none ∧ calibration.ppsMv = none := by
  have hneither : calibration.ppsEnabled ≠ some true ∧ calibration.ppsMv = none := by
    simpa [CalibrationControlRequest.setsPps, hoff] using hsets
  refine ⟨?_, hneither.2⟩
  cases henabled : calibration.ppsEnabled with
  | none => rfl
  | some enabled =>
    cases enabled with
    | false => exact absurd henabled hoff
    | true => exact absurd henabled hneither.1

/-- What the calibration sets of the PPS fields, as far as the matcher looks at them. -/
theorem calibrationPps_shown_iff (status : ControlPlaneStatus)
    (calibration : CalibrationControlRequest) :
    let state := (applyMockCalibrationRuntimeConfig status calibration).calibration
    calibration.ppsEnabled.getD state.ppsEnabled = state.ppsEnabled ∧
        calibration.ppsMv.or state.ppsMv = state.ppsMv ↔
      (calibration.ppsEnabled = some false → calibration.ppsMv = none) := by
  intro state
  by_cases hoff : calibration.ppsEnabled = some false
  · simp only [state, applyCalibration_of_ppsOff hoff, hoff, Option.or_none, Option.getD_some,
      true_and, true_imp_iff]
  · refine iff_of_true ?_ fun h => absurd h hoff
    cases hsets : calibration.setsPps with
    | true =>
      simp only [state, applyCalibration_of_ppsOn hsets]
      show calibration.ppsEnabled.getD true = true ∧
        calibration.ppsMv.or (some (calibrationPpsMv calibration _)) = some _
      refine ⟨?_, ?_⟩
      · cases henabled : calibration.ppsEnabled with
        | none => rfl
        | some enabled =>
          cases enabled with
          | false => exact absurd henabled hoff
          | true => rfl
      · rw [calibrationPpsMv]
        cases calibration.ppsMv <;> rfl
    | false =>
      obtain ⟨henabled, hmv⟩ := ppsEnabled_eq_none hoff hsets
      rw [henabled, hmv]
      exact ⟨rfl, rfl⟩

/-- The calibration shows its own request, unless it asks for a voltage that is off. -/
theorem calibrationShown_apply_iff (status : ControlPlaneStatus)
    (calibration : CalibrationControlRequest) :
    CalibrationShown calibration (applyMockCalibrationRuntimeConfig status calibration) ↔
      (calibration.ppsEnabled = some false → calibration.ppsMv = none) := by
  refine Iff.trans ?_ (calibrationPps_shown_iff status calibration)
  constructor
  · intro h
    exact ⟨h.ppsEnabled, h.ppsMv⟩
  · rintro ⟨henabled, hmv⟩
    have hkept := keepsMode_applyCalibration status calibration
    refine ⟨?_, henabled, hmv, ⟨?_, ?_⟩, ?_⟩
    · rw [← hkept.mode, mode_applyCalibrationMode, getD_getD]
    · rw [← hkept.heaterEnabled]
      exact getD_getD calibration.heaterEnabled _
    · rw [applyMockCalibrationRuntimeConfig_frame status calibration]
      exact getD_getD calibration.heaterEnabled status.heaterEnabled
    · rw [← hkept.targetAdcMv]
      exact or_or calibration.targetAdcMv _

/-! ## The supply -/

/-- The status has the supply that the request names. -/
structure SupplyShown (request : RuntimeConfigRequest) (status : ControlPlaneStatus) : Prop where
  enabled : request.manualPpsEnabled.getD status.manualPpsEnabled = status.manualPpsEnabled
  millivolts : request.manualPpsMv.or status.manualPpsMv = status.manualPpsMv
  milliamps : request.manualPpsMa.or status.manualPpsMa = status.manualPpsMa

theorem requestsManualPps_eq_true (hrequests : requestsManualPps request = true) :
    request.manualPpsEnabled ≠ some false := by
  intro hoff
  simp [requestsManualPps, hoff] at hrequests

theorem manualPps_eq_none (hoff : request.manualPpsEnabled ≠ some false)
    (hrequests : requestsManualPps request = false) :
    request.manualPpsEnabled = none ∧ request.manualPpsMv = none ∧ request.manualPpsMa = none := by
  have hneither : (request.manualPpsEnabled ≠ some true ∧ request.manualPpsMv = none) ∧
      request.manualPpsMa = none := by
    simpa [requestsManualPps, hoff] using hrequests
  refine ⟨?_, hneither.1.2, hneither.2⟩
  cases henabled : request.manualPpsEnabled with
  | none => rfl
  | some enabled =>
    cases enabled with
    | false => exact absurd henabled hoff
    | true => exact absurd henabled hneither.1.1

theorem getD_true_eq_true_iff (enabled : Option Bool) :
    enabled.getD true = true ↔ enabled ≠ some false := by
  cases enabled with
  | none => simp
  | some enabled => cases enabled <;> simp

/-- The manual PPS request shows itself, unless it asks for a voltage that is off. -/
theorem supplyShown_manual_iff (hmanual : applyManualPpsFields request status = some manual) :
    SupplyShown request manual ↔
      (request.manualPpsEnabled = some false →
        request.manualPpsMv = none ∧ request.manualPpsMa = none) := by
  rcases applyManualPpsFields_cases hmanual with ⟨hoff, rfl⟩ | ⟨hrequests, millivolts, milliamps,
    hmv, hma, rfl⟩ | ⟨hoff, hrequests, rfl⟩
  · constructor
    · rintro ⟨-, hmv, hma⟩ -
      exact ⟨Option.or_none.symm.trans hmv, Option.or_none.symm.trans hma⟩
    · intro h
      obtain ⟨hmv, hma⟩ := h hoff
      exact ⟨by rw [hoff]; rfl, by rw [hmv]; rfl, by rw [hma]; rfl⟩
  · have hon := requestsManualPps_eq_true hrequests
    refine iff_of_true ⟨(getD_true_eq_true_iff _).mpr hon, ?_, ?_⟩ fun hoff => absurd hoff hon
    · show request.manualPpsMv.or (some millivolts) = some millivolts
      rw [← hmv, or_or]
    · show request.manualPpsMa.or (some milliamps) = some milliamps
      cases hrequested : request.manualPpsMa with
      | none => rfl
      | some requested => rw [hrequested] at hma; exact hma
  · obtain ⟨henabled, hmv, hma⟩ := manualPps_eq_none hoff hrequests
    refine iff_of_true ⟨?_, ?_, ?_⟩ fun hdisabled => absurd hdisabled hoff
    · rw [henabled]
      rfl
    · rw [hmv]
      rfl
    · rw [hma]
      rfl

/-- The supply that the manual PPS request names, if it names one. -/
theorem manualPps_of_requested (hmanual : applyManualPpsFields request status = some manual)
    (hon : request.manualPpsEnabled ≠ some false) :
    (∀ millivolts, request.manualPpsMv = some millivolts → manual.manualPpsMv = some millivolts) ∧
    (∀ milliamps, request.manualPpsMa = some milliamps →
      manual.manualPpsMa = some milliamps) := by
  have hshown := (supplyShown_manual_iff hmanual).mpr fun hoff => absurd hoff hon
  refine ⟨fun millivolts hrequested => ?_, fun milliamps hrequested => ?_⟩
  · rw [← hshown.millivolts, hrequested]
    rfl
  · rw [← hshown.milliamps, hrequested]
    rfl

theorem or_eq_iff {α : Type} (requested value : Option α) :
    requested.or value = value ↔ ∀ other, requested = some other → value = some other := by
  cases requested with
  | none => simp
  | some other => simp [eq_comm]

theorem ppsMv_applyCalibrationMode (state : CalibrationRuntimeState) :
    (applyCalibrationMode calibration state).ppsMv =
      if calibration.mode = some .off then none else state.ppsMv := by
  rw [applyCalibrationMode]
  cases calibration.mode with
  | none => rfl
  | some mode => cases mode <;> rfl

theorem calibrationPpsMv_of_manual {manual : ControlPlaneStatus} {millivolts : UInt16}
    (hmv : manual.manualPpsMv = some millivolts) :
    calibrationPpsMv calibration (withCalibrationMode manual calibration) =
      (calibration.ppsMv.or (if calibration.mode = some .off then none
        else manual.calibration.ppsMv)).getD millivolts := by
  show ((calibration.ppsMv.or (applyCalibrationMode calibration manual.calibration).ppsMv).or
    manual.manualPpsMv).getD manual.pdContractMv = _
  rw [ppsMv_applyCalibrationMode, hmv]
  cases calibration.ppsMv.or (if calibration.mode = some .off then none
    else manual.calibration.ppsMv) <;> rfl

/-- A calibration with PPS shows the manual PPS request if both ask for the same supply. -/
theorem supplyShown_calibration_iff {calibration : CalibrationControlRequest}
    (hmanual : applyManualPpsFields request status = some manual)
    (hsets : calibration.setsPps = true) :
    SupplyShown request (applyMockCalibrationRuntimeConfig manual calibration) ↔
      request.manualPpsEnabled ≠ some false ∧
      (∀ millivolts, request.manualPpsMv = some millivolts →
        (calibration.ppsMv.or (if calibration.mode = some .off then none
          else status.calibration.ppsMv)).getD millivolts = millivolts) ∧
      (∀ milliamps, request.manualPpsMa = some milliamps →
        (effectivePpsCurrentCapabilityMa status).getD milliamps = milliamps) := by
  have hcapability : effectivePpsCurrentCapabilityMa manual =
      effectivePpsCurrentCapabilityMa status := by
    rw [applyManualPpsFields_frame hmanual]
    rfl
  have hcalibration : manual.calibration = status.calibration := by
    rw [applyManualPpsFields_frame hmanual]
  rw [applyCalibration_of_ppsOn hsets]
  have hshown : SupplyShown request (refreshStability
        (applyCalibrationPps calibration (withCalibrationMode manual calibration))) ↔
      request.manualPpsEnabled.getD true = true ∧
      request.manualPpsMv.or
          (some (calibrationPpsMv calibration (withCalibrationMode manual calibration))) =
        some (calibrationPpsMv calibration (withCalibrationMode manual calibration)) ∧
      request.manualPpsMa.or
          ((effectivePpsCurrentCapabilityMa manual).or manual.manualPpsMa) =
        (effectivePpsCurrentCapabilityMa manual).or manual.manualPpsMa :=
    ⟨fun h => ⟨h.1, h.2, h.3⟩, fun h => ⟨h.1, h.2.1, h.2.2⟩⟩
  rw [hshown, getD_true_eq_true_iff, or_eq_iff, or_eq_iff]
  refine and_congr_right fun hon => ?_
  obtain ⟨hmv, hma⟩ := manualPps_of_requested hmanual hon
  refine and_congr (forall₂_congr fun millivolts hrequested => ?_)
    (forall₂_congr fun milliamps hrequested => ?_)
  · rw [calibrationPpsMv_of_manual calibration (hmv millivolts hrequested), hcalibration,
      Option.some.injEq]
  · rw [hma milliamps hrequested, hcapability]
    cases effectivePpsCurrentCapabilityMa status <;> simp

end FluxPurr.Devd.Mock
