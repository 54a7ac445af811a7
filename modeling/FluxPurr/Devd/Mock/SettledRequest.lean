import FluxPurr.Devd.Mock.SettledCalibration

/-!
# When applying a request changes nothing

A request changes nothing exactly if every step of `applyMockRuntimeFields` leaves the device alone
(`apply_eq_self_iff`): no step undoes what another one does, if the status shows the request.
`Settled` is what the device needs for that beside what the status shows.
-/

namespace FluxPurr.Devd.Mock

open FluxPurr.Devd.Mock.ControlPlaneStatus
open FluxPurr.Devd.Mock.DeviceRecord

variable {request : RuntimeConfigRequest} {status status' : ControlPlaneStatus}

/-! ## The manual PPS request -/

theorem applyManualPpsFields_cases (h : applyManualPpsFields request status = some status') :
    (request.manualPpsEnabled = some false ∧
      status' =
        { status with
          manualPpsEnabled := false
          manualPpsMv := none
          manualPpsMa := none
          pdRequestMv := defaultPdRequestMv
          pdContractMv := defaultPdRequestMv
          voltageMv := defaultPdRequestMv.toUInt32
          manualPpsError := none }) ∨
    (requestsManualPps request = true ∧ ∃ millivolts milliamps,
      request.manualPpsMv.or status.manualPpsMv = some millivolts ∧
      (request.manualPpsMa.or status.manualPpsMa).or (effectivePpsCurrentCapabilityMa status) =
        some milliamps ∧
      status' = status.requestPps millivolts (some milliamps)) ∨
    (request.manualPpsEnabled ≠ some false ∧ requestsManualPps request = false ∧
      status' = status) := by
  rw [applyManualPpsFields] at h
  split at h
  · next hoff => exact .inl ⟨hoff, (Option.some.inj h).symm⟩
  · next hoff =>
      split at h
      · next hrequests =>
          obtain ⟨millivolts, hmv, h⟩ := Option.bind_eq_some_iff.mp h
          obtain ⟨milliamps, hma, h⟩ := Option.bind_eq_some_iff.mp h
          exact .inr (.inl ⟨hrequests, millivolts, milliamps, hmv, hma, (Option.some.inj h).symm⟩)
      · next hrequests =>
          exact .inr (.inr ⟨hoff, Bool.eq_false_of_not_eq_true hrequests, (Option.some.inj h).symm⟩)

theorem applyManualPpsFields_frame (h : applyManualPpsFields request status = some status') :
    status' =
      { status with
        manualPpsEnabled := status'.manualPpsEnabled
        manualPpsMv := status'.manualPpsMv
        manualPpsMa := status'.manualPpsMa
        pdRequestMv := status'.pdRequestMv
        pdContractMv := status'.pdContractMv
        voltageMv := status'.voltageMv
        manualPpsError := status'.manualPpsError } := by
  rcases applyManualPpsFields_cases h with ⟨-, rfl⟩ | ⟨-, _, _, -, -, rfl⟩ | ⟨-, -, rfl⟩ <;> rfl

/-! ## The other steps -/

def ProfileSettled (profile : ThermalControlProfileRequest) (device : DeviceRecord) : Prop :=
  let bank := profile.bank.getD device.status.thermalProfileResolvedBank
  match profile.op with
  | .preview => device.previewThermalControlProfile = profile.profile
  | .clearPreview => device.previewThermalControlProfile = none
  | .save =>
      device.savedProfile bank = profile.profile ∧ device.previewThermalControlProfile = none
  | .clearSaved => device.savedProfile bank = none

/-- What a request needs, beside what the status shows, to change nothing. -/
structure Settled (request : RuntimeConfigRequest) (device : DeviceRecord) : Prop where
  preset : request.targetTempC = none → ∀ target,
    requestedPreset request device.status = some target → device.status.targetTempC = target
  cooling (mode : String) : request.postHeatCoolingMode = some mode →
    device.status.activeCoolingEnabled = decide (mode ≠ "off")
  heaterOutput : request.heaterEnabled = some false → device.status.heaterOutputPercent = 0
  manualOff : request.manualPpsEnabled = some false →
    SuppliedAt device.status defaultPdRequestMv ∧ device.status.manualPpsMv = none ∧
      device.status.manualPpsMa = none
  manualOn : requestsManualPps request = true →
    ∃ millivolts milliamps, SuppliedAt device.status millivolts ∧
      device.status.manualPpsEnabled = true ∧ device.status.manualPpsMv = some millivolts ∧
      device.status.manualPpsMa = some milliamps
  calibration (calibration : CalibrationControlRequest) :
    request.calibration = some calibration → CalibrationSettled calibration device.status
  bank (mode : String) : request.thermalProfileMode = some mode →
    device.status.thermalProfileResolvedBank = resolvedBank device.status mode
  profile (profile : ThermalControlProfileRequest) :
    request.thermalControlProfile = some profile → ProfileSettled profile device
  preview : device.status.thermalControlProfilePreview = device.previewThermalControlProfile.isSome
  thermalControl :
    device.status.thermalControl =
      mockThermalRuntime device.status.targetTempC
        (device.previewThermalControlProfile.or
          (device.savedProfile device.status.thermalProfileResolvedBank))
        device.previewThermalControlProfile.isSome

section Steps

variable {device : DeviceRecord}

theorem applyTargetFields_eq (h : Shown request status)
    (hpreset : request.targetTempC = none → ∀ target,
      requestedPreset request status = some target → status.targetTempC = target) :
    applyTargetFields request status = status := by
  have htarget : (request.targetTempC.or (requestedPreset request status)).getD
      status.targetTempC = status.targetTempC := by
    have hshown := h.targetTempC
    cases hrequested : request.targetTempC with
    | some target => rw [hrequested] at hshown; exact hshown
    | none =>
      cases hselected : requestedPreset request status with
      | none => rfl
      | some target => exact (hpreset hrequested target hselected).symm
  rw [applyTargetFields, htarget, h.selectedPresetSlot, h.presetsC]

theorem applyCoolingAndHeaterFields_eq (h : Shown request status)
    (hcooling : ∀ mode, request.postHeatCoolingMode = some mode →
      status.activeCoolingEnabled = decide (mode ≠ "off"))
    (houtput : request.heaterEnabled = some false → status.heaterOutputPercent = 0) :
    applyCoolingAndHeaterFields request status = status := by
  have hactive : requestedCooling request status = status.activeCoolingEnabled := by
    rw [requestedCooling]
    cases hmode : request.postHeatCoolingMode with
    | none => exact h.activeCoolingEnabled
    | some mode => exact (hcooling mode hmode).symm
  have hpercent : (if request.heaterEnabled = some false then 0
      else status.heaterOutputPercent) = status.heaterOutputPercent := by
    split
    · next hheater => exact (houtput hheater).symm
    · rfl
  rw [applyCoolingAndHeaterFields, hactive, hpercent, h.postHeatCoolingMode,
    h.heatingFanGuardMode, h.heaterEnabled]

theorem applyManualPpsFields_eq (h : Shown request status)
    (hoff : request.manualPpsEnabled = some false →
      SuppliedAt status defaultPdRequestMv ∧ status.manualPpsMv = none ∧ status.manualPpsMa = none)
    (hon : requestsManualPps request = true → ∃ millivolts milliamps,
      SuppliedAt status millivolts ∧ status.manualPpsEnabled = true ∧
        status.manualPpsMv = some millivolts ∧ status.manualPpsMa = some milliamps) :
    applyManualPpsFields request status = some status := by
  rw [applyManualPpsFields]
  split
  · next hdisabled =>
      obtain ⟨⟨hrequest, hcontract, hvoltage, herror⟩, hmv, hma⟩ := hoff hdisabled
      have henabled := h.manualPpsEnabled
      rw [hdisabled] at henabled
      refine congrArg some ?_
      rw [ControlPlaneStatus.ext_iff]
      simp only [hrequest, hcontract, hvoltage, herror, hmv, hma, true_and, and_true]
      exact henabled
  · split
    · next hrequests =>
        obtain ⟨millivolts, milliamps, hsupplied, henabled, hmv, hma⟩ := hon hrequests
        rw [h.manualPpsMv, h.manualPpsMa, hmv, hma]
        exact congrArg some (eq_of_suppliedAt hsupplied henabled hmv hma)
    · rfl

theorem applyAttentionAndMode_eq (h : Shown request status)
    (hbank : ∀ mode, request.thermalProfileMode = some mode →
      status.thermalProfileResolvedBank = resolvedBank status mode) :
    applyAttentionAndMode request status = status := by
  have hpending : (if request.faultAttentionAcknowledged = some true then false
      else status.faultAttentionPending) = status.faultAttentionPending := by
    split
    · next hacknowledged => exact (h.faultAttention hacknowledged).symm
    · rfl
  have hresolved : (request.thermalProfileMode.map (resolvedBank status)).getD
      status.thermalProfileResolvedBank = status.thermalProfileResolvedBank := by
    cases hmode : request.thermalProfileMode with
    | none => rfl
    | some mode => exact (hbank mode hmode).symm
  rw [applyAttentionAndMode, hpending, hresolved, h.thermalProfileMode]

theorem setSavedProfile_eq_self_iff (device : DeviceRecord) (bank : String)
    (profile : Option ThermalControlProfilePackage) :
    device.setSavedProfile bank profile = device ↔ device.savedProfile bank = profile := by
  rw [setSavedProfile, savedProfile, DeviceRecord.ext_iff]
  split <;> simp [eq_comm]

theorem refreshThermalControl_eq_self_iff (device : DeviceRecord) :
    refreshThermalControl device = device ↔
      device.status.thermalControlProfilePreview = device.previewThermalControlProfile.isSome ∧
        device.status.thermalControl =
          mockThermalRuntime device.status.targetTempC
            (device.previewThermalControlProfile.or
              (device.savedProfile device.status.thermalProfileResolvedBank))
            device.previewThermalControlProfile.isSome := by
  constructor
  · intro h
    have hstatus := congrArg status h
    exact ⟨(congrArg thermalControlProfilePreview hstatus).symm,
      (congrArg thermalControl hstatus).symm⟩
  · rintro ⟨hpreview, hcontrol⟩
    rw [refreshThermalControl, ← hcontrol, ← hpreview]

theorem applyMockThermalProfile_eq_self_iff (profile : ThermalControlProfileRequest) :
    applyMockThermalProfile device (some profile) = device ↔ ProfileSettled profile device := by
  rw [ProfileSettled]
  cases hop : profile.op with
  | preview | clearPreview =>
    simp only [applyMockThermalProfile, hop]
    rw [DeviceRecord.ext_iff]
    simp [eq_comm]
  | save =>
    simp only [applyMockThermalProfile, hop, setSavedProfile, savedProfile]
    rw [DeviceRecord.ext_iff]
    split <;> simp [eq_comm, and_comm]
  | clearSaved =>
    simp only [applyMockThermalProfile, hop]
    exact setSavedProfile_eq_self_iff device _ none

theorem applyCalibrationFields_eq (h : Shown request status)
    (hsettled : ∀ calibration, request.calibration = some calibration →
      CalibrationSettled calibration status) :
    applyCalibrationFields request status = status := by
  cases hcalibration : request.calibration with
  | none => rw [applyCalibrationFields, hcalibration]
  | some calibration =>
    rw [applyCalibrationFields, hcalibration]
    exact applyCalibration_eq_of_settled (h.calibration calibration hcalibration)
      (hsettled calibration hcalibration)

theorem apply_eq_of_settled (h : Shown request device.status) (hsettled : Settled request device) :
    applyMockRuntimeFields device request = some device := by
  have hprofile :
      applyMockThermalProfile device request.thermalControlProfile = device := by
    cases hrequested : request.thermalControlProfile with
    | none => rfl
    | some profile =>
      exact (applyMockThermalProfile_eq_self_iff profile).mpr
        (hsettled.profile profile hrequested)
  rw [applyMockRuntimeFields, applyTargetFields_eq h hsettled.preset,
    applyCoolingAndHeaterFields_eq h hsettled.cooling hsettled.heaterOutput,
    applyManualPpsFields_eq h hsettled.manualOff hsettled.manualOn]
  show some (refreshThermalControl (applyMockThermalProfile { device with
    status := applyAttentionAndMode request (applyCalibrationFields request device.status) }
      request.thermalControlProfile)) = some device
  rw [applyCalibrationFields_eq h hsettled.calibration, applyAttentionAndMode_eq h hsettled.bank,
    hprofile, (refreshThermalControl_eq_self_iff device).mpr ⟨hsettled.preview,
      hsettled.thermalControl⟩]

/-! ## No step undoes another one -/

/-- The calibration concerns the supply, the heater and itself. -/
theorem applyCalibrationFields_frame (request : RuntimeConfigRequest)
    (status : ControlPlaneStatus) :
    let status' := applyCalibrationFields request status
    status' =
      { status with
        manualPpsEnabled := status'.manualPpsEnabled
        manualPpsMv := status'.manualPpsMv
        manualPpsMa := status'.manualPpsMa
        pdRequestMv := status'.pdRequestMv
        pdContractMv := status'.pdContractMv
        voltageMv := status'.voltageMv
        manualPpsError := status'.manualPpsError
        calibration := status'.calibration
        heaterEnabled := status'.heaterEnabled
        heaterOutputPercent := status'.heaterOutputPercent } := by
  intro status'
  cases hcalibration : request.calibration with
  | none => simp only [status', applyCalibrationFields, hcalibration]
  | some calibration =>
    simp only [status', applyCalibrationFields, hcalibration]
    have hframe := applyMockCalibrationRuntimeConfig_frame status calibration
    rw [ControlPlaneStatus.ext_iff] at hframe ⊢
    obtain ⟨htarget, hslot, hpresets, -, -, hrest⟩ := hframe
    exact ⟨htarget, hslot, hpresets, rfl, rfl, hrest⟩

theorem heaterOutput_applyCalibrationFields (request : RuntimeConfigRequest)
    (h : status.heaterOutputPercent = 0) :
    (applyCalibrationFields request status).heaterOutputPercent = 0 := by
  cases hcalibration : request.calibration with
  | none => rw [applyCalibrationFields, hcalibration, h]
  | some calibration =>
    have houtput := congrArg heaterOutputPercent
      (applyMockCalibrationRuntimeConfig_frame status calibration)
    rw [applyCalibrationFields, hcalibration]
    refine houtput.trans ?_
    show (if calibration.heaterEnabled = some false then 0 else status.heaterOutputPercent) = 0
    rw [h, ite_self]

/-- The calibration leaves the supply, or it requests it at its own voltage. -/
theorem supply_applyCalibrationFields (request : RuntimeConfigRequest)
    (status : ControlPlaneStatus) :
    let status' := applyCalibrationFields request status
    (status'.manualPpsEnabled = status.manualPpsEnabled ∧
      status'.manualPpsMv = status.manualPpsMv ∧ status'.manualPpsMa = status.manualPpsMa ∧
      ∀ millivolts, SuppliedAt status millivolts → SuppliedAt status' millivolts) ∨
    (∃ millivolts, SuppliedAt status' millivolts ∧ status'.manualPpsEnabled = true ∧
      status'.manualPpsMv = some millivolts ∧
      status'.manualPpsMa =
        (effectivePpsCurrentCapabilityMa status).or status.manualPpsMa) := by
  intro status'
  simp only [status', applyCalibrationFields]
  split
  · next calibration _ =>
      rw [applyMockCalibrationRuntimeConfig]
      split
      · exact .inl ⟨rfl, rfl, rfl, fun _ h => ⟨h.1, h.2, h.3, h.4⟩⟩
      · split
        · exact .inr ⟨_, ⟨rfl, rfl, rfl, rfl⟩, rfl, rfl, rfl⟩
        · exact .inl ⟨rfl, rfl, rfl, fun _ h => ⟨h.1, h.2, h.3, h.4⟩⟩
  · exact .inl ⟨rfl, rfl, rfl, fun _ h => h⟩

theorem status_applyMockThermalProfile (device : DeviceRecord)
    (profile : Option ThermalControlProfileRequest) :
    (applyMockThermalProfile device profile).status = device.status := by
  cases profile with
  | none => rfl
  | some profile =>
    cases hop : profile.op with
    | preview => simp only [applyMockThermalProfile, hop]
    | clearPreview => simp only [applyMockThermalProfile, hop]
    | save =>
      simp only [applyMockThermalProfile, hop, setSavedProfile]
      split <;> rfl
    | clearSaved =>
      simp only [applyMockThermalProfile, hop, setSavedProfile]
      split <;> rfl

/-- The manual PPS fields are settled if the supply is the same after the calibration. -/
theorem manual_settled {manual : ControlPlaneStatus} (h : Shown request status)
    (hmanual : applyManualPpsFields request status = some manual)
    (hsupply : let calibrated := applyCalibrationFields request manual
      calibrated.manualPpsEnabled = status.manualPpsEnabled ∧
        calibrated.manualPpsMv = status.manualPpsMv ∧
        calibrated.manualPpsMa = status.manualPpsMa ∧
        ∀ millivolts, SuppliedAt calibrated millivolts → SuppliedAt status millivolts) :
    (request.manualPpsEnabled = some false →
      SuppliedAt status defaultPdRequestMv ∧ status.manualPpsMv = none ∧
        status.manualPpsMa = none) ∧
    (requestsManualPps request = true → ∃ millivolts milliamps,
      SuppliedAt status millivolts ∧ status.manualPpsEnabled = true ∧
        status.manualPpsMv = some millivolts ∧ status.manualPpsMa = some milliamps) := by
  obtain ⟨henabled, hmv, hma, hsupplied⟩ := hsupply
  rcases applyManualPpsFields_cases hmanual with ⟨hoff, rfl⟩ | ⟨hrequests, millivolts, milliamps,
    -, -, rfl⟩ | ⟨hoff, hrequests, -⟩
  · have hnone : requestsManualPps request ≠ true := by simp [requestsManualPps, hoff]
    refine ⟨fun _ => ?_, fun hrequests => absurd hrequests hnone⟩
    rcases supply_applyCalibrationFields request _ with ⟨-, hmv', hma', hsupplied'⟩ |
      ⟨_, -, henabled', -⟩
    · exact ⟨hsupplied _ (hsupplied' _ ⟨rfl, rfl, rfl, rfl⟩), hmv ▸ hmv', hma ▸ hma'⟩
    · -- the calibration switched on what the request switches off
      have hshown := h.manualPpsEnabled
      rw [hoff, ← henabled, henabled'] at hshown
      cases hshown
  · have hon : request.manualPpsEnabled ≠ some false := by
      intro hoff
      simp [requestsManualPps, hoff] at hrequests
    refine ⟨fun hoff => absurd hoff hon, fun _ => ?_⟩
    rcases supply_applyCalibrationFields request (status.requestPps millivolts (some milliamps))
      with ⟨henabled', hmv', hma', hsupplied'⟩ | ⟨other, hsupplied', henabled', hmv', hma'⟩
    · exact ⟨millivolts, milliamps, hsupplied _ (hsupplied' _ ⟨rfl, rfl, rfl, rfl⟩),
        henabled ▸ henabled', hmv ▸ hmv', hma ▸ hma'⟩
    · rw [hma] at hma'
      cases hcapability : effectivePpsCurrentCapabilityMa
          (status.requestPps millivolts (some milliamps)) with
      | none =>
        rw [hcapability] at hma'
        exact ⟨other, milliamps, hsupplied _ hsupplied', henabled ▸ henabled', hmv ▸ hmv', hma'⟩
      | some capability =>
        rw [hcapability] at hma'
        exact ⟨other, capability, hsupplied _ hsupplied', henabled ▸ henabled', hmv ▸ hmv', hma'⟩
  · exact ⟨fun hdisabled => absurd hdisabled hoff, fun hon => by rw [hrequests] at hon; cases hon⟩

theorem settled_of_apply_eq (h : Shown request device.status)
    (heq : applyMockRuntimeFields device request = some device) : Settled request device := by
  obtain ⟨manual, hmanual, hfinal⟩ := Option.bind_eq_some_iff.mp heq
  have hdevice := Option.some.inj hfinal
  obtain ⟨preview, control, hstatus⟩ : ∃ preview control,
      { applyAttentionAndMode request (applyCalibrationFields request manual) with
        thermalControlProfilePreview := preview
        thermalControl := control } = device.status := by
    have hstatus := congrArg status hdevice
    rw [refreshThermalControl, status_applyMockThermalProfile] at hstatus
    exact ⟨_, _, hstatus⟩
  obtain ⟨htargetTempC, -, -, hheaterEnabled, hheaterOutput, hactiveCooling, -, -, hvoltage, -, -,
    -, hrequest, hcontract, henabled, hmv, hma, -, -, -, herror, -, hcalibration, -, -, hresolved,
    -⟩ := ControlPlaneStatus.ext_iff.mp hstatus
  -- what the last steps leave of the fields of the first ones
  have hframe := applyManualPpsFields_frame hmanual
  have hcalibrated := applyCalibrationFields_frame request manual
  have htarget : (applyTargetFields request device.status).targetTempC =
      device.status.targetTempC :=
    calc (applyTargetFields request device.status).targetTempC
      _ = manual.targetTempC := (congrArg targetTempC hframe).symm
      _ = (applyCalibrationFields request manual).targetTempC :=
        (congrArg targetTempC hcalibrated).symm
      _ = device.status.targetTempC := htargetTempC
  have hactive : requestedCooling request (applyTargetFields request device.status) =
      device.status.activeCoolingEnabled :=
    calc requestedCooling request (applyTargetFields request device.status)
      _ = manual.activeCoolingEnabled := (congrArg activeCoolingEnabled hframe).symm
      _ = (applyCalibrationFields request manual).activeCoolingEnabled :=
        (congrArg activeCoolingEnabled hcalibrated).symm
      _ = device.status.activeCoolingEnabled := hactiveCooling
  have hpreset : request.targetTempC = none → ∀ target,
      requestedPreset request device.status = some target →
        device.status.targetTempC = target := by
    intro hnone target hselected
    rw [← htarget, applyTargetFields, hnone, hselected]
    rfl
  have hcooling : ∀ mode, request.postHeatCoolingMode = some mode →
      device.status.activeCoolingEnabled = decide (mode ≠ "off") := by
    intro mode hmode
    rw [← hactive, requestedCooling, hmode]
  have houtput : request.heaterEnabled = some false →
      device.status.heaterOutputPercent = 0 := by
    intro hheater
    have hmanualOutput : manual.heaterOutputPercent = 0 := by
      rw [hframe]
      show (if request.heaterEnabled = some false then 0 else _) = (0 : UInt8)
      rw [if_pos hheater]
    exact hheaterOutput.symm.trans (heaterOutput_applyCalibrationFields request hmanualOutput)
  -- so the steps before the calibration change nothing
  rw [applyTargetFields_eq h hpreset, applyCoolingAndHeaterFields_eq h hcooling houtput] at hmanual
  obtain ⟨hoff, hon⟩ := manual_settled h hmanual
    ⟨henabled, hmv, hma, fun millivolts hsupplied =>
      ⟨hrequest.symm.trans hsupplied.pdRequestMv, hcontract.symm.trans hsupplied.pdContractMv,
        hvoltage.symm.trans hsupplied.voltageMv, herror.symm.trans hsupplied.manualPpsError⟩⟩
  obtain rfl : manual = device.status := by
    rw [applyManualPpsFields_eq h hoff hon] at hmanual
    exact (Option.some.inj hmanual).symm
  have hsame : applyCalibrationFields request device.status = device.status := by
    refine hcalibrated.trans ?_
    apply ControlPlaneStatus.ext
    all_goals first | assumption | rfl
  have hbank (mode : String) (hmode : request.thermalProfileMode = some mode) :
      device.status.thermalProfileResolvedBank = resolvedBank device.status mode := by
    rw [hsame, applyAttentionAndMode, hmode] at hresolved
    exact hresolved.symm
  rw [hsame, applyAttentionAndMode_eq h hbank] at hdevice
  -- and then neither do the steps on the profiles
  have hpreviews : applyMockThermalProfile device request.thermalControlProfile = device :=
    DeviceRecord.ext (status_applyMockThermalProfile device request.thermalControlProfile)
      (congrArg previewThermalControlProfile hdevice :)
      (congrArg savedThermalControlProfile hdevice :)
      (congrArg savedThermalControlProfilePps5a hdevice :)
  have hrefreshed := hdevice
  rw [hpreviews] at hrefreshed
  obtain ⟨hpreview, hcontrol⟩ := (refreshThermalControl_eq_self_iff device).mp hrefreshed
  exact
    { preset := hpreset
      cooling := hcooling
      heaterOutput := houtput
      manualOff := hoff
      manualOn := hon
      calibration := by
        intro calibration hcalibration
        rw [applyCalibrationFields, hcalibration] at hsame
        exact settled_of_applyCalibration_eq hsame
      bank := hbank
      profile := by
        intro profile hprofile
        rw [hprofile] at hpreviews
        exact (applyMockThermalProfile_eq_self_iff profile).mp hpreviews
      preview := hpreview
      thermalControl := hcontrol }

/-- Where the status shows the request, applying it changes nothing exactly if the rest is
settled. -/
theorem apply_eq_self_iff (h : Shown request device.status) :
    applyMockRuntimeFields device request = some device ↔ Settled request device :=
  ⟨settled_of_apply_eq h, apply_eq_of_settled h⟩

end Steps

end FluxPurr.Devd.Mock
