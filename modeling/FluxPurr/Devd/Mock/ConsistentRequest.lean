import FluxPurr.Devd.Mock.ConsistentCalibration

/-!
# When a device that has taken the request shows it

`Consistent` says of a request that it does not ask for two things at once, and that it is not
about a bank that the status does not show.  Then, and only then, the status has the values of
the request once it is applied (`shown_apply_iff`).
-/

namespace FluxPurr.Devd.Mock

variable {request : RuntimeConfigRequest} {device : DeviceRecord}

/-! ## Requests that the status can show -/

/-- The two names mean the same bank. -/
def SameBank (bank other : String) : Prop := bank = "pps5a" ↔ other = "pps5a"

/-- The bank that is active once the mode is set. -/
def requestedBank (request : RuntimeConfigRequest) (status : ControlPlaneStatus) : String :=
  (request.thermalProfileMode.map (resolvedBank status)).getD status.thermalProfileResolvedBank

def requestedTarget (request : RuntimeConfigRequest) (status : ControlPlaneStatus) : Int16 :=
  (request.targetTempC.or (requestedPreset request status)).getD status.targetTempC

/-- The profile that is saved or cleared is the one that the status shows. -/
def ProfileVisible (request : RuntimeConfigRequest) (device : DeviceRecord)
    (profile : ThermalControlProfileRequest) : Prop :=
  let active := requestedBank request device.status
  let bank := profile.bank.getD active
  match profile.op with
  | .preview | .clearPreview => True
  | .save =>
      SameBank bank active ∨
        mockThermalRuntime (requestedTarget request device.status) (device.savedProfile active)
            false =
          mockThermalRuntime (requestedTarget request device.status) profile.profile false
  | .clearSaved =>
      device.previewThermalControlProfile.isSome = true ∨ SameBank bank active ∨
        device.savedProfile active = none

/-- The calibration asks for nothing that the request asks for otherwise. -/
structure CalibrationConsistent (request : RuntimeConfigRequest) (status : ControlPlaneStatus)
    (calibration : CalibrationControlRequest) : Prop where
  ppsMv : calibration.ppsEnabled = some false → calibration.ppsMv = none
  heater (enabled : Bool) : calibration.heaterEnabled = some enabled →
    request.heaterEnabled.getD enabled = enabled
  manualOff : calibration.setsPps = true → request.manualPpsEnabled ≠ some false
  manualMv (millivolts : UInt16) : calibration.setsPps = true →
    request.manualPpsMv = some millivolts →
    (calibration.ppsMv.or (if calibration.mode = some .off then none
      else status.calibration.ppsMv)).getD millivolts = millivolts
  manualMa (milliamps : UInt16) : calibration.setsPps = true →
    request.manualPpsMa = some milliamps →
    (effectivePpsCurrentCapabilityMa status).getD milliamps = milliamps

/-- A device that takes the request shows it. -/
structure Consistent (request : RuntimeConfigRequest) (device : DeviceRecord) : Prop where
  /-- The manual PPS request has a voltage and a current. -/
  manualOn : requestsManualPps request = true →
    (request.manualPpsMv.or device.status.manualPpsMv).isSome = true ∧
      ((request.manualPpsMa.or device.status.manualPpsMa).or
        (effectivePpsCurrentCapabilityMa device.status)).isSome = true
  manualOff : request.manualPpsEnabled = some false →
    request.manualPpsMv = none ∧ request.manualPpsMa = none
  calibration (calibration : CalibrationControlRequest) :
    request.calibration = some calibration → CalibrationConsistent request device.status calibration
  profile (profile : ThermalControlProfileRequest) :
    request.thermalControlProfile = some profile → ProfileVisible request device profile

/-! ## What is accepted -/

theorem bind_require_eq_ok_iff {accepted : Prop} [Decidable accepted] {error : HttpError}
    {next : Unit → Except HttpError Unit} :
    (require accepted error >>= next) = .ok () ↔ accepted ∧ next () = .ok () := by
  rw [require]
  split
  · next h => exact ⟨fun hnext => ⟨h, hnext⟩, And.right⟩
  · next h => exact ⟨fun hnext => (nomatch hnext), fun hnext => absurd hnext.1 h⟩

theorem profile_isSome_of_validate {profile : ThermalControlProfileRequest}
    (h : validateThermalControlProfileRequest profile = .ok ()) :
    (profile.op = .preview → profile.profile.isSome = true) ∧
      (profile.op = .save → profile.profile.isSome = true) := by
  rw [validateThermalControlProfileRequest, bind_require_eq_ok_iff] at h
  cases hprofile : profile.profile with
  | some package => exact ⟨fun _ => rfl, fun _ => rfl⟩
  | none =>
    refine ⟨fun hop => ?_, fun hop => ?_⟩ <;>
      · rw [hop, hprofile] at h
        exact nomatch h.2

theorem validateRuntimeConfig_spec (h : validateRuntimeConfig request = .ok ()) :
    fanPolicyAgrees request = true ∧
      ∀ profile, request.thermalControlProfile = some profile →
        (profile.op = .preview → profile.profile.isSome = true) ∧
          (profile.op = .save → profile.profile.isSome = true) := by
  simp only [validateRuntimeConfig, bind_require_eq_ok_iff] at h
  obtain ⟨-, -, hfan, -, -, -, -, -, h⟩ := h
  refine ⟨hfan, fun profile hprofile => ?_⟩
  rw [hprofile] at h
  cases hcalibration : request.calibration with
  | none =>
    rw [hcalibration] at h
    exact profile_isSome_of_validate h
  | some calibration =>
    rw [hcalibration] at h
    exact profile_isSome_of_validate (bind_require_eq_ok_iff.mp h).2

/-! ## The device afterwards -/

/-- The steps after the manual PPS request. -/
def finish (request : RuntimeConfigRequest) (device : DeviceRecord) (manual : ControlPlaneStatus) :
    DeviceRecord :=
  refreshThermalControl (applyMockThermalProfile
    { device with
      status := applyAttentionAndMode request (applyCalibrationFields request manual) }
    request.thermalControlProfile)

theorem apply_eq_some_iff {device' : DeviceRecord} :
    applyMockRuntimeFields device request = some device' ↔
      ∃ manual, applyManualPpsFields request (applyCoolingAndHeaterFields request
          (applyTargetFields request device.status)) = some manual ∧
        finish request device manual = device' := by
  rw [applyMockRuntimeFields]
  constructor
  · intro h
    obtain ⟨manual, hmanual, hfinal⟩ := Option.bind_eq_some_iff.mp h
    exact ⟨manual, hmanual, Option.some.inj hfinal⟩
  · rintro ⟨manual, hmanual, hfinal⟩
    exact Option.bind_eq_some_iff.mpr ⟨manual, hmanual, congrArg some hfinal⟩

theorem isSome_applyManualPpsFields_iff (request : RuntimeConfigRequest)
    (status : ControlPlaneStatus) :
    (∃ manual, applyManualPpsFields request status = some manual) ↔
      (requestsManualPps request = true →
        (request.manualPpsMv.or status.manualPpsMv).isSome = true ∧
          ((request.manualPpsMa.or status.manualPpsMa).or
            (effectivePpsCurrentCapabilityMa status)).isSome = true) := by
  rw [applyManualPpsFields]
  split
  · next hoff =>
      have hnone : requestsManualPps request ≠ true := by simp [requestsManualPps, hoff]
      exact iff_of_true ⟨_, rfl⟩ fun hrequests => absurd hrequests hnone
  · split
    · next hrequests =>
        cases request.manualPpsMv.or status.manualPpsMv with
        | none => simp [hrequests]
        | some millivolts =>
          cases (request.manualPpsMa.or status.manualPpsMa).or
              (effectivePpsCurrentCapabilityMa status) with
          | none => simp [hrequests]
          | some milliamps => simp
    · next hrequests => exact iff_of_true ⟨_, rfl⟩ fun h => absurd h hrequests

/-- The status with what the request sets on its own, whatever the supply, the calibration and the
profiles do. -/
def requestedStatus (request : RuntimeConfigRequest) (status calibrated : ControlPlaneStatus) :
    ControlPlaneStatus :=
  { calibrated with
    targetTempC := requestedTarget request status
    selectedPresetSlot := request.selectedPresetSlot.or status.selectedPresetSlot
    presetsC := request.presetsC.or status.presetsC
    activeCoolingEnabled := requestedCooling request status
    postHeatCoolingMode := request.postHeatCoolingMode.getD status.postHeatCoolingMode
    heatingFanGuardMode := request.heatingFanGuardMode.getD status.heatingFanGuardMode
    faultAttentionPending :=
      if request.faultAttentionAcknowledged = some true then false
      else status.faultAttentionPending
    thermalProfileMode := request.thermalProfileMode.getD status.thermalProfileMode
    thermalProfileResolvedBank := requestedBank request status }

section Finish

variable {manual : ControlPlaneStatus}
  (hmanual : applyManualPpsFields request (applyCoolingAndHeaterFields request
    (applyTargetFields request device.status)) = some manual)

include hmanual

theorem requestedStatus_eq :
    applyAttentionAndMode request (applyCalibrationFields request manual) =
      requestedStatus request device.status (applyCalibrationFields request manual) := by
  have hframe := applyManualPpsFields_frame hmanual
  have hcalibrated := applyCalibrationFields_frame request manual
  generalize applyCalibrationFields request manual = calibrated at hcalibrated
  rw [hcalibrated, hframe]
  rfl

theorem status_finish :
    let calibrated := requestedStatus request device.status (applyCalibrationFields request manual)
    let device' := applyMockThermalProfile { device with status := calibrated }
      request.thermalControlProfile
    (finish request device manual).status =
      { calibrated with
        thermalControlProfilePreview := device'.previewThermalControlProfile.isSome
        thermalControl :=
          mockThermalRuntime (requestedTarget request device.status)
            (device'.previewThermalControlProfile.or
              (device'.savedProfile (requestedBank request device.status)))
            device'.previewThermalControlProfile.isSome } := by
  rw [finish, requestedStatus_eq hmanual, refreshThermalControl, status_applyMockThermalProfile]
  rfl

end Finish

/-! ## The profile -/

theorem savedProfile_setSavedProfile_of_same (device : DeviceRecord) {bank other : String}
    (profile : Option ThermalControlProfilePackage) (h : SameBank bank other) :
    (device.setSavedProfile bank profile).savedProfile other = profile := by
  rw [DeviceRecord.setSavedProfile, DeviceRecord.savedProfile]
  by_cases hother : other = "pps5a"
  · rw [if_pos hother, if_pos (h.mpr hother)]
  · rw [if_neg hother, if_neg (mt h.mp hother)]

theorem savedProfile_setSavedProfile_of_not_same (device : DeviceRecord) {bank other : String}
    (profile : Option ThermalControlProfilePackage) (h : ¬ SameBank bank other) :
    (device.setSavedProfile bank profile).savedProfile other = device.savedProfile other := by
  rw [DeviceRecord.setSavedProfile, DeviceRecord.savedProfile, DeviceRecord.savedProfile]
  by_cases hother : other = "pps5a"
  · have hbank : bank ≠ "pps5a" := fun hbank => h ⟨fun _ => hother, fun _ => hbank⟩
    rw [if_pos hother, if_neg hbank, if_pos hother]
  · have hbank : bank = "pps5a" := by
      by_contra hbank
      exact h ⟨fun hsame => absurd hsame hbank, fun hsame => absurd hsame hother⟩
    rw [if_neg hother, if_pos hbank, if_neg hother]

theorem thermalProfileSource_eq_saved_iff (previewActive profileActive : Bool) :
    thermalProfileSource previewActive profileActive = "saved" ↔
      previewActive = false ∧ profileActive = true := by
  cases previewActive <;> cases profileActive <;> decide

theorem thermalProfileSource_ne_preview (profileActive : Bool) :
    thermalProfileSource false profileActive ≠ "preview" := by
  cases profileActive <;> decide

section Profile

variable {manual : ControlPlaneStatus}
  (hmanual : applyManualPpsFields request (applyCoolingAndHeaterFields request
    (applyTargetFields request device.status)) = some manual)
  {profile : ThermalControlProfileRequest} (hprofile : request.thermalControlProfile = some profile)

include hmanual hprofile

theorem profileShown_iff (hpreview : profile.op = .preview → profile.profile.isSome = true)
    (hsave : profile.op = .save → profile.profile.isSome = true) :
    ProfileShown profile (finish request device manual).status ↔
      ProfileVisible request device profile := by
  rw [status_finish hmanual, hprofile, ProfileShown, ProfileVisible]
  -- of the device before the profile is set, only the profiles and the active bank matter
  generalize hstart : ({ device with
    status := requestedStatus request device.status (applyCalibrationFields request manual) } :
      DeviceRecord) = start
  have hbank : start.status.thermalProfileResolvedBank = requestedBank request device.status := by
    rw [← hstart]
    rfl
  have hsaved : start.savedProfile (requestedBank request device.status) =
      device.savedProfile (requestedBank request device.status) := by
    rw [← hstart]
    rfl
  cases hop : profile.op with
  | preview =>
    obtain ⟨package, hpackage⟩ := Option.isSome_iff_exists.mp (hpreview hop)
    refine iff_of_true ?_ trivial
    simp only [applyMockThermalProfile, hop, hpackage, Option.isSome_some, Option.some_or]
    exact ⟨trivial, rfl⟩
  | clearPreview =>
    refine iff_of_true ?_ trivial
    simp only [applyMockThermalProfile, hop, Option.isSome_none]
    refine ⟨trivial, ?_⟩
    rw [mockThermalRuntime_profileSource]
    exact thermalProfileSource_ne_preview _
  | save =>
    simp only [applyMockThermalProfile, hop, hbank]
    show false = false ∧
      (mockThermalRuntime (requestedTarget request device.status)
        ((start.setSavedProfile (profile.bank.getD (requestedBank request device.status))
          profile.profile).savedProfile (requestedBank request device.status))
        false).profileSource = "saved" ∧
      mockThermalRuntime (requestedTarget request device.status)
        ((start.setSavedProfile (profile.bank.getD (requestedBank request device.status))
          profile.profile).savedProfile (requestedBank request device.status)) false =
        mockThermalRuntime (requestedTarget request device.status) profile.profile false ↔ _
    have hsource (package : Option ThermalControlProfilePackage)
        (h : mockThermalRuntime (requestedTarget request device.status) package false =
          mockThermalRuntime (requestedTarget request device.status) profile.profile false) :
        (mockThermalRuntime (requestedTarget request device.status) package
          false).profileSource = "saved" := by
      rw [h, mockThermalRuntime_profileSource, thermalProfileSource_eq_saved_iff]
      exact ⟨rfl, hsave hop⟩
    by_cases hsame : SameBank (profile.bank.getD (requestedBank request device.status))
        (requestedBank request device.status)
    · rw [savedProfile_setSavedProfile_of_same start profile.profile hsame]
      exact iff_of_true ⟨rfl, hsource _ rfl, rfl⟩ (.inl hsame)
    · rw [savedProfile_setSavedProfile_of_not_same start profile.profile hsame, hsaved]
      constructor
      · rintro ⟨-, -, hcontrol⟩
        exact .inr hcontrol
      · rintro (h | hcontrol)
        · exact absurd h hsame
        · exact ⟨rfl, hsource _ hcontrol, hcontrol⟩
  | clearSaved =>
    have hstartPreview (bank : String) :
        (start.setSavedProfile bank none).previewThermalControlProfile =
          device.previewThermalControlProfile := by
      rw [← hstart, DeviceRecord.setSavedProfile]
      split <;> rfl
    simp only [applyMockThermalProfile, hop, hbank, hstartPreview]
    rw [mockThermalRuntime_profileSource, ne_eq, thermalProfileSource_eq_saved_iff]
    cases device.previewThermalControlProfile with
    | some package => simp
    | none =>
      by_cases hsame : SameBank (profile.bank.getD (requestedBank request device.status))
          (requestedBank request device.status)
      · rw [savedProfile_setSavedProfile_of_same start none hsame]
        simp [hsame]
      · rw [savedProfile_setSavedProfile_of_not_same start none hsame, hsaved]
        simp [hsame]

end Profile

/-! ## The whole request -/

theorem cooling_shown (hfan : fanPolicyAgrees request = true) (status : ControlPlaneStatus) :
    request.activeCoolingEnabled.getD (requestedCooling request status) =
      requestedCooling request status := by
  rw [requestedCooling]
  cases henabled : request.activeCoolingEnabled with
  | none => rfl
  | some enabled =>
    cases hmode : request.postHeatCoolingMode with
    | none => rfl
    | some mode => simpa [fanPolicyAgrees, henabled, hmode] using hfan

theorem target_shown (request : RuntimeConfigRequest) (status : ControlPlaneStatus) :
    request.targetTempC.getD (requestedTarget request status) =
      requestedTarget request status := by
  rw [requestedTarget]
  cases request.targetTempC <;> rfl

section Whole

variable {manual : ControlPlaneStatus}
  (hmanual : applyManualPpsFields request (applyCoolingAndHeaterFields request
    (applyTargetFields request device.status)) = some manual)

include hmanual

theorem shown_finish_iff_parts (hfan : fanPolicyAgrees request = true) :
    Shown request (finish request device manual).status ↔
      request.heaterEnabled.getD (applyCalibrationFields request manual).heaterEnabled =
        (applyCalibrationFields request manual).heaterEnabled ∧
      SupplyShown request (applyCalibrationFields request manual) ∧
      (∀ calibration, request.calibration = some calibration →
        CalibrationShown calibration (applyCalibrationFields request manual)) ∧
      ∀ profile, request.thermalControlProfile = some profile →
        ProfileShown profile (finish request device manual).status := by
  rw [status_finish hmanual]
  constructor
  · intro h
    refine ⟨h.heaterEnabled, ⟨h.manualPpsEnabled, h.manualPpsMv, h.manualPpsMa⟩, ?_, h.profile⟩
    intro calibration hcalibration
    obtain ⟨hmode, henabled, hmv, hheater, htarget⟩ := h.calibration calibration hcalibration
    exact ⟨hmode, henabled, hmv, hheater, htarget⟩
  · rintro ⟨hheater, ⟨henabled, hmv, hma⟩, hcalibration, hprofile⟩
    exact
      { targetTempC := target_shown request device.status
        thermalProfileMode := getD_getD request.thermalProfileMode _
        selectedPresetSlot := or_or request.selectedPresetSlot _
        presetsC := or_or request.presetsC _
        activeCoolingEnabled := cooling_shown hfan device.status
        postHeatCoolingMode := getD_getD request.postHeatCoolingMode _
        heatingFanGuardMode := getD_getD request.heatingFanGuardMode _
        heaterEnabled := hheater
        manualPpsEnabled := henabled
        manualPpsMv := hmv
        manualPpsMa := hma
        faultAttention := fun hacknowledged => if_pos hacknowledged
        calibration := by
          intro calibration hrequested
          obtain ⟨hmode, hpps, hppsMv, hcalibrationHeater, htarget⟩ :=
            hcalibration calibration hrequested
          exact ⟨hmode, hpps, hppsMv, hcalibrationHeater, htarget⟩
        profile := hprofile }

theorem supplyShown_iff :
    SupplyShown request (applyCalibrationFields request manual) ↔
      (request.manualPpsEnabled = some false →
        request.manualPpsMv = none ∧ request.manualPpsMa = none) ∧
      ∀ calibration, request.calibration = some calibration → calibration.setsPps = true →
        request.manualPpsEnabled ≠ some false ∧
        (∀ millivolts, request.manualPpsMv = some millivolts →
          (calibration.ppsMv.or (if calibration.mode = some .off then none
            else device.status.calibration.ppsMv)).getD millivolts = millivolts) ∧
        (∀ milliamps, request.manualPpsMa = some milliamps →
          (effectivePpsCurrentCapabilityMa device.status).getD milliamps = milliamps) := by
  have hmanualShown := supplyShown_manual_iff hmanual
  cases hcalibration : request.calibration with
  | none =>
    rw [applyCalibrationFields, hcalibration, hmanualShown]
    exact (and_iff_left (by rintro _ ⟨⟩)).symm
  | some calibration =>
    rw [applyCalibrationFields, hcalibration]
    simp only [Option.some.injEq, forall_eq']
    by_cases hsets : calibration.setsPps = true
    · rw [supplyShown_calibration_iff hmanual hsets]
      constructor
      · intro h
        exact ⟨fun hoff => absurd hoff h.1, fun _ => h⟩
      · intro h
        exact h.2 hsets
    · -- without PPS the calibration leaves the supply
      have hframe : SupplyShown request (applyMockCalibrationRuntimeConfig manual calibration) ↔
          SupplyShown request manual := by
        by_cases hoff : calibration.ppsEnabled = some false
        · rw [applyCalibration_of_ppsOff hoff]
          exact ⟨fun h => ⟨h.1, h.2, h.3⟩, fun h => ⟨h.1, h.2, h.3⟩⟩
        · rw [applyCalibration_of_neither hoff (Bool.eq_false_of_not_eq_true hsets)]
          exact ⟨fun h => ⟨h.1, h.2, h.3⟩, fun h => ⟨h.1, h.2, h.3⟩⟩
      rw [hframe, hmanualShown]
      exact (and_iff_left fun h => absurd h hsets).symm

theorem shown_finish_iff (hvalid : validateRuntimeConfig request = .ok ()) :
    Shown request (finish request device manual).status ↔
      (request.manualPpsEnabled = some false →
        request.manualPpsMv = none ∧ request.manualPpsMa = none) ∧
      (∀ calibration, request.calibration = some calibration →
        CalibrationConsistent request device.status calibration) ∧
      ∀ profile, request.thermalControlProfile = some profile →
        ProfileVisible request device profile := by
  obtain ⟨hfan, hpackage⟩ := validateRuntimeConfig_spec hvalid
  have hheater : manual.heaterEnabled =
      request.heaterEnabled.getD device.status.heaterEnabled := by
    rw [applyManualPpsFields_frame hmanual]
    rfl
  have hprofile : (∀ profile, request.thermalControlProfile = some profile →
        ProfileShown profile (finish request device manual).status) ↔
      ∀ profile, request.thermalControlProfile = some profile →
        ProfileVisible request device profile :=
    forall₂_congr fun profile hrequested =>
      profileShown_iff hmanual hrequested (hpackage profile hrequested).1
        (hpackage profile hrequested).2
  have hcalibration : (∀ calibration, request.calibration = some calibration →
        CalibrationShown calibration (applyCalibrationFields request manual)) ↔
      ∀ calibration, request.calibration = some calibration →
        calibration.ppsEnabled = some false → calibration.ppsMv = none := by
    refine forall₂_congr fun calibration hrequested => ?_
    rw [applyCalibrationFields, hrequested]
    exact calibrationShown_apply_iff manual calibration
  rw [shown_finish_iff_parts hmanual hfan, heater_shown_iff hheater, supplyShown_iff hmanual,
    hcalibration, hprofile]
  constructor
  · rintro ⟨hheaters, ⟨hoff, hsupply⟩, hpps, hprofiles⟩
    refine ⟨hoff, fun calibration hrequested => ?_, hprofiles⟩
    exact
      { ppsMv := hpps calibration hrequested
        heater := hheaters calibration hrequested
        manualOff := fun hsets => (hsupply calibration hrequested hsets).1
        manualMv := fun millivolts hsets =>
          (hsupply calibration hrequested hsets).2.1 millivolts
        manualMa := fun milliamps hsets =>
          (hsupply calibration hrequested hsets).2.2 milliamps }
  · rintro ⟨hoff, hconsistent, hprofiles⟩
    refine ⟨fun calibration hrequested => (hconsistent calibration hrequested).heater,
      ⟨hoff, fun calibration hrequested hsets => ?_⟩,
      fun calibration hrequested => (hconsistent calibration hrequested).ppsMv, hprofiles⟩
    exact ⟨(hconsistent calibration hrequested).manualOff hsets,
      fun millivolts => (hconsistent calibration hrequested).manualMv millivolts hsets,
      fun milliamps => (hconsistent calibration hrequested).manualMa milliamps hsets⟩

end Whole

/-- A device that takes the request shows it exactly if the request is consistent. -/
theorem shown_apply_iff (hvalid : validateRuntimeConfig request = .ok ()) :
    (∃ device', applyMockRuntimeFields device request = some device' ∧
        Shown request device'.status) ↔ Consistent request device := by
  have hsome := isSome_applyManualPpsFields_iff request
    (applyCoolingAndHeaterFields request (applyTargetFields request device.status))
  constructor
  · rintro ⟨device', happly, hshown⟩
    obtain ⟨manual, hmanual, rfl⟩ := apply_eq_some_iff.mp happly
    obtain ⟨hoff, hcalibration, hprofile⟩ := (shown_finish_iff hmanual hvalid).mp hshown
    exact ⟨hsome.mp ⟨manual, hmanual⟩, hoff, hcalibration, hprofile⟩
  · rintro ⟨hon, hoff, hcalibration, hprofile⟩
    obtain ⟨manual, hmanual⟩ := hsome.mpr hon
    exact ⟨finish request device manual, apply_eq_some_iff.mpr ⟨manual, hmanual, rfl⟩,
      (shown_finish_iff hmanual hvalid).mpr ⟨hoff, hcalibration, hprofile⟩⟩

end FluxPurr.Devd.Mock
