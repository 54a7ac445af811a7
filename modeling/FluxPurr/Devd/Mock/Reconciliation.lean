import FluxPurr.Devd.Mock.ConsistentRequest

/-!
# What the status can tell after a timeout

After a timeout the daemon asks for the status, and `runtimeConfigMatchesStatus` decides from it
whether the request was taken.  A match is right about the device exactly if what it does not look
at has the values of the request as well (`Settled`), and a device that has taken the request is
recognised exactly if the request is `Consistent`.

It does not look at the bank of a profile that is saved: where another bank is active and holds
the same profile, a save that was lost is reported as done (`lost_save_reported`).
-/

namespace FluxPurr.Devd.Mock

/-- The match says no more and no less than that the request was taken. -/
structure Reconciles (request : RuntimeConfigRequest) (device : DeviceRecord) : Prop where
  sound : runtimeConfigMatchesStatus request device.status = true →
    applyMockRuntimeFields device request = some device
  complete : ∃ device', applyMockRuntimeFields device request = some device' ∧
    runtimeConfigMatchesStatus request device'.status = true

theorem reconciles_iff {request : RuntimeConfigRequest} {device : DeviceRecord}
    (hvalid : validateRuntimeConfig request = .ok ()) :
    Reconciles request device ↔
      (Shown request device.status → Settled request device) ∧ Consistent request device := by
  constructor
  · rintro ⟨hsound, device', happly, hmatches⟩
    refine ⟨fun hshown => ?_, (shown_apply_iff hvalid).mp
      ⟨device', happly, (runtimeConfigMatchesStatus_iff request device'.status).mp hmatches⟩⟩
    have hsame := hsound ((runtimeConfigMatchesStatus_iff request device.status).mpr hshown)
    exact (apply_eq_self_iff hshown).mp hsame
  · rintro ⟨hsettled, hconsistent⟩
    obtain ⟨device', happly, hshown⟩ := (shown_apply_iff hvalid).mpr hconsistent
    refine ⟨fun hmatches => ?_, device', happly,
      (runtimeConfigMatchesStatus_iff request device'.status).mpr hshown⟩
    have hshown := (runtimeConfigMatchesStatus_iff request device.status).mp hmatches
    exact (apply_eq_self_iff hshown).mpr (hsettled hshown)

/-! ## A save to the bank that is not active -/

def emptyPackage : ThermalControlProfilePackage where
  settings := none
  points := List.replicate 10 none

def saveTo (bank : String) : RuntimeConfigRequest where
  thermalControlProfile := some { op := .save, bank := some bank, profile := some emptyPackage }

/-- The device at 100 °C with the profile in the second bank, and nothing in the first one. -/
def pps5aDevice : DeviceRecord where
  status :=
    { targetTempC := 100
      selectedPresetSlot := none
      presetsC := none
      heaterEnabled := false
      heaterOutputPercent := 0
      activeCoolingEnabled := true
      postHeatCoolingMode := "normal"
      heatingFanGuardMode := "low"
      voltageMv := 20000
      currentMa := 0
      rtdRawAdcMv := none
      vinRawAdcMv := none
      pdRequestMv := 20000
      pdContractMv := 20000
      manualPpsEnabled := false
      manualPpsMv := none
      manualPpsMa := none
      ppsCapabilityMinMv := none
      ppsCapabilityMaxMv := none
      ppsCapabilityMaxMa := none
      manualPpsError := none
      faultAttentionPending := false
      calibration := {}
      thermalControlProfilePreview := false
      thermalProfileMode := "100w"
      thermalProfileResolvedBank := "pps5a"
      thermalControl := mockThermalRuntime 100 (some emptyPackage) false }
  previewThermalControlProfile := none
  savedThermalControlProfile := none
  savedThermalControlProfilePps5a := some emptyPackage

theorem reconciles_iff_pps5a :
    validateRuntimeConfig (saveTo "pps5a") = .ok () ∧
      (Reconciles (saveTo "pps5a") pps5aDevice ↔
        (Shown (saveTo "pps5a") pps5aDevice.status → Settled (saveTo "pps5a") pps5aDevice) ∧
          Consistent (saveTo "pps5a") pps5aDevice) :=
  ⟨by decide, reconciles_iff (by decide)⟩

theorem shown_saveTo (bank : String) : Shown (saveTo bank) pps5aDevice.status where
  targetTempC := rfl
  thermalProfileMode := rfl
  selectedPresetSlot := rfl
  presetsC := rfl
  activeCoolingEnabled := rfl
  postHeatCoolingMode := rfl
  heatingFanGuardMode := rfl
  heaterEnabled := rfl
  manualPpsEnabled := rfl
  manualPpsMv := rfl
  manualPpsMa := rfl
  faultAttention := nofun
  calibration := nofun
  profile := by
    intro profile hprofile
    obtain rfl := Option.some.inj hprofile
    refine ⟨rfl, ?_, rfl⟩
    exact mockThermalRuntime_profileSource 100 (some emptyPackage) false

/-- The save never arrived, and the status says that it is done. -/
theorem lost_save_reported :
    validateRuntimeConfig (saveTo "pps3a") = .ok () ∧
      runtimeConfigMatchesStatus (saveTo "pps3a") pps5aDevice.status = true ∧
      pps5aDevice.savedProfile "pps3a" = none ∧ ¬ Reconciles (saveTo "pps3a") pps5aDevice := by
  have hshown := shown_saveTo "pps3a"
  have hmatches := (runtimeConfigMatchesStatus_iff (saveTo "pps3a") pps5aDevice.status).mpr hshown
  refine ⟨by decide, hmatches, by decide, fun hreconciles => ?_⟩
  have hsettled := (apply_eq_self_iff hshown).mp (hreconciles.sound hmatches)
  obtain ⟨hsaved, -⟩ := hsettled.profile _ rfl
  exact absurd hsaved (by decide)

end FluxPurr.Devd.Mock
