import FluxPurr.Memory.PersistReadback
import FluxPurr.Memory.ProfileReadback
import FluxPurr.Supply.BoundaryCodec
import Mathlib.Algebra.Order.BigOperators.Group.List

/-!
# Which configurations can be saved

A save writes each domain of the sanitized configuration and compares what it
reads back with what it wrote.  `PersistRoundTrips` is that comparison for one
domain, and `PersistDomain.Storable` is the condition on the configuration under
which it succeeds.

## Strategy

For four domains the record always fits, and the read-back value is known in closed
form, so the comparison is a fixed point condition on it.  The plant domain can fail
to encode: its boundary and its transaction share one slot.
-/

namespace FluxPurr.Memory

open FluxPurr.Wire FluxPurr.Supply
open PersistDomainData
open PersistDecodeState

/-- The domain is written, fits its slot, and the record is read back unchanged. -/
def PersistRoundTrips (sequence : UInt32) (data : PersistDomainData) : Prop :=
  ∃ bytes, encodePersistRecord sequence data fpr2MaxRecordSize = .ok bytes ∧
    bytes.length ≤ data.domain.slotSize ∧ decodePersistRecord bytes = .ok ⟨sequence, data⟩

variable {sequence : UInt32} (config : MemoryConfig) {boundary : SupplyBoundary}

theorem persistRoundTrips_iff_payload {data : PersistDomainData} :
    PersistRoundTrips sequence data ↔
      ∃ payload, encodePersistPayload data (fpr2MaxRecordSize - fpr2HeaderLen) = .ok payload ∧
        fpr2HeaderLen + payload.length ≤ data.domain.slotSize ∧
        decodePersistPayload data.domain payload = .ok data := by
  constructor
  · rintro ⟨bytes, hencode, -, hdecode⟩
    obtain ⟨payload, hpayload, hslot, -, hbytes⟩ := encodePersistRecord_eq_ok hencode
    refine ⟨payload, hpayload, hslot, ?_⟩
    rw [hbytes] at hdecode
    cases hdata : decodePersistPayload data.domain payload with
    | error e => rw [hdata] at hdecode; cases hdecode
    | ok decoded =>
      rw [hdata] at hdecode
      cases hdecode
      rfl
  · rintro ⟨payload, hpayload, hslot, hdecode⟩
    obtain ⟨bytes, hbytes⟩ := encodePersistRecord_of_payload sequence (by decide)
      hpayload hslot
    obtain ⟨payload', hpayload', -, hlen, hrecord⟩ := encodePersistRecord_eq_ok hbytes
    obtain rfl : payload' = payload := Except.ok.inj (hpayload'.symm.trans hpayload)
    refine ⟨bytes, hbytes, by omega, ?_⟩
    rw [hrecord, hdecode]
    rfl

/-- A domain that is a list of elements is written, and read back element by
element. -/
theorem exists_record_of_tlvs (data : PersistDomainData) (tlvs : List Tlv)
    (hpayload : encodePersistPayload data (fpr2MaxRecordSize - fpr2HeaderLen) =
      pushFpr2Tlvs (fpr2MaxRecordSize - fpr2HeaderLen) [] tlvs)
    (hroom : fpr2HeaderLen + (tlvs.map fun tlv => 3 + tlv.value.length).sum ≤ data.domain.slotSize)
    (hsaw : (readTlvs data.domain tlvs).sawField = true) (sequence : UInt32) :
    ∃ bytes, encodePersistRecord sequence data fpr2MaxRecordSize = .ok bytes ∧
      bytes.length ≤ data.domain.slotSize ∧
      decodePersistRecord bytes =
        .ok ⟨sequence, (readTlvs data.domain tlvs).finish data.domain⟩ := by
  have hsize : data.domain.slotSize ≤ 768 := slotSize_le data.domain
  have hshort : ∀ tlv ∈ tlvs, tlv.value.length ≤ 65535 := by
    intro tlv htlv
    have hle : 3 + tlv.value.length ≤ (tlvs.map fun tlv => 3 + tlv.value.length).sum :=
      List.le_sum_of_mem (List.mem_map_of_mem htlv)
    omega
  have hpush : encodePersistPayload data (fpr2MaxRecordSize - fpr2HeaderLen) =
      .ok (encodeTlvs 2 tlvs) := by
    rw [hpayload, pushFpr2Tlvs_of_fits _ hshort, List.nil_append]
    rw [length_encodeTlvs, List.length_nil, Nat.zero_add]
    exact Nat.le_sub_of_add_le' (hroom.trans hsize)
  have hdecode : decodePersistPayload data.domain (encodeTlvs 2 tlvs) =
      .ok ((readTlvs data.domain tlvs).finish data.domain) := by
    rw [decodePersistPayload_encodeTlvs hshort]
    exact if_pos hsaw
  obtain ⟨bytes, hbytes⟩ := encodePersistRecord_of_payload sequence (by decide)
    hpush (by rw [length_encodeTlvs]; exact hroom)
  obtain ⟨payload, hok, hslot, hlen, hrecord⟩ := encodePersistRecord_eq_ok hbytes
  obtain rfl : encodeTlvs 2 tlvs = payload := Except.ok.inj (hpush.symm.trans hok)
  refine ⟨bytes, hbytes, by omega, ?_⟩
  rw [hrecord, hdecode]
  rfl

theorem persistRoundTrips_iff_readTlvs (sequence : UInt32) (data : PersistDomainData)
    (tlvs : List Tlv)
    (hpayload : encodePersistPayload data (fpr2MaxRecordSize - fpr2HeaderLen) =
      pushFpr2Tlvs (fpr2MaxRecordSize - fpr2HeaderLen) [] tlvs)
    (hroom : fpr2HeaderLen + (tlvs.map fun tlv => 3 + tlv.value.length).sum ≤ data.domain.slotSize)
    (hsaw : (readTlvs data.domain tlvs).sawField = true) :
    PersistRoundTrips sequence data ↔ (readTlvs data.domain tlvs).finish data.domain = data := by
  obtain ⟨bytes, hbytes, hlen, hrecord⟩ := exists_record_of_tlvs data tlvs hpayload hroom hsaw
    sequence
  constructor
  · rintro ⟨other, hother, -, hread⟩
    obtain rfl : bytes = other := Except.ok.inj (hbytes.symm.trans hother)
    exact congrArg PersistRecord.data (Except.ok.inj (hrecord.symm.trans hread))
  · intro hfinish
    exact ⟨bytes, hbytes, hlen, by rw [hrecord, hfinish]⟩

/-! ## Calibration -/

structure SafetyCalibrationStorable (value : SafetyCalibration) : Prop where
  adcCalibration : AdcCalibrationStorable value.adcCalibration
  activeHeaterCurve :
    ∀ point ∈ present value.activeHeaterCurve.points, HeaterCurvePointStorable point
  heaterCurveRawObservations :
    ∀ point ∈ present value.heaterCurveRawObservations.points, point.rawRtdAdcMv ≠ 65535

theorem storedSafetyCalibration_eq_self_iff {value : SafetyCalibration} :
    storedSafetyCalibration value = value ↔ SafetyCalibrationStorable value := by
  constructor
  · intro h
    have hadc := congrArg SafetyCalibration.adcCalibration h
    have hcurve := congrArg SafetyCalibration.activeHeaterCurve h
    have hraw := congrArg SafetyCalibration.heaterCurveRawObservations h
    exact ⟨storedAdcCalibration_eq_self_iff.mp hadc, storedHeaterCurve_eq_self_iff.mp hcurve,
      storedRawObservations_eq_self_iff.mp hraw⟩
  · rintro ⟨hadc, hcurve, hraw⟩
    rw [storedSafetyCalibration, storedAdcCalibration_eq_self_iff.mpr hadc,
      storedHeaterCurve_eq_self_iff.mpr hcurve, storedRawObservations_eq_self_iff.mpr hraw]

theorem safetyCalibration_roundTrips_iff {value : SafetyCalibration} :
    PersistRoundTrips sequence (.safetyCalibration value) ↔ SafetyCalibrationStorable value := by
  have hread := readTlvs_safetyCalibration value
  rw [persistRoundTrips_iff_readTlvs sequence _ (safetyCalibrationTlvs value) rfl, domain, hread]
  · show safetyCalibration (storedSafetyCalibration value) = _ ↔ _
    rw [safetyCalibration.injEq, storedSafetyCalibration_eq_self_iff]
  · have hid : (value.heaterCurveTransactionId.toList.map fun transactionId =>
        3 + (u32Le transactionId).length).sum ≤ 7 := by
      cases value.heaterCurveTransactionId <;> simp
    have hactive : (encodeAdcCalibrationActiveSlots value.adcCalibration).length = 2 := rfl
    have hslot : PersistDomain.slotSize .safetyCalibration = 512 := rfl
    simp only [safetyCalibrationTlvs, List.map_append, List.sum_append, List.map_map,
      Function.comp_def, List.map_cons, List.map_nil, List.sum_cons, List.sum_nil,
      length_encodeAdcCalibrationSamples, length_encodeAdcCalibrationReferences,
      length_encodeAdcCalibrationTargets, length_encodeAdcCalibrationSlots,
      length_encodeHeaterCurve, length_encodeHeaterCurveRawObservations, hactive,
      domain, hslot, List.length_cons, List.length_nil]
    simp only [fpr2HeaderLen, adcCalibrationSamplePayloadLen, adcCalibrationReferencePayloadLen,
      adcCalibrationTargetPayloadLen, adcCalibrationSlotPayloadLen, heaterCurvePayloadLen,
      heaterCurveRawObservationsPayloadLen, adcCalibrationMaxSamples, heaterCurveMaxPoints]
    omega
  · rw [domain, hread]

/-! ## Profiles -/

/-- The twelve settings that a profile without points does not store have their
defaults. -/
def ProfileStorable (profile : ThermalControlProfileConfig) : Prop :=
  present profile.points = [] → profile.settings.globalsOnly = profile.settings

instance (profile : ThermalControlProfileConfig) : Decidable (ProfileStorable profile) :=
  inferInstanceAs (Decidable (_ → _))

theorem decode_canonicalProfile_eq_self_iff {profile : ThermalControlProfileConfig}
    (h : ProfileSanitized profile) :
    decodeThermalControlProfile
      (encodeThermalControlProfile (canonicalProfileForPersistence profile)) =
      canonicalProfileForPersistence profile ↔ ProfileStorable profile := by
  rw [decode_canonicalProfile h, canonicalProfileForPersistence_sanitized h,
    ThermalControlProfileConfig.mk.injEq, ProfileStorable]
  by_cases hnil : present profile.points = [] <;> simp [hnil]

theorem thermalPolicy_room :
    fpr2HeaderLen + ((thermalPolicyTlvs (.fromConfig config)).map fun tlv =>
      3 + tlv.value.length).sum ≤ PersistDomain.slotSize .thermalPolicy := by
  have h3aLen := length_encodeThermalControlProfile_le
    (canonicalProfileForPersistence config.activeThermalControlProfile)
  have h5aLen := length_encodeThermalControlProfile_le
    (canonicalProfileForPersistence config.thermalControlProfilePps5a)
  simp only [thermalPolicyTlvs, ThermalPolicy.fromConfig, List.map_cons, List.map_nil,
    List.sum_cons, List.sum_nil, List.length_cons, List.length_nil, PersistDomain.slotSize,
    fpr2HeaderLen]
  omega

theorem thermalPolicy_roundTrips_iff {config : MemoryConfig}
    (h3a : ProfileSanitized config.activeThermalControlProfile)
    (h5a : ProfileSanitized config.thermalControlProfilePps5a) :
    PersistRoundTrips sequence (.thermalPolicy (.fromConfig config)) ↔
      ProfileStorable config.activeThermalControlProfile ∧
        ProfileStorable config.thermalControlProfilePps5a := by
  have hread := readTlvs_thermalPolicy (.fromConfig config)
  have hiff := persistRoundTrips_iff_readTlvs sequence (.thermalPolicy (.fromConfig config)) _ rfl
    (thermalPolicy_room config)
    (by rw [domain, hread])
  rw [hiff, domain, hread, ← decode_canonicalProfile_eq_self_iff h3a,
    ← decode_canonicalProfile_eq_self_iff h5a]
  simp only [finish, thermalPolicy.injEq,
    ThermalPolicy.fromConfig, ThermalPolicy.mk.injEq, and_true]

/-! ## Preferences and network -/

/-- The compatibility flag is read back from the mode. -/
def CoolingStorable : Prop :=
  ¬ (config.postHeatCoolingMode = .fast ∧ config.activeCoolingEnabled = false)

instance (config : MemoryConfig) : Decidable (CoolingStorable config) :=
  inferInstanceAs (Decidable (¬ _))

theorem isEnabled_persistedPostHeatCoolingMode_iff {config : MemoryConfig} :
    (persistedPostHeatCoolingMode config).isEnabled = config.activeCoolingEnabled ↔
      CoolingStorable config := by
  unfold persistedPostHeatCoolingMode CoolingStorable
  cases config.postHeatCoolingMode <;> cases config.activeCoolingEnabled <;> decide

theorem userPreferences_roundTrips_iff {config : MemoryConfig}
    (hslot : config.selectedPresetSlot < frontpanelPresetCount)
    (hpresets : config.presetsC.map (Option.map clampTempC) = config.presetsC) :
    PersistRoundTrips sequence (.userPreferences (.fromConfig config)) ↔
      CoolingStorable config := by
  have hread := readTlvs_userPreferences (.fromConfig config)
  have hslotByte : (UInt8.ofNat config.selectedPresetSlot).toNat = config.selectedPresetSlot := by
    have hsmall : config.selectedPresetSlot < 10 := hslot
    rw [UInt8.toNat_ofNat']
    omega
  rw [persistRoundTrips_iff_readTlvs sequence _ (userPreferencesTlvs (.fromConfig config)) rfl,
    domain, hread]
  · rw [← isEnabled_persistedPostHeatCoolingMode_iff]
    simp only [finish, finishPrefs, if_true,
      userPreferences.injEq, UserPreferences.fromConfig,
      UserPreferences.mk.injEq, hslotByte, hpresets, true_and, and_true]
  · have hpresetsLen : (config.presetsC.toList.flatMap encodePreset).length = 20 := by
      rw [length_flatMap_chunk length_encodePreset, Vector.length_toList]
      rfl
    have hsize : PersistDomain.slotSize .userPreferences = 128 := rfl
    simp only [userPreferencesTlvs, UserPreferences.fromConfig, List.map_cons, List.map_nil,
      List.sum_cons, List.sum_nil, List.length_cons, List.length_nil, domain,
      hsize, hpresetsLen, length_i16Le, length_u32Le, fpr2HeaderLen]
    omega
  · rw [domain, hread]

theorem networkAndPairing_roundTrips (sequence : UInt32) (value : NetworkAndPairing) :
    PersistRoundTrips sequence (.networkAndPairing value) := by
  have hread := readTlvs_networkAndPairing value
  rw [persistRoundTrips_iff_readTlvs sequence _ (networkPairingTlvs value) rfl, domain, hread]
  · rfl
  · have hssid : value.wifiSsid.bytes.length ≤ 32 := value.wifiSsid.fits
    have hpassword : value.wifiPassword.bytes.length ≤ 64 := value.wifiPassword.fits
    have hipv4 : (value.wifiStaticIpv4.toList.map fun staticIpv4 =>
        3 + (encodeStaticIpv4 staticIpv4).length).sum ≤ 16 := by
      cases value.wifiStaticIpv4 <;> simp [length_encodeStaticIpv4]
    have htoken : (value.lanPairingToken.toList.map fun token =>
        3 + token.toList.length).sum ≤ 35 := by
      cases value.lanPairingToken <;> simp [lanTokenBytes]
    have hsize : PersistDomain.slotSize .networkAndPairing = 256 := rfl
    simp only [networkPairingTlvs, List.map_append, List.sum_append, List.map_map,
      Function.comp_def, List.map_cons, List.map_nil, List.sum_cons, List.sum_nil,
      List.length_cons, List.length_nil, domain, hsize, fpr2HeaderLen]
    omega
  · rw [domain, hread]

/-! ## Thermal plant -/

/-- What `from_config` has checked. -/
structure PlantWellFormed (value : ThermalPlantPersistence) : Prop where
  boundary : ∀ boundary ∈ value.supplyBoundary, boundary.IsValid
  active : ∀ transaction ∈ value.active,
    thermalPlantTransientTransactionHasValidStructure transaction
  paired : value.supplyBoundary = none → value.active = none

theorem plantWellFormed_fromConfig : PlantWellFormed (.fromConfig config) where
  boundary := by
    intro boundary h
    simpa using (Option.mem_filter_iff.mp h).2
  active := by
    intro transaction h
    exact (Option.mem_filter_iff.mp h).2
  paired := by
    intro h
    simp only [ThermalPlantPersistence.fromConfig] at h ⊢
    rw [h]
    rfl

structure ThermalPlantStorable (value : ThermalPlantPersistence) : Prop where
  points : ∀ boundary ∈ value.supplyBoundary, ∀ point ∈ boundary.recorded, Storable point
  boundaryTail : ∀ boundary ∈ value.supplyBoundary, boundary.TailIsDefault
  samples : ∀ transaction ∈ value.active, ∀ sample ∈ transaction.recorded, SampleFits sample
  transactionTail : ∀ transaction ∈ value.active, transaction.TailIsDefault
  room : ∀ boundary ∈ value.supplyBoundary, ∀ transaction ∈ value.active,
    11 * boundary.pointCount.toNat + 5 * transaction.sampleCount.toNat ≤ 692

/-- The bytes of a boundary that is known to encode. -/
def boundaryBytes (boundary : SupplyBoundary) : List UInt8 :=
  (Supply.encode boundary boundaryMaxBytes).getD []

theorem encode_boundaryBytes (h : boundary.IsValid) :
    Supply.encode boundary boundaryMaxBytes = some (boundaryBytes boundary) := by
  obtain ⟨powerUnits, -, hencode⟩ := encode_eq h
  rw [boundaryBytes, hencode, Option.getD_some]

theorem length_boundaryBytes (h : boundary.IsValid) :
    (boundaryBytes boundary).length = 26 + 11 * boundary.pointCount.toNat := by
  obtain ⟨powerUnits, -, hencode⟩ := encode_eq h
  rw [boundaryBytes, hencode, Option.getD_some, List.length_append, length_encodeHeader,
    length_flatMap_chunk length_encodePoint, Supply.length_recorded h]
  rfl

theorem decode_boundaryBytes_iff (h : boundary.IsValid) :
    Supply.decode (boundaryBytes boundary) = some boundary ↔
      (∀ point ∈ boundary.recorded, Storable point) ∧ boundary.TailIsDefault := by
  have hencode := encode_boundaryBytes h
  constructor
  · intro hdecode
    exact storable_of_roundTrips h ⟨_, hencode, hdecode⟩
  · rintro ⟨hstorable, htail⟩
    obtain ⟨bytes, hbytes, hdecode⟩ := roundTrips_of_storable h htail hstorable
    rw [hencode] at hbytes
    rw [Option.some_inj.mp hbytes]
    exact hdecode

def thermalPlantStateTlv : Option ThermalPlantTransientTransaction → Tlv
  | none => ⟨fpr2TlvThermalPlantState, [thermalPlantStateEmpty]⟩
  | some transaction =>
      ⟨tlvThermalPlantTransientActive, encodeThermalPlantPersistedTransaction transaction⟩

/-- The elements of a plant that passes the checks of the encoder. -/
def thermalPlantTlvs (value : ThermalPlantPersistence) : List Tlv :=
  (value.supplyBoundary.toList.map fun boundary =>
    ⟨tlvHeaterSupplyBoundary, boundaryBytes boundary⟩) ++ [thermalPlantStateTlv value.active]

section Plant

variable {value : ThermalPlantPersistence}

theorem pushFpr2Tlvs_append (capacity : ℕ) (payload : List UInt8) (left right : List Tlv) :
    pushFpr2Tlvs capacity payload (left ++ right) =
      (pushFpr2Tlvs capacity payload left).bind fun payload =>
        pushFpr2Tlvs capacity payload right := by
  induction left generalizing payload with
  | nil => rfl
  | cons tlv rest ih =>
    rw [List.cons_append, pushFpr2Tlvs, pushFpr2Tlvs]
    cases pushFpr2Tlv capacity payload tlv with
    | error e => rfl
    | ok next => exact ih next

theorem pushFpr2Tlvs_singleton (capacity : ℕ) (payload : List UInt8) (tlv : Tlv) :
    pushFpr2Tlvs capacity payload [tlv] = pushFpr2Tlv capacity payload tlv := by
  rw [pushFpr2Tlvs]
  cases pushFpr2Tlv capacity payload tlv <;> rfl

theorem pushSupplyBoundary_eq (hwf : PlantWellFormed value) (capacity : ℕ) :
    pushSupplyBoundary capacity value =
      pushFpr2Tlvs capacity [] (value.supplyBoundary.toList.map fun boundary =>
        ⟨tlvHeaterSupplyBoundary, boundaryBytes boundary⟩) := by
  unfold pushSupplyBoundary
  cases hboundary : value.supplyBoundary with
  | none => rfl
  | some boundary =>
    simp only [encode_boundaryBytes (hwf.boundary boundary hboundary), Option.toList_some,
      List.map_cons, List.map_nil, pushFpr2Tlvs_singleton]

theorem encodeThermalPlant_eq (hwf : PlantWellFormed value)
    (hfits : ∀ transaction ∈ value.active, ∀ sample ∈ transaction.recorded, SampleFits sample)
    (capacity : ℕ) :
    encodeThermalPlant capacity value = pushFpr2Tlvs capacity [] (thermalPlantTlvs value) := by
  have hstate : ∀ payload, pushThermalPlantState capacity payload value =
      pushFpr2Tlv capacity payload (thermalPlantStateTlv value.active) := by
    intro payload
    unfold pushThermalPlantState
    cases hactive : value.active with
    | none => rfl
    | some transaction =>
      have hok := (fits_iff (hwf.active transaction hactive)).mpr (hfits transaction hactive)
      exact if_neg (not_not_intro hok)
  rw [encodeThermalPlant, pushSupplyBoundary_eq hwf, thermalPlantTlvs, pushFpr2Tlvs_append]
  simp only [hstate, pushFpr2Tlvs_singleton]

/-- An encoder that succeeds has found that every sample fits. -/
theorem sampleFits_of_encode (hwf : PlantWellFormed value) {capacity : ℕ}
    {payload : List UInt8} (h : encodeThermalPlant capacity value = .ok payload) :
    ∀ transaction ∈ value.active, ∀ sample ∈ transaction.recorded, SampleFits sample := by
  intro transaction hactive
  refine (fits_iff (hwf.active transaction hactive)).mp ?_
  by_contra hfits
  rw [encodeThermalPlant] at h
  cases hpush : pushSupplyBoundary capacity value with
  | error e =>
    rw [hpush] at h
    cases h
  | ok next =>
    rw [hpush, Except.bind, pushThermalPlantState, hactive] at h
    simp only at h
    rw [if_pos hfits] at h
    cases h

theorem readTlvs_thermalPlant (hwf : PlantWellFormed value) :
    readTlvs .thermalPlant (thermalPlantTlvs value) =
      { thermalPlant :=
          { supplyBoundary := value.supplyBoundary.bind fun boundary =>
              Supply.decode (boundaryBytes boundary)
            active := value.active.bind fun transaction =>
              decodeThermalPlantPersistedTransaction
                (encodeThermalPlantPersistedTransaction transaction) }
        sawField := true } := by
  have hstate : ∀ state : PersistDecodeState, state.thermalPlant.active = none →
      state.applyTlv .thermalPlant (thermalPlantStateTlv value.active) =
        state.setThermalPlant { state.thermalPlant with
          active := value.active.bind fun transaction =>
            decodeThermalPlantPersistedTransaction
              (encodeThermalPlantPersistedTransaction transaction) } := by
    intro state hnone
    cases hactive : value.active with
    | none => exact applyThermalPlant_empty state
    | some transaction =>
      have hlen := length_encodePersistedTransaction transaction
      have hrecorded := length_recorded (hwf.active transaction hactive)
      have hcount := sampleCount_le (hwf.active transaction hactive)
      have hformat := (byteAt_transactionHeader transaction thermalPlantSupplyFormat
        (transaction.recorded.flatMap encodePersistedSample)).2
      refine applyThermalPlant_active state ?_ ?_ hformat
      · rw [thermalPlantStateTlv, hlen]
        exact Nat.le_add_right _ _
      · rw [thermalPlantStateTlv, hlen, hrecorded, Nat.mul_comm]
        exact Nat.add_le_add_left (Nat.mul_le_mul_right _ hcount) _
  rw [readTlvs, thermalPlantTlvs, List.foldl_append, List.foldl_cons, List.foldl_nil]
  cases hboundary : value.supplyBoundary with
  | none =>
    rw [Option.toList_none, List.map_nil, List.foldl_nil, hstate _ rfl]
    rfl
  | some boundary =>
    have hfirst : applyTlv .thermalPlant {}
        ⟨tlvHeaterSupplyBoundary, boundaryBytes boundary⟩ =
        setThermalPlant {}
          { supplyBoundary := Supply.decode (boundaryBytes boundary) } :=
      applyThermalPlant_boundary _
    rw [Option.toList_some, List.map_cons, List.map_nil, List.foldl_cons, List.foldl_nil,
      hfirst, hstate _ rfl]
    rfl

theorem decode_active_iff (hwf : PlantWellFormed value)
    (hfits : ∀ transaction ∈ value.active, ∀ sample ∈ transaction.recorded, SampleFits sample) :
    (value.active.bind fun transaction => decodeThermalPlantPersistedTransaction
      (encodeThermalPlantPersistedTransaction transaction)) = value.active ↔
      ∀ transaction ∈ value.active, transaction.TailIsDefault := by
  cases hactive : value.active with
  | none => simp
  | some transaction =>
    have hvalid := hwf.active transaction hactive
    rw [Option.bind_some, decodePersistedTransaction_encode hvalid (hfits transaction hactive),
      checkedTransaction_tail_iff hvalid]
    simp

theorem finish_thermalPlant_iff (hwf : PlantWellFormed value)
    (hfits : ∀ transaction ∈ value.active, ∀ sample ∈ transaction.recorded, SampleFits sample) :
    (readTlvs .thermalPlant (thermalPlantTlvs value)).finish .thermalPlant = .thermalPlant value ↔
    (∀ boundary ∈ value.supplyBoundary,
      (∀ point ∈ boundary.recorded, Storable point) ∧ boundary.TailIsDefault) ∧
    ∀ transaction ∈ value.active, transaction.TailIsDefault := by
  have hdecode := decode_active_iff hwf hfits
  rw [readTlvs_thermalPlant hwf]
  simp only [finish, finishThermalPlant, thermalPlant.injEq]
  obtain ⟨active, supplyBoundary⟩ := value
  cases supplyBoundary with
  | none =>
    obtain rfl : active = none := hwf.paired rfl
    simp
  | some boundary =>
    have hboundary := decode_boundaryBytes_iff (hwf.boundary boundary rfl)
    simp only at hdecode
    rw [Option.bind_some]
    constructor
    · intro h
      have hread := congrArg ThermalPlantPersistence.supplyBoundary h
      rw [apply_ite ThermalPlantPersistence.supplyBoundary, ite_self] at hread
      simp only at hread
      rw [hread] at h
      have hactive := congrArg ThermalPlantPersistence.active h
      exact ⟨by simpa using hboundary.mp hread, hdecode.mp hactive⟩
    · rintro ⟨hpoints, htail⟩
      have hread := hboundary.mpr (by simpa using hpoints)
      rw [hread, hdecode.mpr htail]
      rfl

theorem sum_thermalPlantTlvs (hwf : PlantWellFormed value) {boundary : SupplyBoundary}
    (hboundary : value.supplyBoundary = some boundary) :
    ((thermalPlantTlvs value).map fun tlv => 3 + tlv.value.length).sum =
      29 + 11 * boundary.pointCount.toNat + 3 +
        (thermalPlantStateTlv value.active).value.length := by
  have hlen := length_boundaryBytes (hwf.boundary boundary hboundary)
  rw [thermalPlantTlvs, hboundary, Option.toList_some, List.map_append, List.sum_append]
  simp only [List.map_cons, List.map_nil, List.sum_cons, List.sum_nil, hlen]
  omega

theorem length_stateTlv (hwf : PlantWellFormed value)
    {transaction : ThermalPlantTransientTransaction} (hactive : value.active = some transaction) :
    (thermalPlantStateTlv value.active).value.length = 24 + 5 * transaction.sampleCount.toNat := by
  rw [hactive, thermalPlantStateTlv, length_encodePersistedTransaction,
    length_recorded (hwf.active transaction hactive)]

/-- The elements fit the slot exactly when a boundary and a transaction that are both
there share it. -/
theorem room_iff (hwf : PlantWellFormed value) :
    fpr2HeaderLen + ((thermalPlantTlvs value).map fun tlv => 3 + tlv.value.length).sum ≤
      PersistDomain.slotSize .thermalPlant ↔
    ∀ boundary ∈ value.supplyBoundary, ∀ transaction ∈ value.active,
      11 * boundary.pointCount.toNat + 5 * transaction.sampleCount.toNat ≤ 692 := by
  have hslot : PersistDomain.slotSize .thermalPlant = 768 := rfl
  have hheader : fpr2HeaderLen = 20 := rfl
  cases hboundary : value.supplyBoundary with
  | none =>
    rw [thermalPlantTlvs, hboundary, hwf.paired hboundary]
    simp [thermalPlantStateTlv, hslot, hheader]
  | some boundary =>
    have hcount : boundary.pointCount.toNat ≤ 41 :=
      UInt8.le_iff_toNat_le.mp (hwf.boundary boundary hboundary).pointCountLe
    rw [sum_thermalPlantTlvs hwf hboundary, hslot, hheader]
    cases hactive : value.active with
    | none =>
      simp only [thermalPlantStateTlv, List.length_cons, List.length_nil]
      simp
      omega
    | some transaction =>
      have hlen := length_stateTlv hwf hactive
      rw [hactive] at hlen
      rw [hlen]
      simp only [Option.mem_def, Option.some.injEq, forall_eq']
      omega

theorem thermalPlant_roundTrips_iff {sequence : UInt32} (hwf : PlantWellFormed value) :
    PersistRoundTrips sequence (.thermalPlant value) ↔ ThermalPlantStorable value := by
  have hiff : (∀ transaction ∈ value.active, ∀ sample ∈ transaction.recorded, SampleFits sample) →
      fpr2HeaderLen + ((thermalPlantTlvs value).map fun tlv => 3 + tlv.value.length).sum ≤
        PersistDomain.slotSize .thermalPlant →
      (PersistRoundTrips sequence (.thermalPlant value) ↔
        (readTlvs .thermalPlant (thermalPlantTlvs value)).finish .thermalPlant =
          .thermalPlant value) := by
    intro hfits hroom
    refine persistRoundTrips_iff_readTlvs sequence (.thermalPlant value) _ ?_ hroom ?_
    · exact encodeThermalPlant_eq hwf hfits _
    · rw [domain, readTlvs_thermalPlant hwf]
  constructor
  · intro h
    obtain ⟨payload, hpayload, hslot, -⟩ := persistRoundTrips_iff_payload.mp h
    have hfits := sampleFits_of_encode hwf hpayload
    have hroom : fpr2HeaderLen +
        ((thermalPlantTlvs value).map fun tlv => 3 + tlv.value.length).sum ≤
        PersistDomain.slotSize .thermalPlant := by
      have hpush : pushFpr2Tlvs (fpr2MaxRecordSize - fpr2HeaderLen) [] (thermalPlantTlvs value) =
          .ok payload := (encodeThermalPlant_eq hwf hfits _).symm.trans hpayload
      have hbytes := eq_of_pushFpr2Tlvs hpush
      rw [List.nil_append] at hbytes
      rw [← length_encodeTlvs, ← hbytes]
      exact hslot
    obtain ⟨hboundary, htail⟩ := (finish_thermalPlant_iff hwf hfits).mp ((hiff hfits hroom).mp h)
    exact ⟨fun boundary hmem => (hboundary boundary hmem).1,
      fun boundary hmem => (hboundary boundary hmem).2, hfits, htail, (room_iff hwf).mp hroom⟩
  · intro h
    refine (hiff h.samples ((room_iff hwf).mpr h.room)).mpr ?_
    refine (finish_thermalPlant_iff hwf h.samples).mpr ⟨?_, h.transactionTail⟩
    intro boundary hmem
    exact ⟨h.points boundary hmem, h.boundaryTail boundary hmem⟩

end Plant

/-! ## All domains -/

/-- The condition on a configuration under which a domain of it can be saved. -/
def PersistDomain.Storable : PersistDomain → Prop
  | safetyCalibration => SafetyCalibrationStorable (.fromConfig config)
  | thermalPolicy =>
      ProfileStorable config.activeThermalControlProfile ∧
        ProfileStorable config.thermalControlProfilePps5a
  | userPreferences => CoolingStorable config
  | networkAndPairing => True
  | layoutMarker => True
  | thermalPlant => ThermalPlantStorable (.fromConfig config)

theorem selectedPresetSlot_sanitize_lt :
    config.sanitize.selectedPresetSlot < frontpanelPresetCount := by
  simp only [MemoryConfig.sanitize]
  split
  · decide
  · omega

theorem clampTempC_clampTempC (value : Int16) : clampTempC (clampTempC value) = clampTempC value :=
  clampTempC_eq_self (clampTempC_bounds value).1 (clampTempC_bounds value).2

theorem presetsC_sanitize :
    config.sanitize.presetsC.map (Option.map clampTempC) = config.sanitize.presetsC := by
  simp only [MemoryConfig.sanitize]
  apply Vector.ext
  intro index hindex
  simp only [Vector.getElem_map, Option.map_map, Function.comp_def, clampTempC_clampTempC]

/-- A domain of a sanitized configuration can be saved exactly when it is storable. -/
theorem persistRoundTrips_iff_storable (config : MemoryConfig) (sequence : UInt32)
    (domain : PersistDomain) {data : PersistDomainData}
    (hdata : domain.dataOf config.sanitize = some data) :
    PersistRoundTrips sequence data ↔ domain.Storable config.sanitize := by
  cases domain with
  | safetyCalibration =>
      obtain rfl := Option.some_inj.mp hdata
      exact safetyCalibration_roundTrips_iff
  | thermalPolicy =>
      obtain rfl := Option.some_inj.mp hdata
      exact thermalPolicy_roundTrips_iff (profileSanitized_sanitize _)
        (profileSanitized_sanitize _)
  | userPreferences =>
      obtain rfl := Option.some_inj.mp hdata
      exact userPreferences_roundTrips_iff (selectedPresetSlot_sanitize_lt config)
        (presetsC_sanitize config)
  | networkAndPairing =>
      obtain rfl := Option.some_inj.mp hdata
      exact iff_true_intro (networkAndPairing_roundTrips sequence _)
  | layoutMarker => cases hdata
  | thermalPlant =>
      obtain rfl := Option.some_inj.mp hdata
      exact thermalPlant_roundTrips_iff (plantWellFormed_fromConfig _)

theorem default_persistRoundTrips_iff_storable :
    PersistRoundTrips 1 (.thermalPolicy (.fromConfig (MemoryConfig.sanitize {}))) ↔
      PersistDomain.Storable (MemoryConfig.sanitize {}) .thermalPolicy :=
  persistRoundTrips_iff_storable {} 1 .thermalPolicy rfl

/-- Only a setting that points would inherit differs from the defaults, and there
are no points. -/
def gainWithoutPoints : MemoryConfig :=
  { activeThermalControlProfile := { settings := { holdKpPermillePerC := 200 } } }

/-- A gain that was edited before the first point cannot be saved: it is written with
the points only. -/
theorem not_all_domains_persistRoundTrip :
    ¬ ∀ (config : MemoryConfig) (sequence : UInt32), ∀ domain ∈ fpr2SnapshotDomains,
      ∃ data, domain.dataOf config.sanitize = some data ∧ PersistRoundTrips sequence data := by
  intro h
  obtain ⟨data, hdata, hround⟩ := h gainWithoutPoints 1 .thermalPolicy (by decide)
  obtain rfl := Option.some_inj.mp hdata
  have hstorable := (thermalPolicy_roundTrips_iff (profileSanitized_sanitize _)
    (profileSanitized_sanitize _)).mp hround
  have hnot : ¬ ProfileStorable gainWithoutPoints.sanitize.activeThermalControlProfile := by
    decide +kernel
  exact hnot hstorable.1

end FluxPurr.Memory
