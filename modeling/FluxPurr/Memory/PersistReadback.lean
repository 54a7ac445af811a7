import FluxPurr.Memory.PersistCodec
import FluxPurr.Memory.TransientReadback

/-!
# What is read back of a stored domain

`decodePersistRecord_encode` strips the record: what is read back is what
`decodePersistPayload` makes of the payload.  For the four domains that are plain
lists of elements, and for the layout marker, the payload is then evaluated to a
closed form of the stored value.
-/

namespace FluxPurr.Memory

open FluxPurr.Wire FluxPurr.Supply
open PersistDecodeState

/-! ## Pushing elements -/

theorem length_encodeTlvs (tlvs : List Tlv) :
    (encodeTlvs 2 tlvs).length = (tlvs.map fun tlv => 3 + tlv.value.length).sum := by
  induction tlvs with
  | nil => rfl
  | cons tlv rest ih =>
    rw [encodeTlvs] at ih
    rw [encodeTlvs, List.flatMap_cons, List.length_append, length_encodeTlv, ih, List.map_cons,
      List.sum_cons]

variable {capacity : ℕ} (sequence : UInt32)

theorem pushFpr2Tlv_eq_ok_iff {payload written : List UInt8} {tlv : Tlv} :
    pushFpr2Tlv capacity payload tlv = .ok written ↔
      payload.length + 3 + tlv.value.length ≤ capacity ∧ tlv.value.length ≤ 65535 ∧
        written = payload ++ encodeTlv 2 tlv := by
  unfold pushFpr2Tlv
  constructor
  · intro h
    split at h
    · cases h
    · split at h
      · cases h
      · cases h
        exact ⟨by omega, by omega, rfl⟩
  · rintro ⟨hroom, hlen, rfl⟩
    rw [if_neg (by omega), if_neg (by omega)]

variable {tlvs : List Tlv} {payload : List UInt8}

theorem pushFpr2Tlvs_of_fits (hroom : payload.length + (encodeTlvs 2 tlvs).length ≤ capacity)
    (hlen : ∀ tlv ∈ tlvs, tlv.value.length ≤ 65535) :
    pushFpr2Tlvs capacity payload tlvs = .ok (payload ++ encodeTlvs 2 tlvs) := by
  induction tlvs generalizing payload with
  | nil => simp [pushFpr2Tlvs, encodeTlvs]
  | cons tlv rest ih =>
    rw [encodeTlvs, List.flatMap_cons, List.length_append, length_encodeTlv] at hroom
    have hpush : pushFpr2Tlv capacity payload tlv = .ok (payload ++ encodeTlv 2 tlv) :=
      pushFpr2Tlv_eq_ok_iff.mpr ⟨by omega, hlen tlv (by simp), rfl⟩
    have hnext : (payload ++ encodeTlv 2 tlv).length + (encodeTlvs 2 rest).length ≤ capacity := by
      rw [List.length_append, length_encodeTlv, encodeTlvs]
      omega
    have hrest := ih hnext (fun t ht => hlen t (by simp [ht]))
    rw [pushFpr2Tlvs, hpush, Except.bind, hrest, encodeTlvs, encodeTlvs, List.flatMap_cons,
      List.append_assoc]

theorem eq_of_pushFpr2Tlvs {payload written : List UInt8}
    (h : pushFpr2Tlvs capacity payload tlvs = .ok written) :
    written = payload ++ encodeTlvs 2 tlvs := by
  induction tlvs generalizing payload with
  | nil =>
    cases h
    simp [encodeTlvs]
  | cons tlv rest ih =>
    rw [pushFpr2Tlvs] at h
    cases hpush : pushFpr2Tlv capacity payload tlv with
    | error e =>
      rw [hpush] at h
      cases h
    | ok next =>
      rw [hpush] at h
      obtain ⟨-, -, rfl⟩ := pushFpr2Tlv_eq_ok_iff.mp hpush
      rw [ih h, encodeTlvs, encodeTlvs, List.flatMap_cons, List.append_assoc]

theorem decodePersistPayload_encodeTlvs {domain : PersistDomain}
    (hlen : ∀ tlv ∈ tlvs, tlv.value.length ≤ 65535) :
    decodePersistPayload domain (encodeTlvs 2 tlvs) =
      if (tlvs.foldl (applyTlv domain) {}).sawField then
        .ok ((tlvs.foldl (applyTlv domain) {}).finish domain)
      else .error .invalidDomainPayload := by
  have hparse : tlvsOf 2 (encodeTlvs 2 tlvs) = some tlvs :=
    tlvsOf_encodeTlvs fun tlv htlv => by
      have h := hlen tlv htlv
      norm_num
      omega
  simp only [decodePersistPayload, hparse]

/-! ## Elements of later versions -/

theorem applyTlv_of_later {domain : PersistDomain} {tlv : Tlv}
    (h : tlvHeaterSupplyBoundary < tlv.tag) (state : PersistDecodeState) :
    applyTlv domain state tlv = state := by
  have hne (tag : UInt8) (htag : tag ≤ tlvHeaterSupplyBoundary) : (tlv.tag = tag) = False :=
    eq_false fun heq => (UInt8.not_le.mpr h) (heq ▸ htag)
  cases domain <;>
    simp (disch := decide) only [applyTlv, applySafety, applyThermal, applyPreferences,
      applyNetwork, applyMarker, applyThermalPlant, hne, false_and, if_false]

/-- Elements with tags that this version does not have are passed over, wherever they are. -/
theorem decodePersistPayload_filter (domain : PersistDomain)
    (hlen : ∀ tlv ∈ tlvs, tlv.value.length ≤ 65535) :
    decodePersistPayload domain (encodeTlvs 2 tlvs) =
      decodePersistPayload domain
        (encodeTlvs 2 (tlvs.filter (·.tag ≤ tlvHeaterSupplyBoundary))) := by
  have hfold : tlvs.foldl (applyTlv domain) {} =
      (tlvs.filter (·.tag ≤ tlvHeaterSupplyBoundary)).foldl (applyTlv domain) {} := by
    rw [List.foldl_filter]
    refine List.foldl_ext _ _ _ fun state tlv _ => ?_
    split_ifs with hknown
    · rfl
    · exact applyTlv_of_later (UInt8.not_le.mp (by simpa using hknown)) state
  rw [decodePersistPayload_encodeTlvs hlen, decodePersistPayload_encodeTlvs, hfold]
  exact fun tlv htlv => hlen tlv (List.mem_of_mem_filter htlv)

theorem decodePersistPayload_filter_later :
    decodePersistPayload .thermalPolicy (encodeTlvs 2 [⟨0x70, [1]⟩, ⟨tlvThermalProfileMode, [2]⟩]) =
      decodePersistPayload .thermalPolicy (encodeTlvs 2 [⟨tlvThermalProfileMode, [2]⟩]) :=
  decodePersistPayload_filter .thermalPolicy (by decide)

/-! ## Records -/

variable (domain : PersistDomain)

@[simp] theorem length_encodePersistHeader
    (payloadLen : ℕ) : (encodePersistHeader sequence domain payloadLen).length = 16 := by
  simp [encodePersistHeader, fpr2Magic]

theorem readU32_header_sequence (payloadLen : ℕ) (rest : List UInt8) :
    readU32 (encodePersistHeader sequence domain payloadLen ++ rest) 8 = sequence := by
  rw [encodePersistHeader, List.append_assoc, readU32_append_right (by simp [fpr2Magic]),
    List.append_assoc, readU32_append_right (by simp [fpr2Magic]), List.append_assoc]
  exact readU32_u32Le _ _

theorem readU16_header_payloadLen (payloadLen : ℕ) (rest : List UInt8) :
    readU16 (encodePersistHeader sequence domain payloadLen ++ rest) 12 =
      UInt16.ofNat payloadLen := by
  rw [encodePersistHeader, List.append_assoc, readU16_append_right (by simp [fpr2Magic]),
    List.append_assoc, readU16_append_right (by simp [fpr2Magic]), List.append_assoc,
    readU16_append_right (by simp [fpr2Magic]), List.append_assoc]
  exact readU16_u16Le _ _

theorem slotSize_le : domain.slotSize ≤ fpr2MaxRecordSize := by
  cases domain <;> decide

/-- The record is sound whatever the payload is, as long as it fits the slot. -/
theorem decodePersistRecord_record (hslot : fpr2HeaderLen + payload.length ≤ domain.slotSize) :
    decodePersistRecord (encodePersistHeader sequence domain payload.length ++
      (u32Le (recordCrc (encodePersistHeader sequence domain payload.length) payload) ++
        payload)) =
      (decodePersistPayload domain payload).map fun data => ⟨sequence, data⟩ := by
  have hsize : domain.slotSize ≤ 768 := slotSize_le domain
  have hlen : (UInt16.ofNat payload.length).toNat = payload.length := by
    rw [UInt16.toNat_ofNat']
    omega
  have hsequence := readU32_header_sequence sequence domain payload.length
  have hpayloadLen := readU16_header_payloadLen sequence domain payload.length
  have htag : ∀ rest, PersistDomain.fromWire (byteAt (encodePersistHeader sequence domain
      payload.length ++ rest) 5) = some domain := fun rest => PersistDomain.fromWire_toWire domain
  generalize hheader : encodePersistHeader sequence domain payload.length = header at *
  have hheaderLen : header.length = 16 := by rw [← hheader, length_encodePersistHeader]
  have hcrc : readU32 (header ++ (u32Le (recordCrc header payload) ++ payload)) 16 =
      recordCrc header payload := by
    rw [readU32_append_right (by omega), hheaderLen]
    exact readU32_u32Le _ _
  have htake : (header ++ (u32Le (recordCrc header payload) ++ payload)).take 16 = header :=
    List.take_left' hheaderLen
  have hdrop : (header ++ (u32Le (recordCrc header payload) ++ payload)).drop fpr2HeaderLen =
      payload := by
    rw [← List.append_assoc]
    exact List.drop_left' (by simp [hheaderLen])
  have hmagic : (header ++ (u32Le (recordCrc header payload) ++ payload)).take 4 = fpr2Magic := by
    rw [← hheader]
    rfl
  have hversion : byteAt (header ++ (u32Le (recordCrc header payload) ++ payload)) 4 =
      fpr2FormatVersion := by
    rw [← hheader]
    rfl
  have hheaderByte : byteAt (header ++ (u32Le (recordCrc header payload) ++ payload)) 7 = 20 := by
    rw [← hheader]
    rfl
  have htotal : (header ++ (u32Le (recordCrc header payload) ++ payload)).length =
      fpr2HeaderLen + payload.length := by
    rw [List.length_append, List.length_append, hheaderLen, length_u32Le, ← Nat.add_assoc]
  have hbody : decodePersistBody domain (header ++ (u32Le (recordCrc header payload) ++ payload)) =
      (decodePersistPayload domain payload).map fun data => ⟨sequence, data⟩ := by
    rw [decodePersistBody, hpayloadLen, hlen, hdrop, List.take_length, hcrc, htake, hsequence,
      htotal, if_neg, if_neg (by simp)]
    exact not_or.mpr ⟨by omega, by omega⟩
  rw [decodePersistRecord, htotal, if_neg (by omega), hmagic, if_neg (by simp), hversion,
    if_neg (by simp), htag, hheaderByte]
  simp only
  rw [if_neg (by decide), hbody]

variable {data : PersistDomainData}

/-- A record that was encoded is decoded from its payload, and fits its slot. -/
theorem encodePersistRecord_eq_ok {sequence : UInt32}
    {bytes : List UInt8} (h : encodePersistRecord sequence data capacity = .ok bytes) :
    ∃ payload, encodePersistPayload data (capacity - fpr2HeaderLen) = .ok payload ∧
      fpr2HeaderLen + payload.length ≤ data.domain.slotSize ∧
      bytes.length = fpr2HeaderLen + payload.length ∧
      decodePersistRecord bytes =
        (decodePersistPayload data.domain payload).map fun data => ⟨sequence, data⟩ := by
  unfold encodePersistRecord at h
  split at h
  · cases h
  · split at h
    · cases h
    · rename_i payload hpayload
      split at h
      · cases h
      · rename_i hslot
        cases h
        refine ⟨payload, hpayload, by omega, ?_, decodePersistRecord_record sequence _ (by omega)⟩
        rw [List.length_append, List.length_append, length_encodePersistHeader, length_u32Le,
          ← Nat.add_assoc]

theorem encodePersistRecord_of_payload (hcapacity : fpr2HeaderLen ≤ capacity)
    (hpayload : encodePersistPayload data (capacity - fpr2HeaderLen) = .ok payload)
    (hslot : fpr2HeaderLen + payload.length ≤ data.domain.slotSize) :
    ∃ bytes, encodePersistRecord sequence data capacity = .ok bytes := by
  rw [encodePersistRecord, if_neg (by omega), hpayload]
  simp only
  rw [if_neg (by omega)]
  exact ⟨_, rfl⟩

/-! ## Applying one element

An element with a known tag and the length that belongs to it is not seen by the
branches before its own. -/

theorem ite_tag_ne {α : Type*} {tag other : UInt8} (h : tag ≠ other) {P : Prop}
    [Decidable P] (a b : α) : (if tag = other ∧ P then a else b) = b :=
  if_neg fun hboth => h hboth.1

namespace PersistDecodeState

variable (state : PersistDecodeState) {value : List UInt8}

theorem applySafety_required (h : value.length = 1) :
    state.applySafety tlvCommissioningRequired value =
      state.setSafety { state.safety with commissioningRequired := byteAt value 0 ≠ 0 } :=
  if_pos ⟨rfl, h⟩

theorem applySafety_samples (h : value.length = adcCalibrationSamplePayloadLen) :
    state.applySafety tlvAdcCalibrationSamples value =
      state.setAdc (decodeAdcCalibrationSamples value) := by
  rw [applySafety, ite_tag_ne (by decide), if_pos ⟨rfl, h⟩]

theorem applySafety_references (h : value.length = adcCalibrationReferencePayloadLen) :
    state.applySafety tlvAdcCalibrationReferences value =
      state.setAdc (decodeAdcCalibrationReferences value state.safety.adcCalibration) := by
  rw [applySafety, ite_tag_ne (by decide), ite_tag_ne (by decide), if_pos ⟨rfl, h⟩]

theorem applySafety_targets (h : value.length = adcCalibrationTargetPayloadLen) :
    state.applySafety tlvAdcCalibrationTargets value =
      state.setAdc (decodeAdcCalibrationTargets value state.safety.adcCalibration) := by
  rw [applySafety, ite_tag_ne (by decide), ite_tag_ne (by decide), ite_tag_ne (by decide),
    if_pos ⟨rfl, h⟩]

theorem applySafety_slots (h : value.length = adcCalibrationSlotPayloadLen) :
    state.applySafety tlvAdcCalibrationSlots value =
      state.setAdc (decodeAdcCalibrationSlots value state.safety.adcCalibration) := by
  rw [applySafety, ite_tag_ne (by decide), ite_tag_ne (by decide), ite_tag_ne (by decide),
    ite_tag_ne (by decide), if_pos ⟨rfl, h⟩]

theorem applySafety_activeSlots (h : value.length = adcCalibrationActiveSlotPayloadLen) :
    state.applySafety tlvAdcCalibrationActiveSlots value =
      state.setAdc (decodeAdcCalibrationActiveSlots value state.safety.adcCalibration) := by
  rw [applySafety, ite_tag_ne (by decide), ite_tag_ne (by decide), ite_tag_ne (by decide),
    ite_tag_ne (by decide), ite_tag_ne (by decide), if_pos ⟨rfl, h⟩]

theorem applySafety_heaterCurve (h : value.length = heaterCurvePayloadLen) :
    state.applySafety tlvActiveHeaterCurve value =
      state.setSafety { state.safety with activeHeaterCurve := decodeHeaterCurve value } := by
  rw [applySafety, ite_tag_ne (by decide), ite_tag_ne (by decide), ite_tag_ne (by decide),
    ite_tag_ne (by decide), ite_tag_ne (by decide), ite_tag_ne (by decide), if_pos ⟨rfl, h⟩]

theorem applySafety_rawObservations (h : value.length = heaterCurveRawObservationsPayloadLen) :
    state.applySafety tlvHeaterCurveRawObservations value =
      state.setSafety { state.safety with
        heaterCurveRawObservations := decodeHeaterCurveRawObservations value } := by
  rw [applySafety, ite_tag_ne (by decide), ite_tag_ne (by decide), ite_tag_ne (by decide),
    ite_tag_ne (by decide), ite_tag_ne (by decide), ite_tag_ne (by decide),
    ite_tag_ne (by decide), if_pos ⟨rfl, h⟩]

theorem applySafety_transactionId (h : value.length = 4) :
    state.applySafety tlvHeaterCurveTransactionId value =
      state.setSafety { state.safety with
        heaterCurveTransactionId := some (readU32 value 0) } := by
  rw [applySafety, ite_tag_ne (by decide), ite_tag_ne (by decide), ite_tag_ne (by decide),
    ite_tag_ne (by decide), ite_tag_ne (by decide), ite_tag_ne (by decide),
    ite_tag_ne (by decide), ite_tag_ne (by decide), if_pos ⟨rfl, h⟩]

theorem applyThermal_pps3a : state.applyThermal tlvThermalControlProfilePps3a value =
      state.setThermal { state.thermal with pps3aProfile := decodeThermalControlProfile value } :=
  if_pos rfl

theorem applyThermal_pps5a : state.applyThermal tlvThermalControlProfilePps5a value =
      state.setThermal
        { state.thermal with pps5aProfile := decodeThermalControlProfile value } := by
  rw [applyThermal, if_neg (by decide), if_pos rfl]

theorem applyThermal_mode (h : value.length = 1) :
    state.applyThermal tlvThermalProfileMode value =
      state.setThermal
        { state.thermal with mode := decodeThermalProfileMode (byteAt value 0) } := by
  rw [applyThermal, if_neg (by decide), if_neg (by decide), if_pos ⟨rfl, h⟩]

theorem applyPreferences_target (h : value.length = 2) :
    state.applyPreferences tlvTargetTempC value =
      state.setPrefs { state.prefs with targetTempC := readI16 value 0 } :=
  if_pos ⟨rfl, h⟩

theorem applyPreferences_slot (h : value.length = 1) :
    state.applyPreferences tlvSelectedPresetSlot value =
      state.setPrefs { state.prefs with selectedPresetSlot := (byteAt value 0).toNat } := by
  rw [applyPreferences, ite_tag_ne (by decide), if_pos ⟨rfl, h⟩]

theorem applyPreferences_presets (h : value.length = frontpanelPresetCount * 2) :
    state.applyPreferences tlvPresetsC value =
      state.setPrefs { state.prefs with presetsC := decodePresets value } := by
  rw [applyPreferences, ite_tag_ne (by decide), ite_tag_ne (by decide), if_pos ⟨rfl, h⟩]

theorem applyPreferences_cooling (h : value.length = 1) :
    state.applyPreferences tlvActiveCoolingEnabled value =
      state.setPrefs { state.prefs with activeCoolingEnabled := byteAt value 0 ≠ 0 } := by
  rw [applyPreferences, ite_tag_ne (by decide), ite_tag_ne (by decide), ite_tag_ne (by decide),
    if_pos ⟨rfl, h⟩]

theorem applyPreferences_postHeat (h : value.length = 1) :
    state.applyPreferences tlvPostHeatCoolingMode value =
      { state.setPrefs { state.prefs with
          postHeatCoolingMode := decodePostHeatCoolingMode (byteAt value 0) } with
        sawPostHeatMode := true } := by
  rw [applyPreferences, ite_tag_ne (by decide), ite_tag_ne (by decide), ite_tag_ne (by decide),
    ite_tag_ne (by decide), if_pos ⟨rfl, h⟩]

theorem applyPreferences_guard (h : value.length = 1) :
    state.applyPreferences tlvHeatingFanGuardMode value =
      state.setPrefs { state.prefs with
        heatingFanGuardMode := decodeHeatingFanGuardMode (byteAt value 0) } := by
  rw [applyPreferences, ite_tag_ne (by decide), ite_tag_ne (by decide), ite_tag_ne (by decide),
    ite_tag_ne (by decide), ite_tag_ne (by decide), if_pos ⟨rfl, h⟩]

theorem applyPreferences_telemetry (h : value.length = 4) :
    state.applyPreferences tlvTelemetryIntervalMs value =
      state.setPrefs { state.prefs with telemetryIntervalMs := readU32 value 0 } := by
  rw [applyPreferences, ite_tag_ne (by decide), ite_tag_ne (by decide), ite_tag_ne (by decide),
    ite_tag_ne (by decide), ite_tag_ne (by decide), ite_tag_ne (by decide), if_pos ⟨rfl, h⟩]

theorem applyNetwork_ssid : state.applyNetwork tlvWifiSsid value =
      state.setNetwork { state.network with wifiSsid := .ofBytes _ value } :=
  if_pos rfl

theorem applyNetwork_password : state.applyNetwork tlvWifiPassword value =
      state.setNetwork { state.network with wifiPassword := .ofBytes _ value } := by
  rw [applyNetwork, if_neg (by decide), if_pos rfl]

theorem applyNetwork_autoReconnect (h : value.length = 1) :
    state.applyNetwork tlvWifiAutoReconnect value =
      state.setNetwork { state.network with wifiAutoReconnect := byteAt value 0 ≠ 0 } := by
  rw [applyNetwork, if_neg (by decide), if_neg (by decide), if_pos ⟨rfl, h⟩]

theorem applyNetwork_staticIpv4 (h : value.length = 13) :
    state.applyNetwork tlvWifiStaticIpv4 value =
      state.setNetwork { state.network with wifiStaticIpv4 := some (decodeStaticIpv4 value) } := by
  rw [applyNetwork, if_neg (by decide), if_neg (by decide), ite_tag_ne (by decide), if_pos ⟨rfl, h⟩]

theorem applyNetwork_token (h : value.length = lanTokenBytes) :
    state.applyNetwork tlvLanPairingToken value =
      state.setNetwork { state.network with
        lanPairingToken := some (readArray value 0 lanTokenBytes) } := by
  rw [applyNetwork, if_neg (by decide), if_neg (by decide), ite_tag_ne (by decide),
    ite_tag_ne (by decide), if_pos ⟨rfl, h⟩]

theorem applyThermalPlant_boundary : state.applyThermalPlant tlvHeaterSupplyBoundary value =
      state.setThermalPlant { state.thermalPlant with supplyBoundary := Supply.decode value } :=
  if_pos rfl

theorem applyThermalPlant_empty :
    state.applyThermalPlant fpr2TlvThermalPlantState [thermalPlantStateEmpty] =
      state.setThermalPlant { state.thermalPlant with active := none } := by
  rw [applyThermalPlant, if_neg (by decide), if_pos ⟨rfl, rfl, rfl⟩]

theorem applyThermalPlant_active (hlow : thermalPlantTransientHeaderLen ≤ value.length)
    (hhigh : value.length ≤ thermalPlantTransientHeaderLen +
      thermalPlantTransientMaxSamples * thermalPlantPersistedSamplePayloadLen)
    (hformat : byteAt value 7 = thermalPlantSupplyFormat) :
    state.applyThermalPlant tlvThermalPlantTransientActive value =
      state.setThermalPlant { state.thermalPlant with
        active := decodeThermalPlantPersistedTransaction value } := by
  rw [applyThermalPlant, if_neg (by decide), ite_tag_ne (by decide), if_pos ⟨rfl, hlow, hhigh⟩,
    if_pos hformat]

end PersistDecodeState

/-! ## The domains -/

/-- The elements of a payload, applied to the initial state. -/
def readTlvs (tlvs : List Tlv) : PersistDecodeState := tlvs.foldl (applyTlv domain) {}

theorem byteAt_toUInt8 (flag : Bool) : decide (byteAt [flag.toUInt8] 0 ≠ 0) = flag := by
  cases flag <;> rfl

theorem readU32_u32Le_nil (value : UInt32) : readU32 (u32Le value) 0 = value := by
  have h := readU32_u32Le value []
  rwa [List.append_nil] at h

/-- What is stored of the calibration domain. -/
def storedSafetyCalibration (value : SafetyCalibration) : SafetyCalibration :=
  { value with
    adcCalibration := storedAdcCalibration value.adcCalibration
    activeHeaterCurve := { points := value.activeHeaterCurve.points.map storedHeaterCurvePoint }
    heaterCurveRawObservations :=
      { points := value.heaterCurveRawObservations.points.map storedRawObservation } }

theorem readTlvs_safetyCalibration (value : SafetyCalibration) :
    readTlvs .safetyCalibration (safetyCalibrationTlvs value) =
      { safety := storedSafetyCalibration value, sawField := true } := by
  rw [storedSafetyCalibration, ← decodeAdcCalibration_encode, ← decodeHeaterCurve_encode,
    ← decodeHeaterCurveRawObservations_encode]
  obtain ⟨required, adc, curve, raw, transactionId⟩ := value
  simp only [readTlvs, safetyCalibrationTlvs, List.foldl_append, List.foldl_cons,
    List.foldl_nil, applyTlv]
  rw [applySafety_required _ rfl,
    applySafety_samples _ (length_encodeAdcCalibrationSamples adc),
    applySafety_references _ (length_encodeAdcCalibrationReferences adc),
    applySafety_targets _ (length_encodeAdcCalibrationTargets adc),
    applySafety_slots _ (length_encodeAdcCalibrationSlots adc),
    applySafety_activeSlots _ rfl,
    applySafety_heaterCurve _ (length_encodeHeaterCurve curve),
    applySafety_rawObservations _
      (length_encodeHeaterCurveRawObservations raw)]
  cases transactionId with
  | none =>
    simp only [setSafety, setAdc, byteAt_toUInt8,
      Option.toList_none, List.map_nil, List.foldl_nil]
  | some transactionId =>
    simp only [Option.toList_some, List.map_cons, List.map_nil, List.foldl_cons,
      List.foldl_nil, applyTlv]
    rw [applySafety_transactionId _ (length_u32Le transactionId)]
    simp only [setSafety, setAdc, byteAt_toUInt8, readU32_u32Le_nil]

theorem readTlvs_thermalPolicy (value : ThermalPolicy) :
    readTlvs .thermalPolicy (thermalPolicyTlvs value) =
      { thermal :=
          { pps3aProfile :=
              decodeThermalControlProfile (encodeThermalControlProfile value.pps3aProfile)
            pps5aProfile :=
              decodeThermalControlProfile (encodeThermalControlProfile value.pps5aProfile)
            mode := value.mode }
        sawField := true } := by
  have hmode : decodeThermalProfileMode (encodeThermalProfileMode value.mode) =
      value.mode := by
    cases value.mode <;> rfl
  simp only [readTlvs, thermalPolicyTlvs, List.foldl_cons, List.foldl_nil, applyTlv]
  rw [applyThermal_pps3a, applyThermal_pps5a, applyThermal_mode _ rfl]
  simp only [setThermal, byteAt, List.getD_cons_zero, hmode]

theorem readTlvs_userPreferences (value : UserPreferences) :
    readTlvs .userPreferences (userPreferencesTlvs value) =
      { prefs :=
          { value with
            selectedPresetSlot := (UInt8.ofNat value.selectedPresetSlot).toNat
            presetsC := value.presetsC.map (Option.map clampTempC) }
        sawPostHeatMode := true
        sawField := true } := by
  have hpresets : (value.presetsC.toList.flatMap encodePreset).length =
      frontpanelPresetCount * 2 := by
    rw [length_flatMap_chunk length_encodePreset, Vector.length_toList]
    rfl
  have htarget : readI16 (i16Le value.targetTempC) 0 = value.targetTempC := by
    have h := readI16_i16Le value.targetTempC []
    rwa [List.append_nil] at h
  simp only [readTlvs, userPreferencesTlvs, List.foldl_cons, List.foldl_nil, applyTlv]
  rw [applyPreferences_target _ (length_i16Le _),
    applyPreferences_slot _ rfl,
    applyPreferences_presets _ hpresets,
    applyPreferences_cooling _ rfl,
    applyPreferences_postHeat _ rfl,
    applyPreferences_guard _ rfl,
    applyPreferences_telemetry _ (length_u32Le _)]
  simp only [setPrefs, byteAt_toUInt8, readU32_u32Le_nil, htarget, decodePresets_encode]
  simp only [byteAt, List.getD_cons_zero, decodePostHeatCoolingMode_encode,
    decodeHeatingFanGuardMode_encode]

theorem readTlvs_networkAndPairing (value : NetworkAndPairing) :
    readTlvs .networkAndPairing (networkPairingTlvs value) =
      { network := value, sawField := true } := by
  obtain ⟨ssid, password, autoReconnect, staticIpv4, token⟩ := value
  have htoken : ∀ token : Vector UInt8 lanTokenBytes,
      readArray token.toList 0 lanTokenBytes = token := by
    intro token
    have h := readArray_append [] 0 rfl token []
    rwa [List.nil_append, List.append_nil] at h
  simp only [readTlvs, networkPairingTlvs, List.foldl_append, List.foldl_cons, List.foldl_nil,
    applyTlv]
  rw [applyNetwork_ssid, applyNetwork_password, applyNetwork_autoReconnect _ rfl]
  cases staticIpv4 with
  | none =>
    cases token with
    | none =>
      simp only [setNetwork, Option.toList_none, List.map_nil,
        List.foldl_nil, BoundedString.ofBytes_bytes, byteAt_toUInt8]
    | some token =>
      simp only [Option.toList_none, Option.toList_some, List.map_nil, List.map_cons,
        List.foldl_nil, List.foldl_cons, applyTlv]
      rw [applyNetwork_token _ (Vector.length_toList)]
      simp only [setNetwork, BoundedString.ofBytes_bytes, byteAt_toUInt8, htoken]
  | some staticIpv4 =>
    simp only [Option.toList_some, List.map_nil, List.map_cons, List.foldl_nil, List.foldl_cons,
      applyTlv]
    rw [applyNetwork_staticIpv4 _ (length_encodeStaticIpv4 _)]
    cases token with
    | none =>
      simp only [setNetwork, Option.toList_none, List.map_nil,
        List.foldl_nil, BoundedString.ofBytes_bytes, byteAt_toUInt8, decodeStaticIpv4_encode]
    | some token =>
      simp only [Option.toList_some, List.map_nil, List.map_cons, List.foldl_nil,
        List.foldl_cons, applyTlv]
      rw [applyNetwork_token _ (Vector.length_toList)]
      simp only [setNetwork, BoundedString.ofBytes_bytes, byteAt_toUInt8,
        htoken, decodeStaticIpv4_encode]

end FluxPurr.Memory
