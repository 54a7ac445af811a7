import FluxPurr.Memory.FieldReadback

/-!
# Thermal plant transactions in the EEPROM

A transaction is checked twice before it is written: its structure
(`thermalPlantTransientTransactionHasValidStructure`, also checked when it is read)
and its widths (`thermalPlantPersistedTransactionFits`).  The structure already
fixes the duty and the voltage of every sample, so the second check only bounds
the times and the readings (`fits_iff`), and a transaction that passes both is read
back sample by sample (`decodePersistedTransaction_encode`).
-/

namespace FluxPurr.Memory

open FluxPurr.Wire

/-! ## What a valid structure says about the samples -/

variable {sample : ThermalPlantTransientSample}

variable {previous : Option ThermalPlantTransientSample} {lastPowered : Option ℕ} {index : ℕ}

theorem plausible_of_step {scan next : TransientScan}
    (h : scan.step lastPowered index previous sample = some next) :
    transientSampleIsPlausible sample ∧
      (sample.dutyPercent = 0 ∨ sample.dutyPercent = 100) := by
  unfold TransientScan.step at h
  by_cases hcheck : transientSampleIsPlausible sample = true
  · refine ⟨hcheck, ?_⟩
    rw [if_neg (not_not_intro hcheck)] at h
    split at h
    · cases h
    · by_cases hcooling : thermalPlantSampleIsCooling sample = true
      · -- A cooling sample is not heated.
        have hduty : ¬ (thermalPlantSampleIsCooling sample ∧ sample.dutyPercent ≠ 0) := by
          simp only [transientSampleIsPlausible, decide_eq_true_eq] at hcheck
          exact hcheck.2.2.1
        exact Or.inl (by simpa [hcooling] using hduty)
      · rw [if_neg hcooling] at h
        by_cases hzero : sample.dutyPercent = 0
        · exact Or.inl hzero
        · rw [if_neg hzero] at h
          split at h
          · rename_i hfull
            exact Or.inr hfull.1
          · cases h
  · rw [if_pos hcheck] at h
    cases h

theorem plausible_of_run {scan last : TransientScan} {samples : List ThermalPlantTransientSample}
    (h : scan.run lastPowered index previous samples = some last) :
    ∀ sample ∈ samples, transientSampleIsPlausible sample ∧
      (sample.dutyPercent = 0 ∨ sample.dutyPercent = 100) := by
  induction samples generalizing scan index previous with
  | nil => simp
  | cons sample rest ih =>
    rw [TransientScan.run] at h
    obtain ⟨next, hstep, hrest⟩ := Option.bind_eq_some_iff.mp h
    intro other hother
    rcases List.mem_cons.mp hother with rfl | hin
    · exact plausible_of_step hstep
    · exact ih hrest other hin

section ValidStructure

variable {value : ThermalPlantTransientTransaction}

theorem run_of_validStructure (h : thermalPlantTransientTransactionHasValidStructure value) :
    24 ≤ value.sampleCount ∧ value.sampleCount ≤ 128 ∧
      ∃ scan, TransientScan.run {} (lastPoweredIndex value.recorded) 0 none value.recorded =
        some scan := by
  unfold thermalPlantTransientTransactionHasValidStructure at h
  split at h
  · cases h
  · rename_i hheader
    obtain ⟨hlow, hhigh⟩ := not_not.mp (not_or.mp (not_or.mp hheader).2).2
    refine ⟨hlow, hhigh, ?_⟩
    simp only at h
    split at h
    · cases h
    · split at h
      · cases h
      · rename_i scan hscan
        exact ⟨scan, hscan⟩

theorem sampleCount_le (h : thermalPlantTransientTransactionHasValidStructure value) :
    value.sampleCount.toNat ≤ thermalPlantTransientMaxSamples :=
  UInt8.le_iff_toNat_le.mp (run_of_validStructure h).2.1

theorem length_recorded (h : thermalPlantTransientTransactionHasValidStructure value) :
    value.recorded.length = value.sampleCount.toNat := by
  rw [ThermalPlantTransientTransaction.recorded, List.length_take, Vector.length_toList]
  exact min_eq_left (sampleCount_le h)

theorem sample_of_validStructure (h : thermalPlantTransientTransactionHasValidStructure value)
    {sample : ThermalPlantTransientSample} (hsample : sample ∈ value.recorded) :
    (sample.dutyPercent = 0 ∨ sample.dutyPercent = 100) ∧
      (thermalPlantSampleIsCooling sample ∨
        sample.heaterVoltage125mv ≤ thermalPlantTransientMaxHeaterVoltage125mv) := by
  obtain ⟨-, -, scan, hscan⟩ := run_of_validStructure h
  obtain ⟨hcheck, hduty⟩ := plausible_of_run hscan sample hsample
  refine ⟨hduty, ?_⟩
  simp only [transientSampleIsPlausible, decide_eq_true_eq] at hcheck
  have hvoltage := hcheck.2.2.2
  by_cases hcooling : thermalPlantSampleIsCooling sample = true
  · exact Or.inl hcooling
  · refine Or.inr ?_
    by_contra hlarge
    exact hvoltage ⟨hcooling, UInt8.not_le.mp hlarge⟩

/-- What a sample must satisfy to fit its five bytes. -/
def SampleFits (sample : ThermalPlantTransientSample) : Prop :=
  sample.elapsedTicks ≤ 524287 ∧ sample.rawRtdAdcMv ≤ 4095

instance (sample : ThermalPlantTransientSample) : Decidable (SampleFits sample) :=
  inferInstanceAs (Decidable (_ ∧ _))

theorem fits_iff (h : thermalPlantTransientTransactionHasValidStructure value) :
    thermalPlantPersistedTransactionFits value ↔ ∀ sample ∈ value.recorded, SampleFits sample := by
  rw [thermalPlantPersistedTransactionFits, Bool.and_eq_true, List.all_eq_true]
  constructor
  · rintro ⟨-, hall⟩ sample hsample
    have hfits := hall sample hsample
    rw [decide_eq_true_eq] at hfits
    exact ⟨hfits.1, hfits.2.1⟩
  · intro hall
    refine ⟨by simpa using sampleCount_le h, ?_⟩
    intro sample hsample
    obtain ⟨hduty, hvoltage⟩ := sample_of_validStructure h hsample
    rw [decide_eq_true_eq]
    exact ⟨(hall sample hsample).1, (hall sample hsample).2, hduty, hvoltage⟩

end ValidStructure

/-! ## The bytes -/

@[simp] theorem length_encodePersistedSample (sample : ThermalPlantTransientSample) :
    (encodePersistedSample sample).length = 5 := length_leBytes _ _

@[simp] theorem length_encodeTransactionHeader (value : ThermalPlantTransientTransaction)
    (format : UInt8) : (encodeTransactionHeader value format).length = 24 := by
  simp [encodeTransactionHeader]

theorem persistedSampleFields_fit (h : SampleFits sample) :
    ∀ field ∈ persistedSampleFields sample, field.Fits := by
  have hticks : sample.elapsedTicks.toNat ≤ 524287 := UInt32.le_iff_toNat_le.mp h.1
  have hraw : sample.rawRtdAdcMv.toNat ≤ 4095 := UInt16.le_iff_toNat_le.mp h.2
  have hvoltage : sample.heaterVoltage125mv.toNat < 256 := sample.heaterVoltage125mv.toNat_lt
  have hgate : (decide (sample.dutyPercent ≠ 0)).toNat < 2 := Bool.toNat_lt _
  simp only [persistedSampleFields, List.forall_mem_cons, PlacedField.Fits]
  exact ⟨by omega, by omega, by omega, by omega, by simp⟩

theorem decodeSupplySample_encode (hfits : SampleFits sample)
    (hduty : sample.dutyPercent = 0 ∨ sample.dutyPercent = 100) :
    decodeSupplySample (orFields (persistedSampleFields sample) % 2 ^ 40) = sample := by
  obtain ⟨elapsedTicks, rawRtdAdcMv, heaterVoltage125mv, dutyPercent⟩ := sample
  simp only at hduty
  have hapart : (persistedSampleFields ⟨elapsedTicks, rawRtdAdcMv, heaterVoltage125mv,
      dutyPercent⟩).Pairwise PlacedField.Apart := by
    simp [persistedSampleFields, PlacedField.Apart]
  have hfield : ∀ field ∈ persistedSampleFields ⟨elapsedTicks, rawRtdAdcMv, heaterVoltage125mv,
      dutyPercent⟩, bitField (orFields (persistedSampleFields ⟨elapsedTicks, rawRtdAdcMv,
        heaterVoltage125mv, dutyPercent⟩)) field.shift field.width = field.value :=
    fun field hmem => bitField_orFields (persistedSampleFields_fit hfits) hapart hmem
  have hticks := hfield ⟨elapsedTicks.toNat, 0, 19⟩ (by simp [persistedSampleFields])
  have hraw := hfield ⟨rawRtdAdcMv.toNat, 19, 12⟩ (by simp [persistedSampleFields])
  have hvoltage := hfield ⟨heaterVoltage125mv.toNat, 31, 8⟩ (by simp [persistedSampleFields])
  have hgate := hfield ⟨(decide (dutyPercent ≠ 0)).toNat, 39, 1⟩ (by simp [persistedSampleFields])
  simp only at hticks hraw hvoltage hgate
  simp only [decodeSupplySample, bitField_mod, Nat.reduceAdd, Nat.reduceLeDiff, hticks, hraw,
    hvoltage, hgate, UInt32.ofNat_toNat, UInt16.ofNat_toNat, UInt8.ofNat_toNat]
  rcases hduty with rfl | rfl <;> rfl

theorem readLe_persistedSample {header : List UInt8} (hheader : header.length = 24)
    (samples : List ThermalPlantTransientSample) (hindex : index < samples.length) :
    readLe (header ++ samples.flatMap encodePersistedSample)
      (thermalPlantTransientHeaderLen + thermalPlantPersistedSamplePayloadLen * index)
      thermalPlantPersistedSamplePayloadLen =
      orFields (persistedSampleFields samples[index]) % 2 ^ 40 := by
  have hread := readLe_flatMap length_encodePersistedSample samples hindex 0 5 (by decide)
  have hsample := readLe_leBytes 5 (orFields (persistedSampleFields samples[index])) []
  rw [Nat.add_zero] at hread
  rw [List.append_nil] at hsample
  rw [readLe_append_right (by rw [hheader]; exact Nat.le_add_right _ _), hheader,
      Nat.add_sub_cancel_left, hread,
    encodePersistedSample, hsample]
  rfl

theorem decodeTransactionHeader_encode (value : ThermalPlantTransientTransaction)
    (format : UInt8) (rest : List UInt8) (samples : List ThermalPlantTransientSample) :
    decodeTransactionHeader (encodeTransactionHeader value format ++ rest) samples =
      { value with samples := fillSlots {} thermalPlantTransientMaxSamples samples } := by
  have hambient : ∀ right, readU16 (u32Le value.transactionId ++
      (u16Le value.ambientRawRtdAdcMv ++ right)) 4 = value.ambientRawRtdAdcMv := by
    intro right
    rw [readU16_append_right (by simp), length_u32Le, Nat.sub_self, readU16_u16Le]
  have hcount : ∀ right, byteAt (u32Le value.transactionId ++ (u16Le value.ambientRawRtdAdcMv ++
      ([value.sampleCount, format] ++ right))) 6 = value.sampleCount := by
    intro right
    rw [byteAt, List.getD_append_right _ _ _ _ (by simp), length_u32Le,
      List.getD_append_right _ _ _ _ (by simp), length_u16Le]
    rfl
  -- The projection follows eight bytes of other fields.
  have hprojection : ∀ right offset, readU32 (u32Le value.transactionId ++
      (u16Le value.ambientRawRtdAdcMv ++ ([value.sampleCount, format] ++ right))) (8 + offset) =
      readU32 right offset := by
    intro right offset
    rw [readU32_append_right (by simp; omega), length_u32Le,
      readU32_append_right (by simp; omega), length_u16Le, readU32_append_right (by simp; omega)]
    congr 1
    simp
    omega
  have h8 := fun right => hprojection right 0
  have h12 := fun right => hprojection right 4
  have h16 := fun right => hprojection right 8
  have h20 := fun right => hprojection right 12
  simp only [Nat.reduceAdd] at h8 h12 h16 h20
  obtain ⟨transactionId, ambient, sampleCount, ⟨convection, radiation, capacity, delay⟩, old⟩ :=
    value
  obtain ⟨w0, w4, w8, w12⟩ := readU32_words convection radiation capacity delay rest
  simp only [decodeTransactionHeader, encodeTransactionHeader, List.append_assoc,
    readU32_u32Le, hambient, hcount, h8, h12, h16, h20, w4, w8, w12]

theorem length_encodePersistedTransaction (value : ThermalPlantTransientTransaction) :
    (encodeThermalPlantPersistedTransaction value).length =
      thermalPlantTransientHeaderLen +
        thermalPlantPersistedSamplePayloadLen * value.recorded.length := by
  rw [encodeThermalPlantPersistedTransaction, List.length_append,
    length_flatMap_chunk length_encodePersistedSample, length_encodeTransactionHeader]

theorem byteAt_transactionHeader (value : ThermalPlantTransientTransaction) (format : UInt8)
    (rest : List UInt8) :
    byteAt (encodeTransactionHeader value format ++ rest) 6 = value.sampleCount ∧
      byteAt (encodeTransactionHeader value format ++ rest) 7 = format := by
  simp only [encodeTransactionHeader, byteAt, List.append_assoc]
  constructor
  · rw [List.getD_append_right _ _ _ _ (by simp), length_u32Le,
      List.getD_append_right _ _ _ _ (by simp), length_u16Le]
    rfl
  · rw [List.getD_append_right _ _ _ _ (by simp), length_u32Le,
      List.getD_append_right _ _ _ _ (by simp), length_u16Le]
    rfl

variable {value : ThermalPlantTransientTransaction}

/-- A transaction that was written is read back with its samples, and with nothing
past the sample count. -/
theorem decodePersistedTransaction_encode
    (hvalid : thermalPlantTransientTransactionHasValidStructure value)
    (hfits : ∀ sample ∈ value.recorded, SampleFits sample) :
    decodeThermalPlantPersistedTransaction (encodeThermalPlantPersistedTransaction value) =
      checkedTransaction { value with
        samples := fillSlots {} thermalPlantTransientMaxSamples value.recorded } := by
  have hlen := length_recorded hvalid
  have hcount := sampleCount_le hvalid
  have hbytes := length_encodePersistedTransaction value
  obtain ⟨h6, h7⟩ := byteAt_transactionHeader value thermalPlantSupplyFormat
    (value.recorded.flatMap encodePersistedSample)
  have hsamples : (List.range value.sampleCount.toNat).map (fun index =>
      decodeSupplySample (readLe (encodeThermalPlantPersistedTransaction value)
        (thermalPlantTransientHeaderLen + thermalPlantPersistedSamplePayloadLen * index)
        thermalPlantPersistedSamplePayloadLen)) = value.recorded := by
    apply List.ext_getElem
    · rw [List.length_map, List.length_range, hlen]
    · intro index hleft hright
      have hmem : value.recorded[index] ∈ value.recorded := List.getElem_mem hright
      rw [List.getElem_map, List.getElem_range, encodeThermalPlantPersistedTransaction,
        readLe_persistedSample (length_encodeTransactionHeader _ _) _ hright,
        decodeSupplySample_encode (hfits _ hmem) (sample_of_validStructure hvalid hmem).1]
  have hlength : ¬ ((encodeThermalPlantPersistedTransaction value).length <
      thermalPlantTransientHeaderLen ∨
      thermalPlantTransientMaxSamples < value.sampleCount.toNat ∨
      (encodeThermalPlantPersistedTransaction value).length ≠ thermalPlantTransientHeaderLen +
        value.sampleCount.toNat * thermalPlantPersistedSamplePayloadLen) := by
    rw [hbytes, hlen, Nat.mul_comm]
    omega
  rw [encodeThermalPlantPersistedTransaction] at hlength hsamples ⊢
  have hformat : persistedFormat thermalPlantSupplyFormat = some (true, true) := rfl
  simp only [decodeThermalPlantPersistedTransaction, h6, h7, if_neg hlength, if_true, hformat,
    Option.bind_some, hsamples, decodeTransactionHeader_encode]

/-- The slots past the sample count hold the default sample. -/
def ThermalPlantTransientTransaction.TailIsDefault (value : ThermalPlantTransientTransaction) :
    Prop :=
  ∀ sample ∈ value.samples.toList.drop value.sampleCount.toNat, sample = {}

instance (value : ThermalPlantTransientTransaction) : Decidable value.TailIsDefault :=
  inferInstanceAs (Decidable (∀ sample ∈ List.drop _ _, _))

theorem eq_of_checkedTransaction {result value : ThermalPlantTransientTransaction}
    (h : checkedTransaction result = some value) : result = value := by
  unfold checkedTransaction at h
  by_cases hvalid : thermalPlantTransientTransactionHasValidStructure result = true
  · rw [if_pos hvalid] at h
    exact Option.some_inj.mp h
  · rw [if_neg hvalid] at h
    cases h

theorem checkedTransaction_of_validStructure
    (h : thermalPlantTransientTransactionHasValidStructure value) :
    checkedTransaction value = some value := if_pos h

theorem checkedTransaction_tail_iff
    (hvalid : thermalPlantTransientTransactionHasValidStructure value) :
    checkedTransaction { value with
      samples := fillSlots {} thermalPlantTransientMaxSamples value.recorded } = some value ↔
      value.TailIsDefault := by
  have hcount := sampleCount_le hvalid
  have htail : fillSlots {} thermalPlantTransientMaxSamples value.recorded = value.samples ↔
      value.TailIsDefault := fillSlots_take_iff value.samples hcount
  constructor
  · intro h
    have hsamples := congrArg ThermalPlantTransientTransaction.samples (eq_of_checkedTransaction h)
    simp only at hsamples
    exact htail.mp hsamples
  · intro h
    have hslots : fillSlots {} thermalPlantTransientMaxSamples value.recorded = value.samples :=
      htail.mpr h
    rw [hslots]
    exact checkedTransaction_of_validStructure hvalid

end FluxPurr.Memory
