import FluxPurr.Pd.RankedSelection

/-!
# What a source reads in a request

A request names the object at a position and gives what is to be drawn from it: a PPS request
a voltage and a current, a fixed one only a current, since the voltage is that of the object.
The source therefore looks at its own words (`sourceContract`).  A contract that an object
supports and that is within the limits of the heater is read as it was meant
(`sourceContract_requestDataObject`).
-/

namespace FluxPurr.Pd

open FluxPurr.Wire

/-- The contract that a source with these words is asked for. -/
def sourceContract (pdos : List UInt32) (rdo : Rdo) : Option Contract :=
  let raw := ofLeBytes rdo
  let position := bitField raw 28 3
  if position = 0 then none
  else
    pdos[position - 1]?.bind fun word =>
      if isFixedWord word then
        some ⟨.fixed, position, bitField word.toNat 10 10 * 50, bitField raw 10 10 * 10⟩
      else if isPpsWord word then
        some ⟨.pps, position, bitField raw 9 12 * ppsRdoVoltageStepMv,
          bitField raw 0 7 * ppsRdoCurrentStepMa⟩
      else none

/-! ## The words of requests -/

theorem toNat_placed {value shift width : ℕ} (hvalue : value < 2 ^ width)
    (hshift : shift + width ≤ 32) (hlt : shift < 32) :
    (UInt32.ofNat value <<< UInt32.ofNat shift).toNat = value <<< shift := by
  have hword : 2 ^ width ≤ 2 ^ 32 := Nat.pow_le_pow_right (by decide) (by omega)
  have hplaced : value <<< shift < 2 ^ 32 := by
    rw [Nat.shiftLeft_eq]
    calc value * 2 ^ shift < 2 ^ width * 2 ^ shift :=
          Nat.mul_lt_mul_of_pos_right hvalue (Nat.two_pow_pos shift)
      _ = 2 ^ (width + shift) := (pow_add 2 width shift).symm
      _ ≤ 2 ^ 32 := Nat.pow_le_pow_right (by decide) (by omega)
  have hsmall : shift < 2 ^ 32 := by omega
  rw [UInt32.toNat_shiftLeft, UInt32.toNat_ofNat', UInt32.toNat_ofNat',
    Nat.mod_eq_of_lt (hvalue.trans_le hword), Nat.mod_eq_of_lt hsmall, Nat.mod_eq_of_lt hlt,
    Nat.mod_eq_of_lt hplaced]

theorem ofNat_and_mask {value width : ℕ} (hvalue : value < 2 ^ width) (hwidth : width ≤ 32)
    {mask : UInt32} (hmask : mask.toNat = 2 ^ width - 1) :
    UInt32.ofNat value &&& mask = UInt32.ofNat value := by
  have hword : 2 ^ width ≤ 2 ^ 32 := Nat.pow_le_pow_right (by decide) hwidth
  apply UInt32.toNat_inj.mp
  rw [UInt32.toNat_and, hmask, UInt32.toNat_ofNat', Nat.mod_eq_of_lt (hvalue.trans_le hword),
    Nat.and_two_pow_sub_one_eq_mod, Nat.mod_eq_of_lt hvalue]

/-- The fields of a PPS request. -/
def ppsFields (position voltageUnits currentUnits : ℕ) : List PlacedField :=
  [⟨position, 28, 3⟩, ⟨1, 24, 1⟩, ⟨voltageUnits, 9, 12⟩, ⟨currentUnits, 0, 7⟩]

/-- The fields of a fixed request. -/
def fixedFields (position currentUnits : ℕ) : List PlacedField :=
  [⟨position, 28, 3⟩, ⟨1, 24, 1⟩, ⟨currentUnits, 10, 10⟩, ⟨currentUnits, 0, 10⟩]

theorem toNat_ppsWord {position voltageUnits currentUnits : ℕ} (hposition : position < 2 ^ 3)
    (hvoltage : voltageUnits < 2 ^ 12) (hcurrent : currentUnits < 2 ^ 7) :
    ((UInt32.ofNat position <<< 28) ||| ((1 : UInt32) <<< 24) |||
      ((UInt32.ofNat voltageUnits &&& 0x0fff) <<< 9) |||
        (UInt32.ofNat currentUnits &&& 0x7f)).toNat =
      orFields (ppsFields position voltageUnits currentUnits) := by
  have hplace := toNat_placed hposition (show 28 + 3 ≤ 32 by decide) (by decide)
  have hvolts := toNat_placed hvoltage (show 9 + 12 ≤ 32 by decide) (by decide)
  have hamps := toNat_placed hcurrent (show 0 + 7 ≤ 32 by decide) (by decide)
  have hword : UInt32.ofNat currentUnits <<< UInt32.ofNat 0 = UInt32.ofNat currentUnits := by
    apply UInt32.toNat_inj.mp
    rw [hamps, Nat.shiftLeft_zero, UInt32.toNat_ofNat', Nat.mod_eq_of_lt (by omega)]
  rw [hword] at hamps
  rw [ofNat_and_mask hvoltage (by decide) rfl, ofNat_and_mask hcurrent (by decide) rfl,
    UInt32.toNat_or, UInt32.toNat_or, UInt32.toNat_or, hamps]
  have hplace : (UInt32.ofNat position <<< 28).toNat = position <<< 28 := hplace
  have hvolts : (UInt32.ofNat voltageUnits <<< 9).toNat = voltageUnits <<< 9 := hvolts
  have hone : ((1 : UInt32) <<< 24).toNat = 1 <<< 24 := rfl
  rw [hplace, hvolts, hone]
  simp only [orFields, ppsFields, Nat.or_zero, Nat.or_assoc]

theorem toNat_fixedWord {position currentUnits : ℕ} (hposition : position < 2 ^ 3)
    (hcurrent : currentUnits < 2 ^ 10) :
    ((UInt32.ofNat position <<< 28) ||| ((1 : UInt32) <<< 24) |||
      (UInt32.ofNat currentUnits <<< 10) ||| UInt32.ofNat currentUnits).toNat =
      orFields (fixedFields position currentUnits) := by
  have hplace : (UInt32.ofNat position <<< 28).toNat = position <<< 28 :=
    toNat_placed hposition (show 28 + 3 ≤ 32 by decide) (by decide)
  have hoperating : (UInt32.ofNat currentUnits <<< 10).toNat = currentUnits <<< 10 :=
    toNat_placed hcurrent (show 10 + 10 ≤ 32 by decide) (by decide)
  have hmaximum : (UInt32.ofNat currentUnits).toNat = currentUnits := by
    rw [UInt32.toNat_ofNat', Nat.mod_eq_of_lt (by omega)]
  have hone : ((1 : UInt32) <<< 24).toNat = 1 <<< 24 := rfl
  rw [UInt32.toNat_or, UInt32.toNat_or, UInt32.toNat_or, hplace, hoperating, hone, hmaximum]
  simp only [orFields, fixedFields, Nat.or_zero, Nat.or_assoc, Nat.shiftLeft_zero]

theorem bitField_ppsFields {position voltageUnits currentUnits : ℕ} (hposition : position < 2 ^ 3)
    (hvoltage : voltageUnits < 2 ^ 12) (hcurrent : currentUnits < 2 ^ 7) :
    bitField (orFields (ppsFields position voltageUnits currentUnits)) 28 3 = position ∧
      bitField (orFields (ppsFields position voltageUnits currentUnits)) 9 12 = voltageUnits ∧
        bitField (orFields (ppsFields position voltageUnits currentUnits)) 0 7 = currentUnits := by
  have hfits : ∀ field ∈ ppsFields position voltageUnits currentUnits, field.Fits := by
    intro field hmem
    simp only [ppsFields, List.mem_cons, List.not_mem_nil, or_false] at hmem
    rcases hmem with rfl | rfl | rfl | rfl
    · exact hposition
    · exact Nat.one_lt_two_pow (by decide)
    · exact hvoltage
    · exact hcurrent
  have hapart : (ppsFields position voltageUnits currentUnits).Pairwise PlacedField.Apart := by
    simp [ppsFields, PlacedField.Apart]
  exact ⟨@bitField_orFields _ hfits hapart ⟨position, 28, 3⟩ (by simp [ppsFields]),
    @bitField_orFields _ hfits hapart ⟨voltageUnits, 9, 12⟩ (by simp [ppsFields]),
    @bitField_orFields _ hfits hapart ⟨currentUnits, 0, 7⟩ (by simp [ppsFields])⟩

theorem bitField_fixedFields {position currentUnits : ℕ} (hposition : position < 2 ^ 3)
    (hcurrent : currentUnits < 2 ^ 10) :
    bitField (orFields (fixedFields position currentUnits)) 28 3 = position ∧
      bitField (orFields (fixedFields position currentUnits)) 10 10 = currentUnits := by
  have hfits : ∀ field ∈ fixedFields position currentUnits, field.Fits := by
    intro field hmem
    simp only [fixedFields, List.mem_cons, List.not_mem_nil, or_false] at hmem
    rcases hmem with rfl | rfl | rfl | rfl
    · exact hposition
    · exact Nat.one_lt_two_pow (by decide)
    · exact hcurrent
    · exact hcurrent
  have hapart : (fixedFields position currentUnits).Pairwise PlacedField.Apart := by
    simp [fixedFields, PlacedField.Apart]
  exact ⟨@bitField_orFields _ hfits hapart ⟨position, 28, 3⟩ (by simp [fixedFields]),
    @bitField_orFields _ hfits hapart ⟨currentUnits, 10, 10⟩ (by simp [fixedFields])⟩

theorem ofLeBytes_u32Le (word : UInt32) : ofLeBytes (u32Le word) = word.toNat := by
  have hlt : word.toNat < 256 ^ 4 := by
    have hword := word.toNat_lt
    omega
  exact ofLeBytes_leBytes_of_lt hlt

/-! ## Reading a request -/

/-- A contract within the limits of the heater. -/
structure WithinLimits (contract : Contract) : Prop where
  currentMa : contract.currentMa ≤ maxHeaterContractMa
  minMv : fusb302bPdAbsoluteMinMv ≤ contract.voltageMv
  maxMv : contract.voltageMv ≤ fusb302bPdAbsoluteMaxMv

theorem sourceContract_requestDataObject {pdos : List UInt32} {contract : Contract} {rdo : Rdo}
    (hsupports : (SourceCapabilities.fromPdos pdos).supportsContract contract = true)
    (hlimits : WithinLimits contract) (h : requestDataObject contract = some rdo) :
    sourceContract pdos rdo = some contract := by
  have hread := SourceCapabilities.readFrom_fromPdos pdos
  have hcount : (pdos.take maxSourcePdos).length ≤ 7 := List.length_take_le _ _
  obtain ⟨hcurrent, -, hvoltage⟩ := hlimits
  obtain ⟨kind, position, voltageMv, currentMa⟩ := contract
  have hcurrent : currentMa ≤ 5000 := hcurrent
  have hvoltage : voltageMv ≤ 28000 := hvoltage
  cases kind with
  | none => cases hsupports
  | fixed =>
    obtain ⟨pdo, hmem, hpdo⟩ := List.any_eq_true.mp hsupports
    obtain ⟨hposition, hvolts, -⟩ := of_decide_eq_true hpdo
    obtain ⟨index, raw, hlt, hraw, hword, hindex, hmv, -⟩ := hread.fixed pdo hmem
    dsimp only at hposition hvolts
    obtain rfl : position = index + 1 := by omega
    unfold requestDataObject at h
    dsimp only at h
    rw [if_neg (Nat.succ_ne_zero index)] at h
    split at h
    · cases h
    · rename_i haligned
      obtain rfl := Option.some.inj h
      have hunits : currentMa / 10 < 2 ^ 10 := by omega
      have hplace : index + 1 < 2 ^ 3 := by omega
      have hfields := bitField_fixedFields hplace hunits
      unfold sourceContract
      dsimp only
      rw [ofLeBytes_u32Le, toNat_fixedWord hplace hunits, hfields.1, hfields.2,
        if_neg (Nat.succ_ne_zero index), Nat.add_sub_cancel, hraw, Option.bind_some,
        if_pos hword, ← hmv, hvolts]
      have hamps : currentMa / 10 * 10 = currentMa := by omega
      rw [hamps]
  | pps =>
    obtain ⟨apdo, hmem, hapdo⟩ := List.any_eq_true.mp hsupports
    obtain ⟨hposition, -⟩ := of_decide_eq_true hapdo
    obtain ⟨index, raw, hlt, hraw, hword, hindex, -⟩ := hread.pps apdo hmem
    dsimp only at hposition
    obtain rfl : position = index + 1 := by omega
    unfold requestDataObject at h
    dsimp only at h
    rw [if_neg (Nat.succ_ne_zero index)] at h
    split at h
    · cases h
    · rename_i haligned
      obtain rfl := Option.some.inj h
      have hvolts : voltageMv / ppsRdoVoltageStepMv < 2 ^ 12 := by
        unfold ppsRdoVoltageStepMv
        omega
      have hamps : currentMa / ppsRdoCurrentStepMa < 2 ^ 7 := by
        unfold ppsRdoCurrentStepMa
        omega
      have hplace : index + 1 < 2 ^ 3 := by omega
      have hfields := bitField_ppsFields hplace hvolts hamps
      have hnot : ¬isFixedWord raw := by
        unfold isFixedWord
        rw [hword.1]
        decide
      unfold sourceContract
      dsimp only
      rw [ofLeBytes_u32Le, toNat_ppsWord hplace hvolts hamps, hfields.1, hfields.2.1,
        hfields.2.2, if_neg (Nat.succ_ne_zero index), Nat.add_sub_cancel, hraw, Option.bind_some,
        if_neg hnot, if_pos hword]
      rw [not_or, not_not, not_not] at haligned
      rw [Nat.div_mul_cancel (Nat.dvd_of_mod_eq_zero haligned.1),
        Nat.div_mul_cancel (Nat.dvd_of_mod_eq_zero haligned.2)]

end FluxPurr.Pd
