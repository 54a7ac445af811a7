import FluxPurr.Heater.AutomaticCandidate

/-!
# Power as a voltage and as a duty

With a fixed heater the power goes with the square of the voltage.  A share of the power at the
ceiling is turned into a voltage by `heaterRequestMvFromPowerPercent`, with an integer square root,
and into a duty at the present voltage by `heaterPhysicalPwmPercent`, with an integer quotient.

Every step rounds down, so neither of the two gives more than the share (`NeverOverDelivers`).  The
only voltage that may give more is the floor itself.
-/

namespace FluxPurr.Heater

/-! ## The integer square root -/

/-- `u64::saturating_mul` -/
def saturatingMul (first second : ℕ) : ℕ := min (first * second) (2 ^ 64 - 1)

theorem saturatingMul_eq {first second : ℕ} (h : first * second < 2 ^ 64) :
    saturatingMul first second = first * second := by
  unfold saturatingMul
  omega

/-- The loop of `integerSqrtFloor`, on the bounds that are left. -/
def sqrtBetween (value low high : ℕ) : ℕ :=
  if low ≤ high then
    let mid := low + (high - low) / 2
    let square := saturatingMul mid mid
    if square = value then mid
    else if square < value then sqrtBetween value (mid + 1) high
    else if mid = 0 then high
    else sqrtBetween value low (mid - 1)
  else high
termination_by high + 1 - low

def integerSqrtFloor (value : ℕ) : ℕ := sqrtBetween value 0 (2 ^ 32 - 1)

/-- No root of a 64-bit value is above the bound, so no square is cut off. -/
theorem saturatingMul_mid {low high : ℕ} (hhigh : high < 2 ^ 32) (hle : low ≤ high) :
    saturatingMul (low + (high - low) / 2) (low + (high - low) / 2) =
      (low + (high - low) / 2) * (low + (high - low) / 2) := by
  have hmid : low + (high - low) / 2 ≤ 2 ^ 32 - 1 := by omega
  exact saturatingMul_eq (lt_of_le_of_lt (Nat.mul_le_mul hmid hmid) (by norm_num))

/-- Everything below `low` has a square within the value, and everything above `high` has none. -/
theorem sqrtBetween_eq {value low high : ℕ} (hhigh : high < 2 ^ 32)
    (hlower : ∀ root, root < low → root * root ≤ value)
    (hupper : ∀ root, high < root → value < root * root) (hle : low ≤ high + 1) :
    sqrtBetween value low high = Nat.sqrt value := by
  induction low, high using sqrtBetween.induct value with
  | case1 low high h mid square hsquare =>
    have hmid : square = mid * mid := saturatingMul_mid hhigh h
    rw [sqrtBetween, if_pos h, if_pos hsquare, ← hsquare, hmid, Nat.sqrt_eq]
  | case2 low high h mid square hne hlt ih =>
    have hmid : square = mid * mid := saturatingMul_mid hhigh h
    rw [sqrtBetween, if_pos h, if_neg hne, if_pos hlt]
    refine ih hhigh (fun root hroot => ?_) hupper (by omega)
    exact (Nat.mul_self_le_mul_self (by omega)).trans (hmid ▸ hlt.le)
  | case3 low high h mid square hne hlt hzero =>
    -- a square of zero is not above the value
    have hmid : square = mid * mid := saturatingMul_mid hhigh h
    rw [hzero] at hmid
    omega
  | case4 low high h mid square hne hlt hzero ih =>
    have hmid : square = mid * mid := saturatingMul_mid hhigh h
    rw [sqrtBetween, if_pos h, if_neg hne, if_neg hlt, if_neg hzero]
    refine ih (by omega) hlower (fun root hroot => ?_) (by omega)
    exact lt_of_lt_of_le (by omega) (Nat.mul_self_le_mul_self (by omega : mid ≤ root))
  | case5 low high h =>
    rw [sqrtBetween, if_neg h]
    apply Nat.le_antisymm
    · exact Nat.le_sqrt.mpr (hlower high (by omega))
    · exact Nat.lt_succ_iff.mp (Nat.sqrt_lt.mpr (hupper (high + 1) (by omega)))

theorem integerSqrtFloor_eq {value : ℕ} (h : value < 2 ^ 64) :
    integerSqrtFloor value = Nat.sqrt value := by
  refine sqrtBetween_eq (by norm_num) (fun root hroot => absurd hroot (Nat.not_lt_zero root))
    (fun root hroot => ?_) (Nat.zero_le _)
  calc value
    _ < 2 ^ 32 * 2 ^ 32 := h
    _ ≤ root * root := Nat.mul_self_le_mul_self (by omega)

/-! ## The conversions -/

def heaterFloorMv (floorMv : UInt16) : ℕ :=
  Pd.clamp floorMv.toNat ch224qAdjustableRequestMinMv heaterAdjustableMaxMv

def heaterCeilingMv (floorMv ceilingMv : UInt16) : ℕ :=
  Pd.clamp (max ceilingMv.toNat ch224qAdjustableRequestMinMv) (heaterFloorMv floorMv)
    heaterAdjustableMaxMv

def heaterRequestMvFromPowerPercent (dutyPercent : UInt8) (floorMv ceilingMv : UInt16) : ℕ :=
  let boundedMinMv := heaterFloorMv floorMv
  let boundedMaxMv := heaterCeilingMv floorMv ceilingMv
  if dutyPercent = 0 then boundedMinMv
  else
    let requestedMv := integerSqrtFloor
      (saturatingMul (saturatingMul boundedMaxMv boundedMaxMv) (min dutyPercent.toNat 100) / 100)
    Pd.clamp (floorMvTo100mv (Pd.clamp requestedMv boundedMinMv boundedMaxMv)) boundedMinMv
      boundedMaxMv

def heaterPhysicalPwmPercent (dutyPercent : UInt8) (ceilingMv activeRequestMv : UInt16)
    (warmupSoftStartPercent : UInt8) : ℕ :=
  if dutyPercent = 0 then 0
  else
    let requestedPower := saturatingMul (min dutyPercent.toNat 100)
      (saturatingMul ceilingMv.toNat ceilingMv.toNat)
    let activeRequestMv := max activeRequestMv.toNat ch224qAdjustableRequestMinMv
    let activePower := saturatingMul activeRequestMv activeRequestMv
    let powerMatchedPercent := min (requestedPower / max activePower 1) 100
    min (powerMatchedPercent * min warmupSoftStartPercent.toNat 100 / 100) 100

section Request

variable (dutyPercent : UInt8) (floorMv ceilingMv : UInt16)

theorem heaterFloorMv_le_ceiling : heaterFloorMv floorMv ≤ heaterCeilingMv floorMv ceilingMv := by
  unfold heaterCeilingMv heaterFloorMv Pd.clamp
  omega

theorem heaterCeilingMv_le : heaterCeilingMv floorMv ceilingMv ≤ heaterAdjustableMaxMv := by
  unfold heaterCeilingMv Pd.clamp
  omega

/-- A ceiling above the floor is not above the one that was asked for. -/
theorem heaterCeilingMv_le_of_lt (h : heaterFloorMv floorMv < heaterCeilingMv floorMv ceilingMv) :
    heaterCeilingMv floorMv ceilingMv ≤ ceilingMv.toNat := by
  unfold heaterCeilingMv heaterFloorMv Pd.clamp at h ⊢
  omega

/-- The power at the ceiling fits into 64 bits, and so does a hundred times of it. -/
theorem requestPower_eq :
    saturatingMul (saturatingMul (heaterCeilingMv floorMv ceilingMv)
        (heaterCeilingMv floorMv ceilingMv)) (min dutyPercent.toNat 100) =
      heaterCeilingMv floorMv ceilingMv * heaterCeilingMv floorMv ceilingMv *
        min dutyPercent.toNat 100 := by
  have hsquare : heaterCeilingMv floorMv ceilingMv * heaterCeilingMv floorMv ceilingMv ≤
      28000 * 28000 :=
    Nat.mul_self_le_mul_self (heaterCeilingMv_le floorMv ceilingMv)
  have hpower : heaterCeilingMv floorMv ceilingMv * heaterCeilingMv floorMv ceilingMv *
      min dutyPercent.toNat 100 ≤ 28000 * 28000 * 100 :=
    Nat.mul_le_mul hsquare (Nat.min_le_right _ _)
  have hsaturated : saturatingMul (heaterCeilingMv floorMv ceilingMv)
      (heaterCeilingMv floorMv ceilingMv) =
        heaterCeilingMv floorMv ceilingMv * heaterCeilingMv floorMv ceilingMv :=
    saturatingMul_eq (by omega)
  rw [hsaturated]
  exact saturatingMul_eq (by omega)

/-- The voltage with the share of the power at the ceiling, rounded down. -/
def shareMv : ℕ :=
  Nat.sqrt (heaterCeilingMv floorMv ceilingMv * heaterCeilingMv floorMv ceilingMv *
    min dutyPercent.toNat 100 / 100)

theorem shareMv_sq_le :
    shareMv dutyPercent floorMv ceilingMv ^ 2 * 100 ≤
      min dutyPercent.toNat 100 * heaterCeilingMv floorMv ceilingMv ^ 2 := by
  have hroot := Nat.sqrt_le' (heaterCeilingMv floorMv ceilingMv *
    heaterCeilingMv floorMv ceilingMv * min dutyPercent.toNat 100 / 100)
  calc shareMv dutyPercent floorMv ceilingMv ^ 2 * 100
    _ ≤ heaterCeilingMv floorMv ceilingMv * heaterCeilingMv floorMv ceilingMv *
          min dutyPercent.toNat 100 / 100 * 100 := Nat.mul_le_mul_right 100 hroot
    _ ≤ heaterCeilingMv floorMv ceilingMv * heaterCeilingMv floorMv ceilingMv *
          min dutyPercent.toNat 100 := Nat.div_mul_le_self _ 100
    _ = min dutyPercent.toNat 100 * heaterCeilingMv floorMv ceilingMv ^ 2 := by ring

theorem shareMv_mono {dutyPercent other : UInt8} (h : dutyPercent ≤ other) :
    shareMv dutyPercent floorMv ceilingMv ≤ shareMv other floorMv ceilingMv := by
  have hduty : min dutyPercent.toNat 100 ≤ min other.toNat 100 := by
    have := UInt8.le_iff_toNat_le.mp h
    omega
  exact Nat.sqrt_le_sqrt (Nat.div_le_div_right (Nat.mul_le_mul_left _ hduty))

theorem heaterRequestMv_eq (hduty : dutyPercent ≠ 0) :
    heaterRequestMvFromPowerPercent dutyPercent floorMv ceilingMv =
      Pd.clamp (floorMvTo100mv (Pd.clamp (shareMv dutyPercent floorMv ceilingMv)
        (heaterFloorMv floorMv) (heaterCeilingMv floorMv ceilingMv)))
        (heaterFloorMv floorMv) (heaterCeilingMv floorMv ceilingMv) := by
  have hpower : heaterCeilingMv floorMv ceilingMv * heaterCeilingMv floorMv ceilingMv *
      min dutyPercent.toNat 100 / 100 < 2 ^ 64 := by
    rw [← requestPower_eq]
    unfold saturatingMul
    omega
  rw [heaterRequestMvFromPowerPercent, if_neg hduty]
  simp only [requestPower_eq, integerSqrtFloor_eq hpower, shareMv]

theorem heaterRequestMv_mem :
    heaterFloorMv floorMv ≤ heaterRequestMvFromPowerPercent dutyPercent floorMv ceilingMv ∧
      heaterRequestMvFromPowerPercent dutyPercent floorMv ceilingMv ≤
        heaterCeilingMv floorMv ceilingMv := by
  have hbounds := heaterFloorMv_le_ceiling floorMv ceilingMv
  by_cases hduty : dutyPercent = 0
  · rw [heaterRequestMvFromPowerPercent, if_pos hduty]
    exact ⟨le_rfl, hbounds⟩
  · rw [heaterRequestMv_eq dutyPercent floorMv ceilingMv hduty]
    unfold Pd.clamp
    omega

theorem heaterRequestMv_mono {dutyPercent other : UInt8} (h : dutyPercent ≤ other) :
    heaterRequestMvFromPowerPercent dutyPercent floorMv ceilingMv ≤
      heaterRequestMvFromPowerPercent other floorMv ceilingMv := by
  by_cases hduty : dutyPercent = 0
  · rw [heaterRequestMvFromPowerPercent, if_pos hduty]
    exact (heaterRequestMv_mem other floorMv ceilingMv).1
  · have hother : other ≠ 0 := by
      rintro rfl
      exact hduty (UInt8.le_zero_iff.mp h)
    rw [heaterRequestMv_eq _ _ _ hduty, heaterRequestMv_eq _ _ _ hother]
    have hshare := shareMv_mono floorMv ceilingMv h
    unfold Pd.clamp floorMvTo100mv
    omega

theorem heaterRequestMv_le_shareMv
    (h : heaterFloorMv floorMv < heaterRequestMvFromPowerPercent dutyPercent floorMv ceilingMv) :
    heaterRequestMvFromPowerPercent dutyPercent floorMv ceilingMv ≤
      shareMv dutyPercent floorMv ceilingMv := by
  by_cases hduty : dutyPercent = 0
  · rw [heaterRequestMvFromPowerPercent, if_pos hduty] at h
    exact absurd h (lt_irrefl _)
  · rw [heaterRequestMv_eq dutyPercent floorMv ceilingMv hduty] at h ⊢
    unfold Pd.clamp floorMvTo100mv at h ⊢
    omega

theorem heaterRequestMv_power
    (h : heaterFloorMv floorMv < heaterRequestMvFromPowerPercent dutyPercent floorMv ceilingMv) :
    heaterRequestMvFromPowerPercent dutyPercent floorMv ceilingMv ^ 2 * 100 ≤
      min dutyPercent.toNat 100 * ceilingMv.toNat ^ 2 := by
  have hceiling : heaterCeilingMv floorMv ceilingMv ≤ ceilingMv.toNat :=
    heaterCeilingMv_le_of_lt floorMv ceilingMv
      (h.trans_le (heaterRequestMv_mem dutyPercent floorMv ceilingMv).2)
  calc heaterRequestMvFromPowerPercent dutyPercent floorMv ceilingMv ^ 2 * 100
    _ ≤ shareMv dutyPercent floorMv ceilingMv ^ 2 * 100 :=
      Nat.mul_le_mul_right 100
        (Nat.pow_le_pow_left (heaterRequestMv_le_shareMv dutyPercent floorMv ceilingMv h) 2)
    _ ≤ min dutyPercent.toNat 100 * heaterCeilingMv floorMv ceilingMv ^ 2 :=
      shareMv_sq_le dutyPercent floorMv ceilingMv
    _ ≤ min dutyPercent.toNat 100 * ceilingMv.toNat ^ 2 :=
      Nat.mul_le_mul_left _ (Nat.pow_le_pow_left hceiling 2)

end Request

section Pwm

variable (dutyPercent : UInt8) (ceilingMv activeRequestMv : UInt16)
  (warmupSoftStartPercent : UInt8)

/-- A 16-bit voltage has a square within 32 bits, and a hundred times of it within 64. -/
theorem saturatingMul_voltage {millivolts : ℕ} (h : millivolts < 2 ^ 16) :
    saturatingMul millivolts millivolts = millivolts ^ 2 ∧ millivolts ^ 2 < 2 ^ 32 := by
  have hsquare : millivolts * millivolts ≤ 65535 * 65535 := Nat.mul_self_le_mul_self (by omega)
  rw [pow_two]
  exact ⟨saturatingMul_eq (by omega), by omega⟩

theorem heaterPhysicalPwmPercent_le :
    heaterPhysicalPwmPercent dutyPercent ceilingMv activeRequestMv warmupSoftStartPercent ≤
      100 := by
  unfold heaterPhysicalPwmPercent
  split
  · exact Nat.zero_le _
  · exact Nat.min_le_right _ _

theorem heaterPhysicalPwmPercent_power :
    heaterPhysicalPwmPercent dutyPercent ceilingMv activeRequestMv warmupSoftStartPercent *
        max activeRequestMv.toNat ch224qAdjustableRequestMinMv ^ 2 ≤
      min dutyPercent.toNat 100 * ceilingMv.toNat ^ 2 := by
  unfold heaterPhysicalPwmPercent
  split
  · exact (Nat.zero_mul _).trans_le (Nat.zero_le _)
  · obtain ⟨hceiling, hsmall⟩ := saturatingMul_voltage ceilingMv.toNat_lt
    have hactiveMv : max activeRequestMv.toNat ch224qAdjustableRequestMinMv < 2 ^ 16 :=
      max_lt activeRequestMv.toNat_lt (by norm_num)
    obtain ⟨hactive, -⟩ := saturatingMul_voltage hactiveMv
    have hrequested : saturatingMul (min dutyPercent.toNat 100) (ceilingMv.toNat ^ 2) =
        min dutyPercent.toNat 100 * ceilingMv.toNat ^ 2 := by
      refine saturatingMul_eq (lt_of_le_of_lt (Nat.mul_le_mul (Nat.min_le_right _ 100)
        hsmall.le) (by norm_num))
    have hpositive : max (max activeRequestMv.toNat ch224qAdjustableRequestMinMv ^ 2) 1 =
        max activeRequestMv.toNat ch224qAdjustableRequestMinMv ^ 2 :=
      max_eq_left (Nat.one_le_pow 2 _ (lt_max_of_lt_right (by norm_num)))
    simp only [hceiling, hactive, hrequested, hpositive]
    generalize max activeRequestMv.toNat ch224qAdjustableRequestMinMv = activeMv
    generalize min dutyPercent.toNat 100 * ceilingMv.toNat ^ 2 = requestedPower
    -- the soft start and the two bounds only make it less
    have hsoft : min (requestedPower / activeMv ^ 2) 100 *
        min warmupSoftStartPercent.toNat 100 / 100 ≤ requestedPower / activeMv ^ 2 :=
      calc min (requestedPower / activeMv ^ 2) 100 * min warmupSoftStartPercent.toNat 100 / 100
        _ ≤ requestedPower / activeMv ^ 2 * 100 / 100 :=
          Nat.div_le_div_right (Nat.mul_le_mul (Nat.min_le_left _ _) (Nat.min_le_right _ _))
        _ = requestedPower / activeMv ^ 2 := Nat.mul_div_cancel _ (by norm_num)
    calc min (min (requestedPower / activeMv ^ 2) 100 * min warmupSoftStartPercent.toNat 100 /
          100) 100 * activeMv ^ 2
      _ ≤ requestedPower / activeMv ^ 2 * activeMv ^ 2 :=
        Nat.mul_le_mul_right _ ((Nat.min_le_left _ _).trans hsoft)
      _ ≤ requestedPower := Nat.div_mul_le_self _ _

end Pwm

/-! ## Neither gives too much -/

structure NeverOverDelivers (floorMv ceilingMv : UInt16) : Prop where
  bounded (dutyPercent : UInt8) :
    heaterFloorMv floorMv ≤ heaterRequestMvFromPowerPercent dutyPercent floorMv ceilingMv ∧
      heaterRequestMvFromPowerPercent dutyPercent floorMv ceilingMv ≤
        heaterCeilingMv floorMv ceilingMv
  monotone (dutyPercent other : UInt8) : dutyPercent ≤ other →
    heaterRequestMvFromPowerPercent dutyPercent floorMv ceilingMv ≤
      heaterRequestMvFromPowerPercent other floorMv ceilingMv
  /-- What is above the floor is within the share of the power at the ceiling. -/
  request (dutyPercent : UInt8) :
    heaterFloorMv floorMv < heaterRequestMvFromPowerPercent dutyPercent floorMv ceilingMv →
      heaterRequestMvFromPowerPercent dutyPercent floorMv ceilingMv ^ 2 * 100 ≤
        dutyPercent.toNat * ceilingMv.toNat ^ 2
  pwm (dutyPercent warmupSoftStartPercent : UInt8) (activeRequestMv : UInt16) :
    heaterPhysicalPwmPercent dutyPercent ceilingMv activeRequestMv warmupSoftStartPercent ≤ 100 ∧
      heaterPhysicalPwmPercent dutyPercent ceilingMv activeRequestMv warmupSoftStartPercent *
          max activeRequestMv.toNat ch224qAdjustableRequestMinMv ^ 2 ≤
        min dutyPercent.toNat 100 * ceilingMv.toNat ^ 2

theorem neverOverDelivers (floorMv ceilingMv : UInt16) : NeverOverDelivers floorMv ceilingMv where
  bounded dutyPercent := heaterRequestMv_mem dutyPercent floorMv ceilingMv
  monotone _ _ h := heaterRequestMv_mono floorMv ceilingMv h
  request dutyPercent h :=
    (heaterRequestMv_power dutyPercent floorMv ceilingMv h).trans
      (Nat.mul_le_mul_right _ (Nat.min_le_left _ _))
  pwm dutyPercent warmupSoftStartPercent activeRequestMv :=
    ⟨heaterPhysicalPwmPercent_le dutyPercent ceilingMv activeRequestMv warmupSoftStartPercent,
      heaterPhysicalPwmPercent_power dutyPercent ceilingMv activeRequestMv
        warmupSoftStartPercent⟩

end FluxPurr.Heater
