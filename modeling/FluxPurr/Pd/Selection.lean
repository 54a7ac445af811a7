import FluxPurr.Pd.SinkPolicy
import Mathlib.Data.List.Induction

/-!
# What the selectors return

Every selector returns a contract on an object the source has offered
(`WellFormed`), of a kind that has an RDO, and never a PPS contract below the PPS
minimum (`Selected`).  For the standby step this rests on the active contract being
above the minimum: then the bounds the step is clamped between are in order
(`standbyStepMinMv_le`).
-/

namespace FluxPurr.Pd

open FluxPurr.Wire
open PdContractRequest

/-- A contract that was selected from the capabilities of a source. -/
structure Selected (contract : Contract) : Prop where
  position : contract.objectPosition ≠ 0
  kind : contract.kind ≠ .none
  floor : contract.kind = .pps → fusb302bPpsMinMv ≤ contract.voltageMv

/-! ## The best of several candidates -/

theorem selectBest_append_singleton {α : Type*} (better : α → α → Bool) (candidates : List α)
    (candidate : α) :
    selectBest better (candidates ++ [candidate]) = some candidate ∨
      selectBest better (candidates ++ [candidate]) = selectBest better candidates := by
  rw [selectBest, List.foldl_append, List.foldl_cons, List.foldl_nil, ← selectBest]
  cases selectBest better candidates with
  | none => exact Or.inl rfl
  | some current =>
    by_cases hbetter : better candidate current = true
    · exact Or.inl (if_pos hbetter)
    · exact Or.inr (if_neg hbetter)

theorem mem_of_selectBest {α : Type*} {better : α → α → Bool} {candidates : List α} {best : α}
    (h : selectBest better candidates = some best) : best ∈ candidates := by
  induction candidates using List.reverseRecOn with
  | nil => cases h
  | append_singleton candidates candidate ih =>
    rcases selectBest_append_singleton better candidates candidate with hlast | hlast
    · rw [hlast] at h
      obtain rfl := Option.some.inj h
      simp
    · rw [hlast] at h
      exact List.mem_append_left _ (ih h)

/-! ## Capabilities -/

namespace SourceCapabilities

/-- Positions count from one, and a PPS range is below 25.6 V and not empty. -/
structure WellFormed (capabilities : SourceCapabilities) : Prop where
  fixed : ∀ pdo ∈ capabilities.fixed, pdo.objectPosition ≠ 0
  pps : ∀ apdo ∈ capabilities.pps,
    apdo.objectPosition ≠ 0 ∧ apdo.minMv ≤ apdo.maxMv ∧ apdo.minMv ≤ 25500

theorem wellFormed_empty : WellFormed {} := { fixed := by simp, pps := by simp }

theorem wellFormed_pushPdo {capabilities : SourceCapabilities} (h : capabilities.WellFormed)
    (raw : UInt32) (index : ℕ) : (capabilities.pushPdo raw (index + 1)).WellFormed := by
  unfold pushPdo
  split_ifs
  · unfold pushFixed
    split_ifs
    · exact h
    · refine { fixed := ?_, pps := h.pps }
      intro pdo hmem
      rcases List.mem_append.mp hmem with hold | hnew
      · exact h.fixed pdo hold
      · obtain rfl := List.mem_singleton.mp hnew
        exact Nat.succ_ne_zero index
    · exact h
  · unfold pushPps
    split_ifs with hrange
    · exact h
    · refine { fixed := h.fixed, pps := ?_ }
      intro apdo hmem
      rcases List.mem_append.mp hmem with hold | hnew
      · exact h.pps apdo hold
      · obtain rfl := List.mem_singleton.mp hnew
        have hmin := bitField_lt raw.toNat 8 8
        refine ⟨Nat.succ_ne_zero index, ?_, ?_⟩
        · simp only at hrange ⊢
          omega
        · simp only
          omega
    · exact h
  · exact h

/-- What the words of a message keep holds of the capabilities that are read from it. -/
theorem fromPdos_induction {Holds : SourceCapabilities → Prop} (hempty : Holds {})
    (hpush : ∀ (capabilities : SourceCapabilities) (raw : UInt32) (index : ℕ),
      Holds capabilities → Holds (capabilities.pushPdo raw (index + 1)))
    (pdos : List UInt32) : Holds (fromPdos pdos) := by
  have hfold : ∀ (entries : List (UInt32 × ℕ)) (capabilities : SourceCapabilities),
      Holds capabilities →
        Holds (entries.foldl (fun capabilities entry => capabilities.pushPdo entry.1 (entry.2 + 1))
          capabilities) := by
    intro entries
    induction entries with
    | nil => exact fun _ h => h
    | cons entry entries ih =>
      intro capabilities h
      exact ih _ (hpush capabilities entry.1 entry.2 h)
  exact hfold _ _ hempty

theorem wellFormed_fromPdos (pdos : List UInt32) : (fromPdos pdos).WellFormed :=
  fromPdos_induction wellFormed_empty (fun _ raw index h => wellFormed_pushPdo h raw index) pdos

/-! ## Selectors -/

variable {capabilities : SourceCapabilities}

theorem bounds_of_fixed {voltageMv currentMa : ℕ}
    (h : (PdContractRequest.fixed voltageMv currentMa).isOk) :
    fusb302bPdAbsoluteMinMv ≤ voltageMv ∧ voltageMv ≤ fusb302bFixedMaxMv ∧
      currentMa ≤ maxHeaterContractMa ∧ currentMa % pdFixedCurrentStepMa = 0 := by
  unfold PdContractRequest.fixed at h
  split_ifs at h with _ _ hrange hcurrent _ haligned
  all_goals first
    | exact ⟨hrange.1, hrange.2, hcurrent.2, not_not.mp haligned⟩
    | cases h

theorem bounds_of_ppsWithMinimum {voltageMv currentMa minimumMa : ℕ}
    (h : (ppsWithMinimum voltageMv currentMa minimumMa).isOk) :
    fusb302bPpsMinMv ≤ voltageMv ∧ voltageMv ≤ fusb302bPdAbsoluteMaxMv ∧
      currentMa ≤ maxHeaterContractMa ∧ voltageMv % pdPpsVoltageStepMv = 0 ∧
        currentMa % pdPpsCurrentStepMa = 0 := by
  unfold ppsWithMinimum at h
  split_ifs at h with _ _ hrange hcurrent hvolts hamps
  all_goals first
    | exact ⟨hrange.1, hrange.2, hcurrent.2, not_not.mp hvolts, not_not.mp hamps⟩
    | cases h

variable {request : PdContractRequest} {contract : Contract}

theorem fixed_of_isWellFormed (h : request.isWellFormed) (hmode : request.mode = .fixed) :
    (PdContractRequest.fixed request.voltageMv request.operatingCurrentMa).isOk := by
  rw [PdContractRequest.isWellFormed, Bool.and_eq_true] at h
  have hok := h.2
  rw [reconstruct, hmode] at hok
  exact hok

/-- Every PPS constructor ends in the one with a minimum current. -/
theorem ppsWithMinimum_of_isWellFormed (h : request.isWellFormed) (hmode : request.mode = .pps) :
    ∃ minimumMa, (ppsWithMinimum request.voltageMv request.operatingCurrentMa
      minimumMa).isOk := by
  rw [isWellFormed, Bool.and_eq_true] at h
  have hok := h.2
  rw [reconstruct, hmode] at hok
  simp only at hok
  split_ifs at hok with hcalibration hautomatic
  · unfold calibrationPps at hok
    split_ifs at hok with hlimit
    · cases hok
    · exact ⟨_, hok⟩
  · have hmap : ∀ constructed : Except PdContractRequestError PdContractRequest,
        (constructed.map fun request => { request with calibration := false }).isOk =
          constructed.isOk := by
      intro constructed
      cases constructed <;> rfl
    rw [automaticPps, hmap] at hok
    exact ⟨_, hok⟩
  · exact ⟨_, hok⟩

theorem ppsMinMv_le_of_isWellFormed (h : request.isWellFormed)
    (hmode : request.mode = .pps) : fusb302bPpsMinMv ≤ request.voltageMv := by
  obtain ⟨_, hok⟩ := ppsWithMinimum_of_isWellFormed h hmode
  exact (bounds_of_ppsWithMinimum hok).1

theorem selected_fixed (hcapabilities : capabilities.WellFormed) {pdo : FixedPdo}
    (hmem : pdo ∈ capabilities.fixed) (voltageMv currentMa : ℕ) :
    Selected ⟨.fixed, pdo.objectPosition, voltageMv, currentMa⟩ :=
  { position := hcapabilities.fixed pdo hmem
    kind := by simp
    floor := by simp }

theorem selected_pps (hcapabilities : capabilities.WellFormed) {apdo : PpsApdo}
    (hmem : apdo ∈ capabilities.pps) {voltageMv : ℕ} (hfloor : fusb302bPpsMinMv ≤ voltageMv)
    (currentMa : ℕ) : Selected ⟨.pps, apdo.objectPosition, voltageMv, currentMa⟩ :=
  { position := (hcapabilities.pps apdo hmem).1
    kind := by simp
    floor := fun _ => hfloor }

theorem selected_of_selectExactContract (hcapabilities : capabilities.WellFormed)
    (h : capabilities.selectExactContract request = some contract) : Selected contract := by
  unfold selectExactContract at h
  split_ifs at h with hformed
  cases hmode : request.mode with
  | fixed =>
    rw [hmode] at h
    obtain ⟨pdo, hfind, rfl⟩ := Option.map_eq_some_iff.mp h
    exact selected_fixed hcapabilities (List.mem_of_find?_eq_some hfind) _ _
  | pps =>
    rw [hmode] at h
    obtain ⟨apdo, hfind, rfl⟩ := Option.map_eq_some_iff.mp h
    exact selected_pps hcapabilities (List.mem_of_find?_eq_some hfind)
      (ppsMinMv_le_of_isWellFormed hformed hmode) _

theorem selected_of_selectBest_fixed (hcapabilities : capabilities.WellFormed)
    {better : Contract → Contract → Bool} {usable : FixedPdo → Bool}
    {voltageMv currentMa : FixedPdo → ℕ}
    (h : selectBest better ((capabilities.fixed.filter usable).map fun pdo =>
      ⟨.fixed, pdo.objectPosition, voltageMv pdo, currentMa pdo⟩) = some contract) :
    Selected contract := by
  obtain ⟨pdo, hmem, rfl⟩ := List.mem_map.mp (mem_of_selectBest h)
  exact selected_fixed hcapabilities (List.mem_filter.mp hmem).1 _ _

theorem selected_of_selectFusb302bContract (hcapabilities : capabilities.WellFormed)
    {requestedMv preferredMa : ℕ}
    (h : capabilities.selectFusb302bContract requestedMv preferredMa = some contract) :
    Selected contract := by
  rcases Option.or_eq_some_iff.mp h with hpps | ⟨-, hfixed⟩
  · obtain ⟨best, hbest, rfl⟩ := Option.map_eq_some_iff.mp hpps
    obtain ⟨apdo, hmem, rfl⟩ := List.mem_map.mp (mem_of_selectBest hbest)
    exact selected_pps hcapabilities (List.mem_filter.mp hmem).1 (le_max_right _ _) _
  · exact selected_of_selectBest_fixed hcapabilities hfixed

theorem selected_of_selectFusb302bFixedContract (hcapabilities : capabilities.WellFormed)
    {requestedMv preferredMa : ℕ}
    (h : capabilities.selectFusb302bFixedContract requestedMv preferredMa = some contract) :
    Selected contract := by
  unfold selectFusb302bFixedContract at h
  split_ifs at h
  exact selected_of_selectBest_fixed hcapabilities h

theorem selected_of_selectFusb302bStandbyContract (hcapabilities : capabilities.WellFormed)
    {requestedMv : ℕ}
    (h : capabilities.selectFusb302bStandbyContract requestedMv = some contract) :
    Selected contract := selected_of_selectBest_fixed hcapabilities h

/-! ## The standby step -/

/-- The bounds are in order, so clamping between them does not panic. -/
theorem standbyStepMinMv_le (hcapabilities : capabilities.WellFormed) {active : Contract}
    (hfloor : fusb302bPpsMinMv ≤ active.voltageMv) {apdo : PpsApdo}
    (h : capabilities.activeApdo active = some apdo) :
    standbyStepMinMv apdo ≤ standbyStepMaxMv apdo := by
  have hmem := List.mem_of_find?_eq_some h
  have hcovers := List.find?_some h
  simp only [decide_eq_true_eq] at hcovers
  obtain ⟨-, hrange, hmin⟩ := hcapabilities.pps apdo hmem
  rw [standbyStepMinMv, standbyStepMaxMv, max_le_iff, le_min_iff, le_min_iff]
  have hpps : fusb302bPpsMinMv ≤ fusb302bPpsMaxMv := by decide
  have hword : 25500 ≤ fusb302bPpsMaxMv := by decide
  exact ⟨⟨hrange, hmin.trans hword⟩, hfloor.trans hcovers.2.2, hpps⟩

theorem selected_of_standbyPpsStep (hcapabilities : capabilities.WellFormed) {active : Contract}
    (hfloor : active.kind = .pps → fusb302bPpsMinMv ≤ active.voltageMv) {requestedMv : ℕ}
    (h : capabilities.selectFusb302bStandbyPpsStep active requestedMv = some contract) :
    Selected contract := by
  unfold selectFusb302bStandbyPpsStep at h
  split_ifs at h with hkind
  rw [not_not] at hkind
  obtain ⟨apdo, hactive, hstep⟩ := Option.bind_eq_some_iff.mp h
  simp only at hstep
  split_ifs at hstep with hlower hcurrent
  obtain rfl := Option.some.inj hstep
  have hbounds := standbyStepMinMv_le hcapabilities (hfloor hkind) hactive
  have hvoltage : fusb302bPpsMinMv ≤
      clamp requestedMv (standbyStepMinMv apdo) (standbyStepMaxMv apdo) := by
    have hmin : fusb302bPpsMinMv ≤ standbyStepMinMv apdo := le_max_right _ _
    exact le_min (hmin.trans (le_max_right _ _)) (hmin.trans hbounds)
  exact selected_pps hcapabilities (List.mem_of_find?_eq_some hactive) hvoltage _

/-- The current of a standby step is always aligned, so only its voltage decides
whether it has an RDO. -/
theorem requestDataObject_standbyPpsStep (hcapabilities : capabilities.WellFormed)
    {active : Contract} (hfloor : active.kind = .pps → fusb302bPpsMinMv ≤ active.voltageMv)
    {requestedMv : ℕ}
    (h : capabilities.selectFusb302bStandbyPpsStep active requestedMv = some contract)
    (haligned : contract.voltageMv % ppsRdoVoltageStepMv = 0) :
    ∃ rdo, requestDataObject contract = some rdo := by
  have hposition := (selected_of_standbyPpsStep hcapabilities hfloor h).position
  unfold selectFusb302bStandbyPpsStep at h
  split_ifs at h with hkind
  obtain ⟨apdo, hactive, hstep⟩ := Option.bind_eq_some_iff.mp h
  simp only at hstep
  split_ifs at hstep with hlower hcurrent
  obtain rfl := Option.some.inj hstep
  have hunits : ¬ (clamp requestedMv (standbyStepMinMv apdo) (standbyStepMaxMv apdo) %
      ppsRdoVoltageStepMv ≠ 0 ∨
      min apdo.maxMa active.currentMa / pdPpsCurrentStepMa * pdPpsCurrentStepMa %
        ppsRdoCurrentStepMa ≠ 0) := by
    rintro (hvoltage | hcurrent)
    · exact hvoltage haligned
    · exact hcurrent (Nat.mul_mod_left _ _)
  rw [requestDataObject, if_neg hposition]
  exact ⟨_, if_neg hunits⟩

end SourceCapabilities

end FluxPurr.Pd
