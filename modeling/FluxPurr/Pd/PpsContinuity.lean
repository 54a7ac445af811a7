import FluxPurr.Pd.HeaterPermit

/-!
# A request that stays on its APDO

Whether a PPS request stays on the APDO of the active contract is decided on a view of the
capabilities without positions.  The range that serves the request is found in the view as the
APDO is found by the selector (`find?_eq_getElem?_selectedIndex`), so the contract that is
selected for the request has the position of the active one (`continuous_selects_activeApdo`).
-/

namespace FluxPurr.Pd

open FluxPurr.Power
open ConfirmedActiveContract

/-! ## The view -/

/-- The capabilities without their positions. -/
structure SourceCapabilitiesView where
  /-- The voltages and the currents of the fixed PDOs. -/
  fixed : List (ℕ × ℕ)
  pps : List PpsAdjustmentRange
deriving DecidableEq, Repr

def SourceCapabilities.view (capabilities : SourceCapabilities) : SourceCapabilitiesView where
  fixed := capabilities.fixed.map fun pdo => (pdo.voltageMv, pdo.maxMa)
  pps := capabilities.pps.map PpsApdo.range

namespace SourceCapabilitiesView

def serves (request : PdContractRequest) (range : PpsAdjustmentRange) : Bool :=
  (request.ppsRange.all fun pinned => pinned = range) ∧ range.minMv ≤ request.voltageMv ∧
    request.voltageMv ≤ range.maxMv ∧ request.operatingCurrentMa ≤ range.maxCurrentMa

/-- Where the first range is that serves the request. -/
def selectedIndex (view : SourceCapabilitiesView) (request : PdContractRequest) : Option ℕ :=
  view.pps.findIdx? (serves request)

end SourceCapabilitiesView

open SourceCapabilitiesView

namespace ConfirmedActiveContract

def requestKeepsSamePpsApdoInView (active : ConfirmedActiveContract)
    (view : SourceCapabilitiesView) (request : PdContractRequest) : Bool :=
  if ¬ request.isWellFormed ∨ active.mode ≠ .pps ∨ request.mode ≠ .pps ∨
      active.operatingCurrentMa ≠ request.operatingCurrentMa then false
  else (view.selectedIndex request).any fun index => active.ppsCapabilityIndex = some index

/-- A calibration may lower the current as well. -/
def requestKeepsSamePpsApdoOrReducesCurrentInView (active : ConfirmedActiveContract)
    (view : SourceCapabilitiesView) (request : PdContractRequest) : Bool :=
  if ¬ request.calibration ∨ ¬ request.isWellFormed ∨ active.mode ≠ .pps ∨ request.mode ≠ .pps ∨
      active.operatingCurrentMa < request.operatingCurrentMa then false
  else (view.selectedIndex request).any fun index => active.ppsCapabilityIndex = some index

variable {active confirmed : ConfirmedActiveContract} {capabilities : SourceCapabilities}
  {request : PdContractRequest}

theorem selectedIndex_view (capabilities : SourceCapabilities) (request : PdContractRequest) :
    capabilities.view.selectedIndex request =
      capabilities.pps.findIdx? fun apdo => serves request apdo.range := by
  unfold selectedIndex SourceCapabilities.view
  dsimp only
  rw [List.findIdx?_map]
  rfl

theorem servedByApdo_eq (active : ConfirmedActiveContract) (capabilities : SourceCapabilities)
    (request : PdContractRequest) :
    active.servedByApdo capabilities request =
      (capabilities.view.selectedIndex request).any
        fun index => active.ppsCapabilityIndex = some index := by
  rw [selectedIndex_view]
  rfl

theorem requestKeepsSamePpsApdo_eq_inView :
    active.requestKeepsSamePpsApdo capabilities request =
      active.requestKeepsSamePpsApdoInView capabilities.view request := by
  unfold requestKeepsSamePpsApdo requestKeepsSamePpsApdoInView
  rw [servedByApdo_eq, Bool.eq_iff_iff]
  split_ifs with hnot
  · simp only [decide_eq_true_eq, iff_false]
    tauto
  · simp only [decide_eq_true_eq]
    tauto

theorem requestKeepsSamePpsApdoOrReducesCurrent_eq_inView :
    active.requestKeepsSamePpsApdoOrReducesCurrent capabilities request =
      active.requestKeepsSamePpsApdoOrReducesCurrentInView capabilities.view request := by
  unfold requestKeepsSamePpsApdoOrReducesCurrent requestKeepsSamePpsApdoOrReducesCurrentInView
  rw [servedByApdo_eq, Bool.eq_iff_iff]
  split_ifs with hnot
  · simp only [decide_eq_true_eq, iff_false]
    rintro ⟨hcalibration, hformed, hmode, hpps, hcurrent, -⟩
    rcases hnot with h | h | h | h | h
    · exact h hcalibration
    · exact h hformed
    · exact h hmode
    · exact h hpps
    · omega
  · simp only [decide_eq_true_eq]
    rw [not_or, not_or, not_or, not_or, not_not, not_not, not_not, not_not, not_lt] at hnot
    tauto

end ConfirmedActiveContract

/-! ## The selected APDO -/

theorem find?_eq_getElem? {α : Type*} {p : α → Bool} {objects : List α} {index : ℕ}
    (h : objects.findIdx? p = some index) : objects.find? p = objects[index]? := by
  obtain ⟨hlt, hindex, hbefore⟩ := List.findIdx?_eq_some_iff_getElem.mp h
  rw [List.getElem?_eq_getElem hlt]
  exact List.find?_eq_some_iff_getElem.mpr ⟨hindex, index, hlt, rfl, fun j hj => by
    simpa using hbefore j hj⟩

namespace SourceCapabilities

variable {capabilities : SourceCapabilities} {request : PdContractRequest} {active : Contract}
  {confirmed : ConfirmedActiveContract}

/-- The selector asks of an APDO what the view asks of its range. -/
theorem serves_range (request : PdContractRequest) (apdo : PpsApdo) :
    serves request apdo.range =
      decide ((request.ppsRange.all fun range =>
          range.minMv = apdo.minMv ∧ range.maxMv = apdo.maxMv ∧ range.maxCurrentMa = apdo.maxMa) ∧
        apdo.minMv ≤ request.voltageMv ∧ request.voltageMv ≤ apdo.maxMv ∧
          request.operatingCurrentMa ≤ apdo.maxMa) := by
  have hpinned : ∀ range : PpsAdjustmentRange, range = apdo.range ↔
      range.minMv = apdo.minMv ∧ range.maxMv = apdo.maxMv ∧ range.maxCurrentMa = apdo.maxMa := by
    rintro ⟨minMv, maxMv, maxCurrentMa⟩
    exact PpsAdjustmentRange.mk.injEq .. ▸ Iff.rfl
  unfold serves
  simp only [hpinned]
  rfl

theorem selectExactContract_of_selectedIndex (hformed : request.isWellFormed = true)
    (hpps : request.mode = .pps) {index : ℕ}
    (hindex : capabilities.view.selectedIndex request = some index) :
    capabilities.selectExactContract request = capabilities.pps[index]?.map fun apdo =>
      ⟨.pps, apdo.objectPosition, request.voltageMv, request.operatingCurrentMa⟩ := by
  rw [selectedIndex_view] at hindex
  simp only [serves_range] at hindex
  unfold selectExactContract
  rw [if_neg (not_not.mpr hformed), hpps]
  dsimp only
  rw [find?_eq_getElem? hindex]

/-- The index that is confirmed is one of an APDO at the position of the contract. -/
theorem confirmed_index {index : ℕ}
    (hconfirmed : fromPrivateContract active capabilities = some confirmed)
    (hindex : confirmed.ppsCapabilityIndex = some index) :
    ∃ apdo, capabilities.pps[index]? = some apdo ∧
      apdo.objectPosition = active.objectPosition := by
  unfold fromPrivateContract at hconfirmed
  split_ifs at hconfirmed
  cases hkind : active.kind with
  | none =>
    rw [hkind] at hconfirmed
    cases hconfirmed
  | fixed =>
    rw [hkind] at hconfirmed
    obtain rfl := Option.some.inj hconfirmed
    cases hindex
  | pps =>
    rw [hkind] at hconfirmed
    obtain rfl := Option.some.inj hconfirmed
    obtain ⟨hlt, hposition, -⟩ := List.findIdx?_eq_some_iff_getElem.mp hindex
    exact ⟨capabilities.pps[index], List.getElem?_eq_getElem hlt, of_decide_eq_true hposition⟩

theorem confirmed_current (hconfirmed : fromPrivateContract active capabilities = some confirmed) :
    confirmed.operatingCurrentMa = active.currentMa := by
  unfold fromPrivateContract at hconfirmed
  split_ifs at hconfirmed
  split at hconfirmed
  · exact (Option.some.inj hconfirmed) ▸ rfl
  · exact (Option.some.inj hconfirmed) ▸ rfl
  · cases hconfirmed

theorem selects_confirmed_apdo
    (hconfirmed : fromPrivateContract active capabilities = some confirmed)
    (hformed : request.isWellFormed = true) (hpps : request.mode = .pps)
    (hcurrent : request.operatingCurrentMa ≤ confirmed.operatingCurrentMa)
    (hserved : ((capabilities.view.selectedIndex request).any
      fun index => confirmed.ppsCapabilityIndex = some index) = true) :
    ∃ contract, capabilities.selectExactContract request = some contract ∧
      contract.objectPosition = active.objectPosition ∧ contract.currentMa ≤ active.currentMa := by
  obtain ⟨index, hselected, hsame⟩ := (Option.any_eq_true _ _).mp hserved
  obtain ⟨apdo, hapdo, hposition⟩ := confirmed_index hconfirmed (of_decide_eq_true hsame)
  rw [selectExactContract_of_selectedIndex hformed hpps hselected, hapdo]
  exact ⟨_, rfl, hposition, hcurrent.trans (confirmed_current hconfirmed).le⟩

theorem selects_of_keeps (hconfirmed : fromPrivateContract active capabilities = some confirmed)
    (hkeeps : confirmed.requestKeepsSamePpsApdoInView capabilities.view request = true ∨
      confirmed.requestKeepsSamePpsApdoOrReducesCurrentInView capabilities.view request = true) :
    ∃ contract, capabilities.selectExactContract request = some contract ∧
      contract.objectPosition = active.objectPosition ∧ contract.currentMa ≤ active.currentMa := by
  rcases hkeeps with hkeeps | hkeeps
  · unfold requestKeepsSamePpsApdoInView at hkeeps
    split_ifs at hkeeps with hnot
    rw [not_or, not_or, not_or, not_not, not_not, not_not, not_not] at hnot
    obtain ⟨hformed, -, hpps, hcurrent⟩ := hnot
    exact selects_confirmed_apdo hconfirmed hformed hpps hcurrent.ge hkeeps
  · unfold requestKeepsSamePpsApdoOrReducesCurrentInView at hkeeps
    split_ifs at hkeeps with hnot
    rw [not_or, not_or, not_or, not_or, not_not, not_not, not_not, not_not, not_lt] at hnot
    obtain ⟨-, hformed, -, hpps, hcurrent⟩ := hnot
    exact selects_confirmed_apdo hconfirmed hformed hpps hcurrent hkeeps

end SourceCapabilities

/-! ## Continuous adjustments -/

/-- The request of an adjustment is served by the APDO of the active contract, with no more
current. -/
def Fusb302bRuntime.StaysOnActiveApdo (runtime : Fusb302bRuntime)
    (pending : Option (PowerTicket × PendingPdOperation)) : Prop :=
  ∃ ticket request contract, pending = some (ticket, .contract request) ∧
    runtime.policy.sourceCapabilities.selectExactContract request = some contract ∧
    contract.objectPosition = runtime.policy.activeContract.objectPosition ∧
    contract.currentMa ≤ runtime.policy.activeContract.currentMa

theorem keeps_of_sameApdoAndSafeCurrent {runtime : Fusb302bRuntime} {request : PdContractRequest}
    (h : runtime.sameApdoAndSafeCurrent request = true) :
    ∃ confirmed, fromPrivateContract runtime.policy.activeContract
        runtime.policy.sourceCapabilities = some confirmed ∧
      (confirmed.requestKeepsSamePpsApdoInView
          runtime.policy.sourceCapabilities.view request = true ∨
        confirmed.requestKeepsSamePpsApdoOrReducesCurrentInView
          runtime.policy.sourceCapabilities.view request = true) := by
  unfold Fusb302bRuntime.sameApdoAndSafeCurrent at h
  split at h
  · rename_i confirmed capabilities hconfirmed hreceived
    have hsame : runtime.policy.sourceCapabilities = capabilities := by
      unfold SinkPolicy.receivedCapabilities at hreceived
      split_ifs at hreceived
      exact Option.some.inj hreceived
    rw [hsame]
    refine ⟨confirmed, hsame ▸ hconfirmed, ?_⟩
    split_ifs at h
    · exact .inr (requestKeepsSamePpsApdoOrReducesCurrent_eq_inView ▸ h)
    · exact .inl (requestKeepsSamePpsApdo_eq_inView ▸ h)
  · cases h

theorem staysOnActiveApdo_of_continuous {runtime : Fusb302bRuntime}
    {pending : Option (PowerTicket × PendingPdOperation)}
    (h : runtime.continuousPpsTransition pending = true) : runtime.StaysOnActiveApdo pending := by
  unfold Fusb302bRuntime.continuousPpsTransition at h
  split at h
  · rename_i ticket request
    unfold continuousPpsTransitionKeepsHeaterPermit at h
    simp only [Bool.and_eq_true] at h
    obtain ⟨confirmed, hconfirmed, hkeeps⟩ := keeps_of_sameApdoAndSafeCurrent h.1.1.2
    obtain ⟨contract, hcontract, hposition, hcurrent⟩ :=
      SourceCapabilities.selects_of_keeps hconfirmed hkeeps
    exact ⟨ticket, request, contract, rfl, hcontract, hposition, hcurrent⟩
  · cases h

/-- What is continuous on the view is selected on the active APDO, so a heater that stays on for
an adjustment sees neither another APDO nor more current. -/
theorem continuous_selects_activeApdo (capabilities : SourceCapabilities) (active : Contract)
    (request : PdContractRequest) (confirmed : ConfirmedActiveContract)
    (hconfirmed : fromPrivateContract active capabilities = some confirmed)
    (hkeeps : confirmed.requestKeepsSamePpsApdoInView capabilities.view request = true ∨
      confirmed.requestKeepsSamePpsApdoOrReducesCurrentInView capabilities.view request = true) :
    (∃ contract, capabilities.selectExactContract request = some contract ∧
      contract.objectPosition = active.objectPosition ∧ contract.currentMa ≤ active.currentMa) ∧
    ∀ runtime pending, Fusb302bRuntime.continuousPpsTransition runtime pending = true →
      runtime.StaysOnActiveApdo pending :=
  ⟨SourceCapabilities.selects_of_keeps hconfirmed hkeeps,
    fun _ _ h => staysOnActiveApdo_of_continuous h⟩

/-- Two APDOs that overlap, of which the second is active. -/
def overlappingCapabilities : SourceCapabilities where
  fixed := [⟨1, 5000, 3000⟩]
  pps := [⟨2, 5500, 11000, 3000⟩, ⟨3, 5500, 21000, 5000⟩]

theorem continuous_selects_activeApdo_overlapping :
    ∃ contract, overlappingCapabilities.selectExactContract ⟨.pps, 12000, 4000, false, none⟩ =
        some contract ∧ contract.objectPosition = 3 ∧ contract.currentMa ≤ 4000 :=
  (continuous_selects_activeApdo overlappingCapabilities ⟨.pps, 3, 20000, 4000⟩
    ⟨.pps, 12000, 4000, false, none⟩ ⟨.pps, 20000, 4000, some ⟨5500, 21000, 5000⟩, some 1⟩
    (by decide +kernel) (.inl (by decide +kernel))).1

end FluxPurr.Pd
