import FluxPurr.Pd.SinkRuns

/-!
# Refused requests

A request that has no RDO is refused.  Four of the requests look for the RDO before they change
the negotiation.  The standby step does not: where it selects a contract that cannot be encoded,
it waits for the answer to an RDO that was never sent (`refused_untouched_iff`).

The objects of a source lie on a grid of 100 mV (`OnGrid`), and so do the bounds of a step.  A
step is off the grid only where the wanted voltage is, between these bounds.
-/

namespace FluxPurr.Pd

open FluxPurr.Wire FluxPurr.Runs
open SourceCapabilities

/-! ## The capabilities of a run -/

namespace SourceCapabilities

/-- The bounds of every APDO are multiples of 100 mV. -/
def OnGrid (capabilities : SourceCapabilities) : Prop :=
  ∀ apdo ∈ capabilities.pps, apdo.minMv % 100 = 0 ∧ apdo.maxMv % 100 = 0

theorem onGrid_pushPdo {capabilities : SourceCapabilities} (h : capabilities.OnGrid)
    (raw : UInt32) (index : ℕ) : (capabilities.pushPdo raw (index + 1)).OnGrid := by
  unfold pushPdo
  split_ifs
  · unfold pushFixed
    split_ifs <;> exact h
  · unfold pushPps
    split_ifs
    · exact h
    · intro apdo hmem
      rcases List.mem_append.mp hmem with hold | hnew
      · exact h apdo hold
      · obtain rfl := List.mem_singleton.mp hnew
        exact ⟨Nat.mul_mod_left _ _, Nat.mul_mod_left _ _⟩
    · exact h
  · exact h

theorem onGrid_fromPdos (pdos : List UInt32) : (fromPdos pdos).OnGrid :=
  @fromPdos_induction OnGrid (fun _ h => absurd h List.not_mem_nil)
    (fun _ raw index h => onGrid_pushPdo h raw index) pdos

end SourceCapabilities

theorem sourceCapabilities_perform (policy : SinkPolicy) (operation : SinkOperation) :
    (operation.perform policy).policy.sourceCapabilities = policy.sourceCapabilities ∨
      ∃ pdos, (operation.perform policy).policy.sourceCapabilities = .fromPdos pdos := by
  cases contractOutcome_perform policy operation with
  | kept hkept => exact .inl hkept.capabilities
  | read pdos hread => exact .inr ⟨pdos, hread⟩
  | confirmed hanswers hactive hcapabilities | dropped hactive hcapabilities =>
    exact .inl hcapabilities

/-- The capabilities of the session were read from a message. -/
def Session.HasRead (session : Session) : Prop :=
  ∃ pdos, session.policy.sourceCapabilities = .fromPdos pdos

theorem hasRead_of_reaches {start session : Session} {operations : List SinkOperation}
    (hstart : start.Starts) (hrun : Reaches Session.Step start operations session) :
    session.HasRead := by
  have hread : start.HasRead := by
    obtain ⟨-, requestedMv, preferredMa, hpolicy | hpolicy⟩ := hstart
    · exact ⟨[], by rw [hpolicy]; rfl⟩
    · exact ⟨[], by rw [hpolicy]; rfl⟩
  refine hrun.invariant hread ?_
  rintro before operation after ⟨pdos, hpdos⟩ rfl
  rcases sourceCapabilities_perform before.policy operation with hkept | hread
  · exact ⟨pdos, hkept.trans hpdos⟩
  · exact hread

/-! ## What a refused request leaves behind -/

/-- The phase and the contracts are as before. -/
structure Untouched (before after : SinkPolicy) : Prop where
  phase : after.phase = before.phase
  pending : after.pendingContract = before.pendingContract
  active : after.activeContract = before.activeContract

def LeavesUntouched (policy : SinkPolicy) (response : Response) : Prop :=
  response.rdo = none → Untouched policy response.policy

namespace SinkPolicy

/-- The wanted voltage of a step can be encoded, or is clamped to the range of the APDO. -/
def StepOnGrid (policy : SinkPolicy) (requestedMv : ℕ) : Prop :=
  requestedMv % ppsRdoVoltageStepMv = 0 ∨
    ∀ apdo, policy.sourceCapabilities.activeApdo policy.activeContract = some apdo →
      requestedMv ≤ standbyStepMinMv apdo ∨ standbyStepMaxMv apdo ≤ requestedMv

/-- No step is selected, or one that can be encoded, or the one that is waited for already. -/
def StepSuits (policy : SinkPolicy) (requestedMv : ℕ) : Prop :=
  policy.sourceCapabilitiesReceived = true → ∀ contract,
    policy.sourceCapabilities.selectFusb302bStandbyPpsStep policy.activeContract requestedMv =
        some contract →
      policy.StepOnGrid requestedMv ∨
        policy.phase = .waitingForAccept ∧ policy.pendingContract = contract

variable {policy failed prepared : SinkPolicy}

theorem leavesUntouched_sendRequest (h : Untouched policy failed) (contract : Contract) :
    LeavesUntouched policy (sendRequest failed prepared contract) := by
  intro hrdo
  unfold sendRequest at hrdo ⊢
  cases hencoded : requestDataObject contract with
  | none => exact h
  | some rdo =>
    rw [hencoded] at hrdo
    cases hrdo

theorem leavesUntouched_idle (policy : SinkPolicy) : LeavesUntouched policy ⟨policy, none⟩ :=
  fun _ => ⟨rfl, rfl, rfl⟩

theorem leavesUntouched_requestContract (policy : SinkPolicy) (request : PdContractRequest) :
    LeavesUntouched policy (policy.requestContract request) := by
  unfold requestContract
  split_ifs
  · cases policy.sourceCapabilities.selectExactContract request with
    | none => exact leavesUntouched_idle policy
    | some contract => exact leavesUntouched_sendRequest ⟨rfl, rfl, rfl⟩ contract
  · exact leavesUntouched_idle policy

theorem leavesUntouched_requestPpsVoltage (policy : SinkPolicy) (requestedMv : ℕ) :
    LeavesUntouched policy (policy.requestPpsVoltage requestedMv) := by
  have hwish : Untouched policy (policy.wantPps requestedMv) := ⟨rfl, rfl, rfl⟩
  unfold requestPpsVoltage
  cases policy.selectPpsContract requestedMv with
  | none => exact leavesUntouched_idle policy
  | some contract => exact leavesUntouched_sendRequest hwish contract

theorem leavesUntouched_requestFixedVoltage (policy : SinkPolicy) (requestedMv : ℕ) :
    LeavesUntouched policy (policy.requestFixedVoltage requestedMv) := by
  unfold requestFixedVoltage
  split_ifs
  · cases policy.sourceCapabilities.selectFusb302bFixedContract requestedMv
        policy.preferredMa with
    | none => exact leavesUntouched_idle policy
    | some contract => exact leavesUntouched_sendRequest ⟨rfl, rfl, rfl⟩ contract
  · exact leavesUntouched_idle policy

theorem leavesUntouched_requestAutomaticIdleFixedContract (policy : SinkPolicy) :
    LeavesUntouched policy policy.requestAutomaticIdleFixedContract := by
  have hwish : Untouched policy policy.prepareAutomaticIdleRefresh := ⟨rfl, rfl, rfl⟩
  unfold requestAutomaticIdleFixedContract
  split_ifs
  · unfold beginRequest
    cases policy.prepareAutomaticIdleRefresh.beginTarget policy.sourceCapabilities with
    | none => exact fun _ => hwish
    | some contract => exact leavesUntouched_sendRequest hwish contract
  · exact leavesUntouched_idle policy

theorem clamp_mod_iff {value low high : ℕ} (hlow : low % 20 = 0) (hhigh : high % 20 = 0) :
    clamp value low high % 20 = 0 ↔ value % 20 = 0 ∨ value ≤ low ∨ high ≤ value := by
  unfold clamp
  omega

theorem requestDataObject_step_iff {pdos : List UInt32}
    (hpdos : policy.sourceCapabilities = .fromPdos pdos) {requestedMv : ℕ} {contract : Contract}
    (h : policy.sourceCapabilities.selectFusb302bStandbyPpsStep policy.activeContract requestedMv =
      some contract) : requestDataObject contract = none ↔ ¬policy.StepOnGrid requestedMv := by
  unfold selectFusb302bStandbyPpsStep at h
  split_ifs at h with hkind
  obtain ⟨apdo, hactive, hstep⟩ := Option.bind_eq_some_iff.mp h
  simp only at hstep
  split_ifs at hstep with hlower hcurrent
  obtain rfl := Option.some.inj hstep
  have hmem : apdo ∈ (fromPdos pdos).pps := hpdos ▸ List.mem_of_find?_eq_some hactive
  have hposition := ((wellFormed_fromPdos pdos).pps apdo hmem).1
  obtain ⟨hmin, hmax⟩ := onGrid_fromPdos pdos apdo hmem
  have hlow : standbyStepMinMv apdo % 20 = 0 := by
    show max apdo.minMv 5500 % 20 = 0
    omega
  have hhigh : standbyStepMaxMv apdo % 20 = 0 := by
    show min apdo.maxMv 28000 % 20 = 0
    omega
  have hgrid : policy.StepOnGrid requestedMv ↔
      clamp requestedMv (standbyStepMinMv apdo)
        (standbyStepMaxMv apdo) % 20 = 0 := by
    rw [clamp_mod_iff hlow hhigh]
    constructor
    · rintro (hmultiple | houtside)
      · exact .inl hmultiple
      · exact .inr (houtside apdo hactive)
    · rintro (hmultiple | houtside)
      · exact .inl hmultiple
      · refine .inr fun other hother => ?_
        obtain rfl := Option.some.inj (hactive.symm.trans hother)
        exact houtside
  have haligned : min apdo.maxMa policy.activeContract.currentMa / pdPpsCurrentStepMa *
      pdPpsCurrentStepMa % ppsRdoCurrentStepMa = 0 := Nat.mul_mod_left _ _
  rw [hgrid, requestDataObject, if_neg hposition]
  constructor
  · intro hnone hmultiple
    rw [if_neg (not_or.mpr ⟨not_not.mpr hmultiple, not_not.mpr haligned⟩)] at hnone
    cases hnone
  · intro hoff
    exact if_pos (.inl hoff)

theorem leavesUntouched_step_iff {pdos : List UInt32}
    (hpdos : policy.sourceCapabilities = .fromPdos pdos) (requestedMv : ℕ) :
    LeavesUntouched policy (policy.requestAutomaticIdlePpsStep requestedMv) ↔
      policy.StepSuits requestedMv := by
  unfold requestAutomaticIdlePpsStep StepSuits
  split_ifs with hreceived
  · cases hselected : policy.sourceCapabilities.selectFusb302bStandbyPpsStep
      policy.activeContract requestedMv with
    | none => exact iff_of_true (leavesUntouched_idle policy) fun _ _ h => nomatch h
    | some contract =>
      have hencodes := requestDataObject_step_iff hpdos hselected
      constructor
      · intro huntouched _ selected hsame
        obtain rfl := Option.some.inj hsame
        by_cases hgrid : policy.StepOnGrid requestedMv
        · exact .inl hgrid
        · obtain ⟨hphase, hpending, -⟩ := huntouched (hencodes.mpr hgrid)
          exact .inr ⟨hphase.symm, hpending.symm⟩
      · intro hsuits hrdo
        rcases hsuits hreceived contract rfl with hgrid | ⟨hphase, hpending⟩
        · exact absurd hgrid (hencodes.mp hrdo)
        · exact ⟨hphase.symm, hpending.symm, rfl⟩
  · exact iff_of_true (leavesUntouched_idle policy) fun h => absurd h hreceived

end SinkPolicy

open SinkPolicy

/-- Only a standby step can be one that has no RDO. -/
def SinkOperation.Suits (policy : SinkPolicy) : SinkOperation → Prop
  | requestAutomaticIdlePpsStep requestedMv => policy.StepSuits requestedMv
  | _ => True

/-- In every state, a refused request leaves the negotiation untouched exactly if it is no standby
step that cannot be encoded. -/
theorem refused_untouched_iff {start session : Session} {operations : List SinkOperation}
    (hstart : start.Starts) (hrun : Reaches Session.Step start operations session)
    (operation : SinkOperation) (hrequest : operation.isRequest = true) :
    LeavesUntouched session.policy (operation.perform session.policy) ↔
      operation.Suits session.policy := by
  obtain ⟨pdos, hpdos⟩ := hasRead_of_reaches hstart hrun
  cases operation with
  | requestContract request =>
      exact iff_of_true (leavesUntouched_requestContract _ request) trivial
  | requestPpsVoltage requestedMv =>
      exact iff_of_true (leavesUntouched_requestPpsVoltage _ requestedMv) trivial
  | requestAutomaticIdleFixedContract =>
      exact iff_of_true (leavesUntouched_requestAutomaticIdleFixedContract _) trivial
  | requestAutomaticIdlePpsStep requestedMv =>
      exact leavesUntouched_step_iff hpdos requestedMv
  | requestFixedVoltage requestedMv =>
      exact iff_of_true (leavesUntouched_requestFixedVoltage _ requestedMv) trivial
  | _ => cases hrequest

/-- 5 V at 0.5 A, 9.05 V at 3 A, and a PPS range of 5 V to 21 V at 3 A. -/
def offGridPdos : List UInt32 := [0x00019032, 0x0002D52C, 0xC1A4323C]

def offGridSession : Session := { policy := .new 9500 3000 }

/-- The 9.5 V PPS contract of `offGridSession` with this source. -/
def offGridNegotiation : List SinkOperation :=
  [.sourceCapabilities offGridPdos none, .controlMessage accept none, .controlMessage psRdy none]

/-- A step to 9 V is sent. -/
theorem refused_untouched_nine_volts :
    LeavesUntouched (offGridNegotiation.foldl Session.apply offGridSession).policy
      ((SinkOperation.requestAutomaticIdlePpsStep 9000).perform
        (offGridNegotiation.foldl Session.apply offGridSession).policy) :=
  (refused_untouched_iff ⟨rfl, 9500, 3000, .inl rfl⟩
    (Reaches.of_foldl Session.apply offGridSession offGridNegotiation) _ rfl).mpr
      fun _ _ _ => .inl (.inl rfl)

/-- The last step down to the fixed contract of 9.05 V has no RDO, and its answer is waited
for. -/
theorem refused_step_waits :
    ¬∀ operations session, Reaches Session.Step offGridSession operations session →
      ∀ operation : SinkOperation, operation.isRequest = true →
        (operation.perform session.policy).rdo = none →
          (operation.perform session.policy).policy.phase = session.policy.phase ∧
            (operation.perform session.policy).policy.pendingContract =
              session.policy.pendingContract ∧
            (operation.perform session.policy).policy.activeContract =
              session.policy.activeContract := by
  intro h
  obtain ⟨hphase, -⟩ := h _ _ (Reaches.of_foldl Session.apply offGridSession offGridNegotiation)
    (.requestAutomaticIdlePpsStep 9050) rfl (by decide +kernel)
  exact absurd hphase (by decide +kernel)

end FluxPurr.Pd
