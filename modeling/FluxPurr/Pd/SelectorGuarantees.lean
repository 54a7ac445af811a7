import FluxPurr.Pd.RequestDecoding
import Mathlib.Data.Nat.Dist

/-!
# What the selectors guarantee

A selected contract is supported by the source, within the limits of the heater, and read by
the source as it was meant (`Sound`).  Every selector has a preference among the objects that
can serve, and returns the contract of the best one.

The one exception is the operating selector without a usable APDO.  It raises the requested
voltage to the lowest PPS voltage before it looks at the fixed PDOs, so a request below that
voltage can be answered with a fixed PDO above it (`selectorsSound_iff`).
-/

namespace FluxPurr.Pd

open FluxPurr.Wire
open SourceCapabilities

/-! ## Preferences -/

def PrefersFirstFixed (a b : FixedPdo) : Prop := a.objectPosition < b.objectPosition

def PrefersFirstPps (a b : PpsApdo) : Prop := a.objectPosition < b.objectPosition

/-- The most current, then the range that reaches higher, then the one that reaches lower. -/
def PrefersPps (currentMa : PpsApdo → ℕ) (a b : PpsApdo) : Prop :=
  currentMa b < currentMa a ∨ currentMa a = currentMa b ∧
    (b.maxMv < a.maxMv ∨ a.maxMv = b.maxMv ∧
      (a.minMv < b.minMv ∨ a.minMv = b.minMv ∧ a.objectPosition < b.objectPosition))

/-- The highest voltage, then the most current. -/
def PrefersHigher (currentMa : FixedPdo → ℕ) (a b : FixedPdo) : Prop :=
  b.voltageMv < a.voltageMv ∨ a.voltageMv = b.voltageMv ∧
    (currentMa b < currentMa a ∨ currentMa a = currentMa b ∧ a.objectPosition < b.objectPosition)

def PrefersStronger (currentMa : FixedPdo → ℕ) (a b : FixedPdo) : Prop :=
  currentMa b < currentMa a ∨ currentMa a = currentMa b ∧ a.objectPosition < b.objectPosition

def PrefersLower (a b : FixedPdo) : Prop :=
  a.voltageMv < b.voltageMv ∨ a.voltageMv = b.voltageMv ∧ a.objectPosition < b.objectPosition

/-! ## The statement -/

structure Sound (pdos : List UInt32) (contract : Contract) : Prop where
  supported : (fromPdos pdos).supportsContract contract = true
  limits : WithinLimits contract
  exact : ∀ rdo, requestDataObject contract = some rdo → sourceContract pdos rdo = some contract

variable (capabilities : SourceCapabilities) {currentMa : FixedPdo → ℕ}

/-- The first object that serves the request exactly. -/
def BestExact (request : PdContractRequest) (contract : Contract) : Prop :=
  match request.mode with
  | .fixed =>
      ∃ pdo, IsBest capabilities.fixed
          (fun pdo => pdo.voltageMv = request.voltageMv ∧ request.operatingCurrentMa ≤ pdo.maxMa)
          PrefersFirstFixed pdo ∧
        contract = ⟨.fixed, pdo.objectPosition, request.voltageMv, request.operatingCurrentMa⟩
  | .pps =>
      ∃ apdo, IsBest capabilities.pps
          (fun apdo =>
            (∀ range, request.ppsRange = some range →
              range.minMv = apdo.minMv ∧ range.maxMv = apdo.maxMv ∧
                range.maxCurrentMa = apdo.maxMa) ∧
              apdo.minMv ≤ request.voltageMv ∧ request.voltageMv ≤ apdo.maxMv ∧
                request.operatingCurrentMa ≤ apdo.maxMa)
          PrefersFirstPps apdo ∧
        contract = ⟨.pps, apdo.objectPosition, request.voltageMv, request.operatingCurrentMa⟩

/-- The requested voltage within the guard of the protocol. -/
def operatingTargetMv (requestedMv : ℕ) : ℕ :=
  clamp requestedMv fusb302bPdAbsoluteMinMv fusb302bPdAbsoluteMaxMv

def operatingPpsMv (requestedMv : ℕ) : ℕ := max (operatingTargetMv requestedMv) fusb302bPpsMinMv

def operatingMa (preferredMa : ℕ) : ℕ := clamp preferredMa minHeaterContractMa maxHeaterContractMa

def ServesOperating (requestedMv : ℕ) (apdo : PpsApdo) : Prop :=
  minHeaterContractMa ≤ apdo.maxMa ∧ apdo.minMv ≤ operatingPpsMv requestedMv ∧
    operatingPpsMv requestedMv ≤ apdo.maxMv

def FallsBackTo (targetMv : ℕ) (pdo : FixedPdo) : Prop :=
  fusb302bPdAbsoluteMinMv ≤ pdo.voltageMv ∧ pdo.voltageMv ≤ fusb302bFixedMaxMv ∧
    pdo.voltageMv ≤ targetMv ∧ minHeaterContractMa ≤ pdo.maxMa

/-- An APDO at the requested voltage, or else the highest fixed PDO up to it. -/
def BestOperating (requestedMv preferredMa : ℕ) (contract : Contract) : Prop :=
  (∃ apdo, IsBest capabilities.pps (ServesOperating requestedMv)
      (PrefersPps fun apdo => min apdo.maxMa (operatingMa preferredMa)) apdo ∧
    contract = ⟨.pps, apdo.objectPosition, operatingPpsMv requestedMv,
      min apdo.maxMa (operatingMa preferredMa)⟩) ∨
  (∀ apdo ∈ capabilities.pps, ¬ServesOperating requestedMv apdo) ∧
    ∃ pdo, IsBest capabilities.fixed (FallsBackTo (operatingTargetMv requestedMv))
        (PrefersHigher fun pdo => min pdo.maxMa (operatingMa preferredMa)) pdo ∧
      contract = ⟨.fixed, pdo.objectPosition, pdo.voltageMv,
        min pdo.maxMa (operatingMa preferredMa)⟩

def BestFixed (requestedMv preferredMa : ℕ) (contract : Contract) : Prop :=
  ∃ pdo, IsBest capabilities.fixed
      (fun pdo => pdo.voltageMv = requestedMv ∧ minHeaterContractMa ≤ pdo.maxMa)
      (PrefersStronger fun pdo => min pdo.maxMa (operatingMa preferredMa)) pdo ∧
    contract = ⟨.fixed, pdo.objectPosition, requestedMv, min pdo.maxMa (operatingMa preferredMa)⟩

/-- The lowest fixed PDO from the requested voltage on that provides the standby budget. -/
def BestStandby (requestedMv : ℕ) (contract : Contract) : Prop :=
  ∃ pdo, IsBest capabilities.fixed
      (fun pdo => clamp requestedMv fusb302bPdAbsoluteMinMv fusb302bFixedMaxMv ≤ pdo.voltageMv ∧
        pdo.voltageMv ≤ fusb302bFixedMaxMv ∧ standbyCurrentForVoltage pdo.voltageMv ≤ pdo.maxMa)
      PrefersLower pdo ∧
    contract = ⟨.fixed, pdo.objectPosition, pdo.voltageMv, standbyCurrentForVoltage pdo.voltageMv⟩

def standbyPpsMv (requestedMv : ℕ) : ℕ := clamp requestedMv fusb302bPpsMinMv fusb302bFixedMaxMv

/-- The standby budget in whole PPS steps. -/
def standbyPpsMa (requestedMv : ℕ) : ℕ :=
  standbyCurrentForVoltage (standbyPpsMv requestedMv) / pdPpsCurrentStepMa * pdPpsCurrentStepMa

def drawnStandbyMa (requestedMv : ℕ) (apdo : PpsApdo) : ℕ :=
  min apdo.maxMa (standbyPpsMa requestedMv) / pdPpsCurrentStepMa * pdPpsCurrentStepMa

def BestStandbyPps (requestedMv : ℕ) (contract : Contract) : Prop :=
  ∃ apdo, IsBest capabilities.pps
      (fun apdo => apdo.minMv ≤ standbyPpsMv requestedMv ∧ standbyPpsMv requestedMv ≤ apdo.maxMv ∧
        drawnStandbyMa requestedMv apdo ≠ 0)
      (PrefersPps (drawnStandbyMa requestedMv)) apdo ∧
    contract = ⟨.pps, apdo.objectPosition, standbyPpsMv requestedMv, drawnStandbyMa requestedMv apdo⟩

/-- The voltages of an APDO that a standby step may ask for. -/
def StepsTo (apdo : PpsApdo) (voltageMv : ℕ) : Prop :=
  standbyStepMinMv apdo ≤ voltageMv ∧
    voltageMv ≤ standbyStepMaxMv apdo

/-- Down on the active APDO, as close to the requested voltage as it allows. -/
def BestStep (active : Contract) (requestedMv : ℕ) (contract : Contract) : Prop :=
  ∃ apdo ∈ capabilities.pps, apdo.objectPosition = active.objectPosition ∧
    contract.kind = .pps ∧ contract.objectPosition = active.objectPosition ∧
    contract.currentMa = min apdo.maxMa active.currentMa / pdPpsCurrentStepMa * pdPpsCurrentStepMa ∧
    contract.voltageMv < active.voltageMv ∧ StepsTo apdo contract.voltageMv ∧
    ∀ voltageMv, StepsTo apdo voltageMv →
      Nat.dist contract.voltageMv requestedMv ≤ Nat.dist voltageMv requestedMv

namespace SourceCapabilities

/-- The PPS contract for the descent to standby: the standby budget in whole PPS steps. -/
def selectFusb302bStandbyPpsContract (capabilities : SourceCapabilities) (requestedMv : ℕ) :
    Option Contract :=
  let requestedMv := clamp requestedMv fusb302bPpsMinMv fusb302bFixedMaxMv
  let requestedMa :=
    standbyCurrentForVoltage requestedMv / pdPpsCurrentStepMa * pdPpsCurrentStepMa
  let currentMa := fun apdo : PpsApdo =>
    min apdo.maxMa requestedMa / pdPpsCurrentStepMa * pdPpsCurrentStepMa
  let best := selectBest
    (fun candidate current =>
      ppsCandidateIsBetter candidate.1 candidate.2.currentMa current.1 current.2.currentMa)
    ((capabilities.pps.filter fun apdo =>
        ¬ (requestedMv < apdo.minMv ∨ apdo.maxMv < requestedMv) ∧ currentMa apdo ≠ 0).map fun apdo =>
      (apdo, (⟨.pps, apdo.objectPosition, requestedMv, currentMa apdo⟩ : Contract)))
  best.map Prod.snd

/-- The contracts that the selectors produce, one after the other. -/
inductive Produced (capabilities : SourceCapabilities) : Contract → Prop
  | exact {contract : Contract} (request : PdContractRequest) :
      capabilities.selectExactContract request = some contract → Produced capabilities contract
  | operating {contract : Contract} (requestedMv preferredMa : ℕ) :
      capabilities.selectFusb302bContract requestedMv preferredMa = some contract →
        Produced capabilities contract
  | fixed {contract : Contract} (requestedMv preferredMa : ℕ) :
      capabilities.selectFusb302bFixedContract requestedMv preferredMa = some contract →
        Produced capabilities contract
  | standby {contract : Contract} (requestedMv : ℕ) :
      capabilities.selectFusb302bStandbyContract requestedMv = some contract →
        Produced capabilities contract
  | standbyPps {contract : Contract} (requestedMv : ℕ) :
      capabilities.selectFusb302bStandbyPpsContract requestedMv = some contract →
        Produced capabilities contract
  | standbyPpsStep {active contract : Contract} (requestedMv : ℕ) :
      Produced capabilities active →
        capabilities.selectFusb302bStandbyPpsStep active requestedMv = some contract →
          Produced capabilities contract

end SourceCapabilities

/-- What each selector returns for these arguments. -/
structure SelectorsSound (pdos : List UInt32) (request : PdContractRequest)
    (requestedMv preferredMa : ℕ) : Prop where
  exact : ∀ contract,
    (fromPdos pdos).selectExactContract request = some contract →
      Sound pdos contract ∧ BestExact (fromPdos pdos) request contract ∧
        ∃ rdo, requestDataObject contract = some rdo
  operating : ∀ contract,
    (fromPdos pdos).selectFusb302bContract requestedMv preferredMa =
        some contract →
      Sound pdos contract ∧ BestOperating (fromPdos pdos) requestedMv preferredMa contract
  fixed : ∀ contract,
    (fromPdos pdos).selectFusb302bFixedContract requestedMv preferredMa =
        some contract →
      Sound pdos contract ∧ BestFixed (fromPdos pdos) requestedMv preferredMa contract
  standby : ∀ contract,
    (fromPdos pdos).selectFusb302bStandbyContract requestedMv = some contract →
      Sound pdos contract ∧ BestStandby (fromPdos pdos) requestedMv contract
  standbyPps : ∀ contract,
    (fromPdos pdos).selectFusb302bStandbyPpsContract requestedMv =
        some contract →
      Sound pdos contract ∧ BestStandbyPps (fromPdos pdos) requestedMv contract
  standbyPpsStep : ∀ active contract, (fromPdos pdos).Produced active →
    (fromPdos pdos).selectFusb302bStandbyPpsStep active requestedMv =
        some contract →
      Sound pdos contract ∧ BestStep (fromPdos pdos) active requestedMv contract

/-- No APDO serves, and a fixed PDO lies above the requested voltage and not above the lowest
PPS voltage. -/
def OvershootsTarget (requestedMv : ℕ) : Prop :=
  (∀ apdo ∈ capabilities.pps, ¬ServesOperating requestedMv apdo) ∧
    ∃ pdo ∈ capabilities.fixed, operatingTargetMv requestedMv < pdo.voltageMv ∧
      pdo.voltageMv ≤ fusb302bPpsMinMv ∧ minHeaterContractMa ≤ pdo.maxMa

/-! ## Comparisons -/

theorem PrefersPps.trans {currentMa : PpsApdo → ℕ} (a b c : PpsApdo)
    (hab : PrefersPps currentMa a b) (hbc : PrefersPps currentMa b c) :
    PrefersPps currentMa a c := by
  unfold PrefersPps at *
  omega

theorem PrefersHigher.trans (a b c : FixedPdo)
    (hab : PrefersHigher currentMa a b) (hbc : PrefersHigher currentMa b c) :
    PrefersHigher currentMa a c := by
  unfold PrefersHigher at *
  omega

theorem PrefersStronger.trans (a b c : FixedPdo)
    (hab : PrefersStronger currentMa a b) (hbc : PrefersStronger currentMa b c) :
    PrefersStronger currentMa a c := by
  unfold PrefersStronger at *
  omega

theorem PrefersLower.trans (a b c : FixedPdo) (hab : PrefersLower a b) (hbc : PrefersLower b c) :
    PrefersLower a c := by
  unfold PrefersLower at *
  omega

theorem comparesAs_pps {currentMa : PpsApdo → ℕ} {contractOf : PpsApdo → Contract}
    (hcurrent : ∀ apdo, (contractOf apdo).currentMa = currentMa apdo) {a b : PpsApdo}
    (h : a.objectPosition < b.objectPosition) :
    ComparesAs (fun candidate current : PpsApdo × Contract =>
        ppsCandidateIsBetter candidate.1 candidate.2.currentMa current.1 current.2.currentMa)
      (fun apdo => (apdo, contractOf apdo)) (PrefersPps currentMa) a b := by
  unfold ComparesAs ppsCandidateIsBetter PrefersPps
  dsimp only
  rw [hcurrent, hcurrent]
  constructor
  · intro hbetter
    split_ifs at hbetter with hmore hhigher
    · exact .inl (of_decide_eq_true hbetter)
    · have := of_decide_eq_true hbetter
      omega
    · have := of_decide_eq_true hbetter
      omega
  · intro hnot
    split_ifs at hnot with hmore hhigher
    · have := of_decide_eq_false hnot
      omega
    · have := of_decide_eq_false hnot
      omega
    · have := of_decide_eq_false hnot
      omega

/-- A candidate of a fixed PDO. -/
def fixedCandidate (currentMa : FixedPdo → ℕ) (pdo : FixedPdo) : Contract :=
  ⟨.fixed, pdo.objectPosition, pdo.voltageMv, currentMa pdo⟩

variable {a b : FixedPdo}

theorem comparesAs_higher (h : a.objectPosition < b.objectPosition) :
    ComparesAs (fun candidate current : Contract =>
        decide (current.voltageMv < candidate.voltageMv) ||
          decide (candidate.voltageMv = current.voltageMv) &&
            decide (current.currentMa < candidate.currentMa))
      (fixedCandidate currentMa) (PrefersHigher currentMa) a b := by
  unfold ComparesAs PrefersHigher fixedCandidate
  dsimp only
  rw [Bool.or_eq_true, Bool.or_eq_false_iff, Bool.and_eq_true, Bool.and_eq_false_iff]
  simp only [decide_eq_true_eq, decide_eq_false_iff_not]
  omega

theorem comparesAs_stronger (h : a.objectPosition < b.objectPosition) :
    ComparesAs (fun candidate current : Contract =>
        decide (current.currentMa < candidate.currentMa) ||
          decide (current.currentMa = candidate.currentMa) &&
            decide (candidate.objectPosition ≤ current.objectPosition))
      (fixedCandidate currentMa) (PrefersStronger currentMa) a b := by
  unfold ComparesAs PrefersStronger fixedCandidate
  dsimp only
  rw [Bool.or_eq_true, Bool.or_eq_false_iff, Bool.and_eq_true, Bool.and_eq_false_iff]
  simp only [decide_eq_true_eq, decide_eq_false_iff_not]
  omega

theorem comparesAs_lower (h : a.objectPosition < b.objectPosition) :
    ComparesAs (fun candidate current : Contract =>
        decide (candidate.voltageMv < current.voltageMv) ||
          decide (candidate.voltageMv = current.voltageMv) &&
            decide (candidate.currentMa < current.currentMa))
      (fixedCandidate fun pdo => standbyCurrentForVoltage pdo.voltageMv) PrefersLower a b := by
  unfold ComparesAs PrefersLower fixedCandidate
  dsimp only
  rw [Bool.or_eq_true, Bool.or_eq_false_iff, Bool.and_eq_true, Bool.and_eq_false_iff]
  simp only [decide_eq_true_eq, decide_eq_false_iff_not]
  constructor
  · rintro (hlower | ⟨hsame, hless⟩)
    · exact .inl hlower
    · rw [hsame] at hless
      exact absurd hless (Nat.lt_irrefl _)
  · rintro ⟨hnot, -⟩
    omega

/-! ## Contracts of an object -/

variable {pdos : List UInt32}

theorem Sound.of_supported {contract : Contract}
    (hsupported : (fromPdos pdos).supportsContract contract = true)
    (hlimits : WithinLimits contract) : Sound pdos contract where
  supported := hsupported
  limits := hlimits
  exact := fun _ h => sourceContract_requestDataObject hsupported hlimits h

theorem Sound.of_fixed {pdo : FixedPdo} {currentMa : ℕ}
    (hmem : pdo ∈ (fromPdos pdos).fixed) (hdrawn : currentMa ≤ pdo.maxMa)
    (hlimits : WithinLimits ⟨.fixed, pdo.objectPosition, pdo.voltageMv, currentMa⟩) :
    Sound pdos ⟨.fixed, pdo.objectPosition, pdo.voltageMv, currentMa⟩ :=
  .of_supported (List.any_eq_true.mpr ⟨pdo, hmem, decide_eq_true ⟨rfl, rfl, hdrawn⟩⟩) hlimits

theorem Sound.of_pps {apdo : PpsApdo} {voltageMv currentMa : ℕ}
    (hmem : apdo ∈ (fromPdos pdos).pps) (hmin : apdo.minMv ≤ voltageMv)
    (hmax : voltageMv ≤ apdo.maxMv) (hdrawn : currentMa ≤ apdo.maxMa)
    (hlimits : WithinLimits ⟨.pps, apdo.objectPosition, voltageMv, currentMa⟩) :
    Sound pdos ⟨.pps, apdo.objectPosition, voltageMv, currentMa⟩ :=
  .of_supported (List.any_eq_true.mpr ⟨apdo, hmem, decide_eq_true ⟨rfl, hmin, hmax, hdrawn⟩⟩)
    hlimits

/-! ## The selectors -/

namespace SourceCapabilities

variable {pdos : List UInt32} {request : PdContractRequest} {requestedMv preferredMa : ℕ}
  {contract active : Contract}

theorem fixedSorted_fromPdos (pdos : List UInt32) :
    (fromPdos pdos).fixed.Pairwise fun a b => a.objectPosition < b.objectPosition :=
  (readFrom_fromPdos pdos).fixedSorted

theorem ppsSorted_fromPdos (pdos : List UInt32) :
    (fromPdos pdos).pps.Pairwise fun a b => a.objectPosition < b.objectPosition :=
  (readFrom_fromPdos pdos).ppsSorted

theorem exact_spec (h : (fromPdos pdos).selectExactContract request = some contract) :
    Sound pdos contract ∧ BestExact (fromPdos pdos) request contract ∧
      ∃ rdo, requestDataObject contract = some rdo := by
  have hposition := (selected_of_selectExactContract (wellFormed_fromPdos pdos) h).position
  unfold selectExactContract at h
  split_ifs at h with hformed
  cases hmode : request.mode with
  | fixed =>
    rw [hmode] at h
    obtain ⟨pdo, hfind, rfl⟩ := Option.map_eq_some_iff.mp h
    have hbest : IsBest _ _ PrefersFirstFixed pdo :=
      isBest_of_find? (fixedSorted_fromPdos pdos) hfind
    have hserves := of_decide_eq_true hbest.isEligible
    obtain ⟨hmin, hmax, hcurrent, haligned⟩ :=
      bounds_of_fixed (fixed_of_isWellFormed hformed hmode)
    refine ⟨.of_fixed hbest.mem hserves.2 ⟨hcurrent, ?_, ?_⟩, ?_, ?_⟩
    · exact hserves.1 ▸ hmin
    · exact (hserves.1 ▸ hmax).trans (by decide)
    · unfold BestExact
      rw [hmode]
      exact ⟨pdo, hbest.congr fun other _ => decide_eq_true_iff, by rw [hserves.1]⟩
    · rw [requestDataObject, if_neg hposition]
      exact ⟨_, if_neg (not_not.mpr haligned)⟩
  | pps =>
    rw [hmode] at h
    obtain ⟨apdo, hfind, rfl⟩ := Option.map_eq_some_iff.mp h
    have hbest : IsBest _ _ PrefersFirstPps apdo :=
      isBest_of_find? (ppsSorted_fromPdos pdos) hfind
    have hserves := of_decide_eq_true hbest.isEligible
    obtain ⟨_, hok⟩ := ppsWithMinimum_of_isWellFormed hformed hmode
    obtain ⟨hmin, hmax, hcurrent, hvolts, hamps⟩ := bounds_of_ppsWithMinimum hok
    refine ⟨.of_pps hbest.mem hserves.2.1 hserves.2.2.1 hserves.2.2.2
      ⟨hcurrent, le_trans (by decide) hmin, hmax⟩, ?_, ?_⟩
    · unfold BestExact
      rw [hmode]
      refine ⟨apdo, hbest.congr fun other _ => ?_, rfl⟩
      simp only [decide_eq_true_eq, Option.all_eq_true]
    · have hunits : ¬(request.voltageMv % ppsRdoVoltageStepMv ≠ 0 ∨
          request.operatingCurrentMa % ppsRdoCurrentStepMa ≠ 0) := by
        have hvolts : request.voltageMv % 100 = 0 := hvolts
        have hamps : request.operatingCurrentMa % 50 = 0 := hamps
        unfold ppsRdoVoltageStepMv ppsRdoCurrentStepMa
        omega
      rw [requestDataObject, if_neg hposition]
      exact ⟨_, if_neg hunits⟩

theorem operatingMa_le (preferredMa : ℕ) : operatingMa preferredMa ≤ maxHeaterContractMa :=
  min_le_right _ _

theorem operatingTargetMv_le (requestedMv : ℕ) :
    operatingTargetMv requestedMv ≤ fusb302bPdAbsoluteMaxMv := min_le_right _ _

/-- The current that is drawn is within the limit of the heater already. -/
theorem min_operatingMa (maxMa preferredMa : ℕ) :
    min (min maxMa (operatingMa preferredMa)) maxHeaterContractMa =
      min maxMa (operatingMa preferredMa) :=
  min_eq_left ((min_le_right _ _).trans (operatingMa_le preferredMa))

theorem comparesAs_min {a b : PpsApdo} (preferredMa voltageMv : ℕ)
    (h : a.objectPosition < b.objectPosition) :
    ComparesAs (fun candidate current : PpsApdo × Contract =>
        ppsCandidateIsBetter candidate.1 candidate.2.currentMa current.1 current.2.currentMa)
      (fun apdo => (apdo, ⟨.pps, apdo.objectPosition, voltageMv,
        min (min apdo.maxMa (operatingMa preferredMa)) maxHeaterContractMa⟩))
      (PrefersPps fun apdo => min apdo.maxMa (operatingMa preferredMa)) a b :=
  comparesAs_pps (fun apdo => min_operatingMa apdo.maxMa preferredMa) h

/-- The best APDO at the requested voltage. -/
def operatingPps (capabilities : SourceCapabilities) (requestedMv preferredMa : ℕ) :
    Option (PpsApdo × Contract) :=
  selectBest
    (fun candidate current =>
      ppsCandidateIsBetter candidate.1 candidate.2.currentMa current.1 current.2.currentMa)
    ((capabilities.pps.filter fun apdo =>
        ¬ (apdo.maxMa < minHeaterContractMa ∨ operatingPpsMv requestedMv < apdo.minMv ∨
          apdo.maxMv < operatingPpsMv requestedMv)).map fun apdo =>
      (apdo, (⟨.pps, apdo.objectPosition, operatingPpsMv requestedMv,
        min (min apdo.maxMa (operatingMa preferredMa)) maxHeaterContractMa⟩ : Contract)))

theorem selectFusb302bContract_eq (capabilities : SourceCapabilities)
    (requestedMv preferredMa : ℕ) :
    capabilities.selectFusb302bContract requestedMv preferredMa =
      ((capabilities.operatingPps requestedMv preferredMa).map Prod.snd).or
        (capabilities.selectFixedFallback (operatingPpsMv requestedMv) (operatingMa preferredMa)) :=
  rfl

theorem servesOperating_iff (requestedMv : ℕ) (apdo : PpsApdo) :
    decide (¬ (apdo.maxMa < minHeaterContractMa ∨ operatingPpsMv requestedMv < apdo.minMv ∨
      apdo.maxMv < operatingPpsMv requestedMv)) = true ↔ ServesOperating requestedMv apdo := by
  unfold ServesOperating
  rw [decide_eq_true_iff]
  omega

theorem not_servesOperating_of_none
    (h : (fromPdos pdos).operatingPps requestedMv preferredMa = none) :
    ∀ apdo ∈ (fromPdos pdos).pps, ¬ServesOperating requestedMv apdo := by
  intro apdo hmem hapdo
  have hempty := List.map_eq_nil_iff.mp (selectBest_eq_none_iff.mp h)
  exact List.filter_eq_nil_iff.mp hempty apdo hmem ((servesOperating_iff requestedMv apdo).mpr hapdo)

theorem operatingPps_spec {best : PpsApdo × Contract}
    (h : (fromPdos pdos).operatingPps requestedMv preferredMa = some best) :
    ∃ apdo, IsBest (fromPdos pdos).pps (ServesOperating requestedMv)
        (PrefersPps fun apdo => min apdo.maxMa (operatingMa preferredMa)) apdo ∧
      best.2 = ⟨.pps, apdo.objectPosition, operatingPpsMv requestedMv,
        min apdo.maxMa (operatingMa preferredMa)⟩ := by
  obtain ⟨apdo, hapdo, rfl⟩ := isBest_of_selectBest PrefersPps.trans
    ((ppsSorted_fromPdos pdos).imp fun hlt => comparesAs_min preferredMa _ hlt) h
  exact ⟨apdo, hapdo.congr fun other _ => servesOperating_iff requestedMv other, by
    rw [min_operatingMa]⟩

variable {targetMv : ℕ}

theorem fixedFallback_spec
    (h : (fromPdos pdos).selectFixedFallback targetMv (operatingMa preferredMa) = some contract) :
    ∃ pdo, IsBest (fromPdos pdos).fixed (FallsBackTo targetMv)
        (PrefersHigher fun pdo => min pdo.maxMa (operatingMa preferredMa)) pdo ∧
      contract = ⟨.fixed, pdo.objectPosition, pdo.voltageMv,
        min pdo.maxMa (operatingMa preferredMa)⟩ := by
  unfold selectFixedFallback at h
  simp only [min_operatingMa] at h
  obtain ⟨pdo, hpdo, rfl⟩ := isBest_of_selectBest PrefersHigher.trans
    ((fixedSorted_fromPdos pdos).imp fun hlt => comparesAs_higher hlt) h
  refine ⟨pdo, hpdo.congr fun other _ => ?_, rfl⟩
  unfold FallsBackTo
  rw [decide_eq_true_iff]
  omega

theorem sound_of_servesOperating {apdo : PpsApdo} (hmem : apdo ∈ (fromPdos pdos).pps)
    (h : ServesOperating requestedMv apdo) :
    Sound pdos ⟨.pps, apdo.objectPosition, operatingPpsMv requestedMv,
      min apdo.maxMa (operatingMa preferredMa)⟩ := by
  refine .of_pps hmem h.2.1 h.2.2 (min_le_left _ _)
    ⟨(min_le_right _ _).trans (operatingMa_le _), ?_, ?_⟩
  · exact le_trans (by decide) (le_max_right _ _)
  · exact max_le (operatingTargetMv_le requestedMv) (by decide)

theorem sound_of_fallsBackTo {pdo : FixedPdo} (hmem : pdo ∈ (fromPdos pdos).fixed)
    (h : FallsBackTo targetMv pdo) :
    Sound pdos ⟨.fixed, pdo.objectPosition, pdo.voltageMv,
      min pdo.maxMa (operatingMa preferredMa)⟩ :=
  .of_fixed hmem (min_le_left _ _)
    ⟨(min_le_right _ _).trans (operatingMa_le _), h.1, h.2.1.trans (by decide)⟩

theorem sound_of_operating
    (h : (fromPdos pdos).selectFusb302bContract requestedMv preferredMa = some contract) :
    Sound pdos contract := by
  rw [selectFusb302bContract_eq] at h
  rcases Option.or_eq_some_iff.mp h with hpps | ⟨-, hfixed⟩
  · obtain ⟨best, hbest, rfl⟩ := Option.map_eq_some_iff.mp hpps
    obtain ⟨apdo, hapdo, hcontract⟩ := operatingPps_spec hbest
    rw [hcontract]
    exact sound_of_servesOperating hapdo.mem hapdo.isEligible
  · obtain ⟨pdo, hpdo, rfl⟩ := fixedFallback_spec hfixed
    exact sound_of_fallsBackTo hpdo.mem hpdo.isEligible

/-- Unless the target is overshot, the raised voltage lets no further PDO in. -/
theorem best_of_operating (hnot : ¬OvershootsTarget (fromPdos pdos) requestedMv)
    (h : (fromPdos pdos).selectFusb302bContract requestedMv preferredMa = some contract) :
    BestOperating (fromPdos pdos) requestedMv preferredMa contract := by
  rw [selectFusb302bContract_eq] at h
  rcases Option.or_eq_some_iff.mp h with hpps | ⟨hnone, hfixed⟩
  · obtain ⟨best, hbest, rfl⟩ := Option.map_eq_some_iff.mp hpps
    obtain ⟨apdo, hapdo, hcontract⟩ := operatingPps_spec hbest
    exact .inl ⟨apdo, hapdo, hcontract⟩
  · have hunserved := not_servesOperating_of_none (Option.map_eq_none_iff.mp hnone)
    obtain ⟨pdo, hpdo, rfl⟩ := fixedFallback_spec hfixed
    refine .inr ⟨hunserved, pdo, ?_, rfl⟩
    apply hpdo.congr
    intro other hmem
    have hlow : ¬(operatingTargetMv requestedMv < other.voltageMv ∧
        other.voltageMv ≤ fusb302bPpsMinMv ∧ minHeaterContractMa ≤ other.maxMa) :=
      fun hover => hnot ⟨hunserved, other, hmem, hover⟩
    unfold FallsBackTo operatingPpsMv
    omega

theorem exists_of_fixedFallback {pdo : FixedPdo}
    (hmem : pdo ∈ (fromPdos pdos).fixed) (h : FallsBackTo targetMv pdo) :
    ∃ contract, (fromPdos pdos).selectFixedFallback targetMv (operatingMa preferredMa) =
      some contract := by
  apply Option.ne_none_iff_exists'.mp
  intro hnone
  have hempty := List.map_eq_nil_iff.mp (selectBest_eq_none_iff.mp hnone)
  apply List.filter_eq_nil_iff.mp hempty pdo hmem
  unfold FallsBackTo at h
  rw [decide_eq_true_iff]
  omega

theorem exists_of_overshootsTarget (h : OvershootsTarget (fromPdos pdos) requestedMv)
    (preferredMa : ℕ) :
    ∃ contract, (fromPdos pdos).selectFusb302bContract requestedMv preferredMa = some contract ∧
      contract.kind = .fixed ∧ operatingTargetMv requestedMv < contract.voltageMv := by
  obtain ⟨hunserved, pdo, hmem, hover, hlow, hcurrent⟩ := h
  have hnone : (fromPdos pdos).operatingPps requestedMv preferredMa = none := by
    cases hbest : (fromPdos pdos).operatingPps requestedMv preferredMa with
    | none => rfl
    | some best =>
      obtain ⟨apdo, hapdo, -⟩ := operatingPps_spec hbest
      exact absurd hapdo.isEligible (hunserved apdo hapdo.mem)
  have hfalls : FallsBackTo (operatingPpsMv requestedMv) pdo := by
    have hguard : fusb302bPdAbsoluteMinMv ≤ operatingTargetMv requestedMv :=
      le_min (le_max_right _ _) (by decide)
    exact ⟨hguard.trans hover.le, hlow.trans (by decide), hlow.trans (le_max_right _ _), hcurrent⟩
  obtain ⟨contract, hcontract⟩ : ∃ contract, (fromPdos pdos).selectFixedFallback
      (operatingPpsMv requestedMv) (operatingMa preferredMa) = some contract :=
    exists_of_fixedFallback hmem hfalls
  obtain ⟨best, hbest, hsame⟩ := fixedFallback_spec hcontract
  refine ⟨contract, ?_, by rw [hsame], ?_⟩
  · rw [selectFusb302bContract_eq, hnone]
    exact hcontract
  · rw [hsame]
    show operatingTargetMv requestedMv < best.voltageMv
    rcases hbest.preferred pdo hmem hfalls with rfl | hprefers
    · exact hover
    · unfold PrefersHigher at hprefers
      omega

theorem not_bestOperating {contract : Contract} (hkind : contract.kind = .fixed)
    (hover : operatingTargetMv requestedMv < contract.voltageMv)
    (capabilities : SourceCapabilities) :
    ¬BestOperating capabilities requestedMv preferredMa contract := by
  rintro (⟨apdo, -, rfl⟩ | ⟨-, pdo, hpdo, rfl⟩)
  · cases hkind
  · exact absurd hpdo.isEligible.2.2.1 (Nat.not_le_of_lt hover)

theorem fixed_spec
    (h : (fromPdos pdos).selectFusb302bFixedContract requestedMv preferredMa = some contract) :
    Sound pdos contract ∧ BestFixed (fromPdos pdos) requestedMv preferredMa contract := by
  unfold selectFusb302bFixedContract at h
  split_ifs at h with hrange
  have h : selectBest
      (fun candidate current : Contract =>
        decide (current.currentMa < candidate.currentMa) ||
          decide (current.currentMa = candidate.currentMa) &&
            decide (candidate.objectPosition ≤ current.objectPosition))
      (((fromPdos pdos).fixed.filter fun pdo =>
          pdo.voltageMv = requestedMv ∧ minHeaterContractMa ≤ pdo.maxMa).map fun pdo =>
        ⟨.fixed, pdo.objectPosition, pdo.voltageMv,
          min (min pdo.maxMa (operatingMa preferredMa)) maxHeaterContractMa⟩) = some contract := h
  simp only [min_operatingMa] at h
  obtain ⟨pdo, hpdo, rfl⟩ := isBest_of_selectBest PrefersStronger.trans
    ((fixedSorted_fromPdos pdos).imp fun hlt => comparesAs_stronger hlt) h
  have hserves := of_decide_eq_true hpdo.isEligible
  refine ⟨.of_fixed hpdo.mem (min_le_left _ _)
    ⟨(min_le_right _ _).trans (operatingMa_le _), ?_, ?_⟩, pdo, ?_, ?_⟩
  · exact hserves.1 ▸ hrange.1
  · exact (hserves.1 ▸ hrange.2).trans (by decide)
  · exact hpdo.congr fun other _ => decide_eq_true_iff
  · rw [fixedCandidate, hserves.1]

theorem standbyCurrentForVoltage_le (voltageMv : ℕ) :
    standbyCurrentForVoltage voltageMv ≤ maxHeaterContractMa := by
  unfold standbyCurrentForVoltage
  dsimp only
  split_ifs
  · exact le_rfl
  · exact le_rfl
  · omega

theorem standby_spec
    (h : (fromPdos pdos).selectFusb302bStandbyContract requestedMv = some contract) :
    Sound pdos contract ∧ BestStandby (fromPdos pdos) requestedMv contract := by
  obtain ⟨pdo, hpdo, rfl⟩ := isBest_of_selectBest PrefersLower.trans
    ((fixedSorted_fromPdos pdos).imp fun hlt => comparesAs_lower hlt) h
  obtain ⟨hlow, hhigh, hdrawn⟩ := of_decide_eq_true hpdo.isEligible
  refine ⟨.of_fixed hpdo.mem hdrawn ⟨standbyCurrentForVoltage_le _, ?_, ?_⟩, pdo, ?_, rfl⟩
  · have hguard : fusb302bPdAbsoluteMinMv ≤
        clamp requestedMv fusb302bPdAbsoluteMinMv fusb302bFixedMaxMv :=
      le_min (le_max_right _ _) (by decide)
    exact hguard.trans hlow
  · exact hhigh.trans (by decide)
  · exact hpdo.congr fun other _ => decide_eq_true_iff

theorem drawnStandbyMa_le (requestedMv : ℕ) (apdo : PpsApdo) :
    drawnStandbyMa requestedMv apdo ≤ min apdo.maxMa maxHeaterContractMa := by
  have hbudget : standbyPpsMa requestedMv ≤ maxHeaterContractMa :=
    (Nat.div_mul_le_self _ _).trans (standbyCurrentForVoltage_le _)
  exact (Nat.div_mul_le_self _ _).trans (min_le_min_left _ hbudget)

theorem standbyPps_spec
    (h : (fromPdos pdos).selectFusb302bStandbyPpsContract requestedMv = some contract) :
    Sound pdos contract ∧ BestStandbyPps (fromPdos pdos) requestedMv contract := by
  obtain ⟨best, hbest, rfl⟩ := Option.map_eq_some_iff.mp h
  obtain ⟨apdo, hapdo, rfl⟩ := isBest_of_selectBest PrefersPps.trans
    ((ppsSorted_fromPdos pdos).imp fun hlt =>
      @comparesAs_pps (drawnStandbyMa requestedMv) _ (fun _ => rfl) _ _ hlt) hbest
  have hserves := of_decide_eq_true hapdo.isEligible
  have hdrawn := drawnStandbyMa_le requestedMv apdo
  have hguard : fusb302bPpsMinMv ≤ standbyPpsMv requestedMv := le_min (le_max_right _ _) (by decide)
  have hmax : standbyPpsMv requestedMv ≤ fusb302bFixedMaxMv := min_le_right _ _
  have heligible : ∀ other : PpsApdo, decide (¬ (standbyPpsMv requestedMv < other.minMv ∨
      other.maxMv < standbyPpsMv requestedMv) ∧ drawnStandbyMa requestedMv other ≠ 0) = true ↔
      other.minMv ≤ standbyPpsMv requestedMv ∧ standbyPpsMv requestedMv ≤ other.maxMv ∧
        drawnStandbyMa requestedMv other ≠ 0 := by
    intro other
    rw [decide_eq_true_iff]
    omega
  have hapdo := hapdo.congr fun other _ => heligible other
  obtain ⟨hmin, hhigh, -⟩ := hapdo.isEligible
  exact ⟨.of_pps hapdo.mem hmin hhigh (hdrawn.trans (min_le_left _ _))
    ⟨hdrawn.trans (min_le_right _ _), le_trans (by decide) hguard, hmax.trans (by decide)⟩,
    apdo, hapdo, rfl⟩

/-! ## The standby step -/

theorem standbyPpsStep_eq_some
    (h : (fromPdos pdos).selectFusb302bStandbyPpsStep active requestedMv = some contract) :
    active.kind = .pps ∧ ∃ apdo, (fromPdos pdos).activeApdo active = some apdo ∧
      clamp requestedMv (standbyStepMinMv apdo) (standbyStepMaxMv apdo) < active.voltageMv ∧
        contract = ⟨.pps, apdo.objectPosition,
          clamp requestedMv (standbyStepMinMv apdo) (standbyStepMaxMv apdo),
          min apdo.maxMa active.currentMa / pdPpsCurrentStepMa * pdPpsCurrentStepMa⟩ := by
  unfold selectFusb302bStandbyPpsStep at h
  split_ifs at h with hkind
  obtain ⟨apdo, hapdo, hstep⟩ := Option.bind_eq_some_iff.mp h
  dsimp only at hstep
  split_ifs at hstep with hlower hcurrent
  exact ⟨not_not.mp hkind, apdo, hapdo, not_le.mp hlower, (Option.some.inj hstep).symm⟩

theorem currentMa_standbyPpsStep_le
    (h : (fromPdos pdos).selectFusb302bStandbyPpsStep active requestedMv = some contract) :
    contract.currentMa ≤ active.currentMa := by
  obtain ⟨-, apdo, -, -, rfl⟩ := standbyPpsStep_eq_some h
  exact (Nat.div_mul_le_self _ _).trans (min_le_right _ _)

/-- Every produced contract is above the PPS minimum, if it is one of PPS. -/
theorem Produced.selected (h : (fromPdos pdos).Produced contract) : Selected contract := by
  have hwellFormed := wellFormed_fromPdos pdos
  induction h with
  | exact request h => exact selected_of_selectExactContract hwellFormed h
  | operating requestedMv preferredMa h =>
    exact selected_of_selectFusb302bContract hwellFormed h
  | fixed requestedMv preferredMa h =>
    exact selected_of_selectFusb302bFixedContract hwellFormed h
  | standby requestedMv h => exact selected_of_selectFusb302bStandbyContract hwellFormed h
  | standbyPps requestedMv h =>
    obtain ⟨-, apdo, hapdo, rfl⟩ := standbyPps_spec h
    exact selected_pps hwellFormed hapdo.mem (le_min (le_max_right _ _) (by decide)) _
  | standbyPpsStep requestedMv _ h ih =>
    exact selected_of_standbyPpsStep hwellFormed ih.floor h

theorem Produced.currentMa_le (h : (fromPdos pdos).Produced contract) :
    contract.currentMa ≤ maxHeaterContractMa := by
  induction h with
  | exact request h => exact (exact_spec h).1.limits.currentMa
  | operating requestedMv preferredMa h => exact (sound_of_operating h).limits.currentMa
  | fixed requestedMv preferredMa h => exact (fixed_spec h).1.limits.currentMa
  | standby requestedMv h => exact (standby_spec h).1.limits.currentMa
  | standbyPps requestedMv h => exact (standbyPps_spec h).1.limits.currentMa
  | standbyPpsStep requestedMv _ h ih =>
    exact (currentMa_standbyPpsStep_le h).trans ih

theorem dist_clamp_le {value low high other : ℕ} (hlow : low ≤ other) (hhigh : other ≤ high) :
    Nat.dist (clamp value low high) value ≤ Nat.dist other value := by
  unfold Nat.dist clamp
  omega

theorem standbyPpsStep_spec (hactive : (fromPdos pdos).Produced active)
    (h : (fromPdos pdos).selectFusb302bStandbyPpsStep active requestedMv = some contract) :
    Sound pdos contract ∧ BestStep (fromPdos pdos) active requestedMv contract := by
  obtain ⟨hkind, apdo, hapdo, hlower, rfl⟩ := standbyPpsStep_eq_some h
  have hbounds := standbyStepMinMv_le (wellFormed_fromPdos pdos) (hactive.selected.floor hkind) hapdo
  have hmem := List.mem_of_find?_eq_some hapdo
  have hcovers := List.find?_some hapdo
  rw [decide_eq_true_iff] at hcovers
  have hsteps : StepsTo apdo
      (clamp requestedMv (standbyStepMinMv apdo) (standbyStepMaxMv apdo)) :=
    ⟨le_min (le_max_right _ _) hbounds, min_le_right _ _⟩
  have hdrawn : min apdo.maxMa active.currentMa / pdPpsCurrentStepMa * pdPpsCurrentStepMa ≤
      min apdo.maxMa active.currentMa := Nat.div_mul_le_self _ _
  have hfloor : fusb302bPpsMinMv ≤ standbyStepMinMv apdo := le_max_right _ _
  have hceiling : standbyStepMaxMv apdo ≤ fusb302bPpsMaxMv := min_le_right _ _
  constructor
  · refine .of_pps hmem ((le_max_left _ _).trans hsteps.1) (hsteps.2.trans (min_le_left _ _))
      (hdrawn.trans (min_le_left _ _)) ⟨?_, ?_, ?_⟩
    · exact hdrawn.trans ((min_le_right _ _).trans hactive.currentMa_le)
    · exact le_trans (by decide) (hfloor.trans hsteps.1)
    · exact hsteps.2.trans (hceiling.trans (by decide))
  · exact ⟨apdo, hmem, hcovers.1, rfl, hcovers.1, rfl, hlower, hsteps, fun voltageMv hother =>
      dist_clamp_le hother.1 hother.2⟩

end SourceCapabilities

/-! ## The guarantee -/

open SourceCapabilities

/-- The selectors are sound unless the operating selector overshoots its target. -/
theorem selectorsSound_iff (pdos : List UInt32) (request : PdContractRequest)
    (requestedMv preferredMa : ℕ) :
    SelectorsSound pdos request requestedMv preferredMa ↔
      ¬OvershootsTarget (fromPdos pdos) requestedMv := by
  constructor
  · intro hsound hover
    obtain ⟨contract, hcontract, hkind, habove⟩ := exists_of_overshootsTarget hover preferredMa
    exact not_bestOperating hkind habove _ (hsound.operating contract hcontract).2
  · intro hnot
    exact
      { exact := fun _ h => exact_spec h
        operating := fun _ h => ⟨sound_of_operating h, best_of_operating hnot h⟩
        fixed := fun _ h => fixed_spec h
        standby := fun _ h => standby_spec h
        standbyPps := fun _ h => standbyPps_spec h
        standbyPpsStep := fun _ _ hactive h => standbyPpsStep_spec hactive h }

/-- A source of 5 V and 5.5 V is asked for 5 V. -/
def lowVoltagePdos : List UInt32 := [100 * 1024 + 300, 110 * 1024 + 300]

theorem not_selectorsSound_lowVoltage : ¬∀ pdos request requestedMv preferredMa,
      SelectorsSound pdos request requestedMv preferredMa := by
  intro hsound
  have hselected : (fromPdos lowVoltagePdos).selectFusb302bContract 5000 3000 =
      some ⟨.fixed, 2, 5500, 3000⟩ := by decide +kernel
  have htarget : operatingTargetMv 5000 < 5500 := by decide
  exact not_bestOperating rfl htarget _
    ((hsound lowVoltagePdos ⟨.fixed, 5000, 3000, false, none⟩ 5000 3000).operating _ hselected).2

end FluxPurr.Pd
