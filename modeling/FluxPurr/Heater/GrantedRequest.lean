import FluxPurr.Heater.BoundaryCandidate
import FluxPurr.Pd.Selection

/-!
# A granted request and its confirmation

Automatic heating asks for a voltage that the best candidate allows, and draws from the
contract when the snapshot shows it and the candidate of that contract allows its voltage.
The request looks the boundary up at the voltage requested before, the confirmation at the
voltage of the contract, and the points that are eligible need not be the same.

A granted request is accepted exactly when the limit at the contract reaches its voltage, or
when it is the terminal pair and that limit gives no candidate (`accepted_iff_sustained`).
-/

namespace FluxPurr.Heater

open FluxPurr.Pd (PdContractRequest PdServiceSnapshot PpsAdjustmentRange)
open FluxPurr.Calibration (ManualPpsState PpsApdo)
open FluxPurr.Supply (SupplyBoundary BoundaryQuery BoundaryPoint)
open AutomaticHeaterModel AutomaticHeaterReading

/-- The model with what the boundary and the resistance allow. -/
def AutomaticHeaterModel.withReading (model : AutomaticHeaterModel)
    (reading : AutomaticHeaterReading) : AutomaticHeaterModel :=
  { model with ppsForApdo := reading.automaticHeaterPpsForApdo }

def rangeOf (apdo : PpsApdo) : PpsAdjustmentRange :=
  ⟨apdo.minMv.toNat, apdo.maxMv.toNat, apdo.maxMa.toNat⟩

/-! ## The statement -/

/-- The snapshot shows the contract that was requested, as observed and as active. -/
structure Reports (snapshot : PdServiceSnapshot) (request : PdContractRequest) : Prop where
  observed : ∃ observation, snapshot.observation = some observation ∧
    observation.status.pdActive = true ∧ observation.contract.kind = .pps ∧
    observation.contract.voltageMv = request.voltageMv ∧
    observation.contract.currentMa = request.operatingCurrentMa
  active : ∃ contract, snapshot.active = some contract ∧ contract.mode = .pps ∧
    contract.voltageMv = request.voltageMv ∧
    contract.operatingCurrentMa = request.operatingCurrentMa ∧
    contract.ppsRange = request.ppsRange

/-- The end of the envelope of a 60 W source. -/
structure IsTerminalPair (manualPps : ManualPpsState) (voltageMv currentMa : ℕ) : Prop where
  voltage : voltageMv = automaticTerminalVoltageMv
  current : currentMa = automaticTerminalCurrentMa
  power : ∃ limit, manualPps.sourcePowerLimitMw = some limit ∧
    voltageMv * currentMa / 1000 ≤ limit.toNat
  envelope : ∃ limit, manualPps.sourcePowerLimitMa = some limit ∧
    maxAutomaticHeaterContractMa ≤ limit.toNat

/-- At the contract itself, the limit reaches the voltage. -/
def ReachesLimit (reading : AutomaticHeaterReading) (query : BoundaryQuery)
    (voltageMv : ℕ) : Prop :=
  ∃ limitMv, reading.UsableLimit query limitMv ∧ voltageMv ≤ floorMvTo100mv limitMv

/-- At the contract itself, there is no limit or it is below the range of the APDO. -/
def HasNoCandidate (reading : AutomaticHeaterReading) (query : BoundaryQuery) (minMv : ℕ) : Prop :=
  ∀ limitMv, reading.UsableLimit query limitMv → floorMvTo100mv limitMv < minMv

/-- The contract that the request asks for is within what the boundary allows once it is the
one in force. -/
def Sustained (reading : AutomaticHeaterReading) (manualPps : ManualPpsState)
    (request : PdContractRequest) : Prop :=
  ∃ apdo wifiStarted, request.ppsRange = some (rangeOf apdo) ∧
    reading.wifiStarted = some wifiStarted ∧
    (ReachesLimit reading
        (reading.lookup manualPps apdo request.operatingCurrentMa (some request.voltageMv)
          wifiStarted)
        request.voltageMv ∨
      IsTerminalPair manualPps request.voltageMv request.operatingCurrentMa ∧
        HasNoCandidate reading
          (reading.lookup manualPps apdo request.operatingCurrentMa (some request.voltageMv)
            wifiStarted)
          (candidateMinMv manualPps apdo))

/-! ## What was granted -/

theorem rangeOf_injective {apdo other : PpsApdo} (h : rangeOf apdo = rangeOf other) :
    apdo = other := by
  obtain ⟨hmin, hmax, hcurrent⟩ := PpsAdjustmentRange.mk.inj h
  cases apdo
  cases other
  obtain rfl := UInt16.toNat_inj.mp hmin
  obtain rfl := UInt16.toNat_inj.mp hmax
  obtain rfl := UInt16.toNat_inj.mp hcurrent
  rfl

variable {range : PpsAdjustmentRange}

theorem isRangeOf_iff {apdo : PpsApdo} :
    isRangeOf range apdo = true ↔ range = rangeOf apdo := by
  unfold isRangeOf rangeOf
  rw [decide_eq_true_iff]
  constructor
  · rintro ⟨hmin, hmax, hcurrent⟩
    cases range
    cases hmin
    cases hmax
    cases hcurrent
    rfl
  · rintro rfl
    exact ⟨rfl, rfl, rfl⟩

variable {manualPps : ManualPpsState}

theorem mem_indexedApdos {apdo : PpsApdo} {index : ℕ} :
    (apdo, index) ∈ indexedApdos manualPps ↔
      manualPps.capabilityApdos[index]? = some (some apdo) := by
  unfold indexedApdos
  rw [List.mem_filterMap]
  constructor
  · rintro ⟨⟨advertised, place⟩, hmem, hfound⟩
    obtain ⟨found, hsome, hpair⟩ := Option.map_eq_some_iff.mp hfound
    obtain ⟨rfl, rfl⟩ := Prod.mk.inj hpair
    rw [List.mem_zipIdx_iff_getElem?, Vector.getElem?_toList] at hmem
    rw [hmem]
    exact congrArg some hsome
  · intro h
    refine ⟨(some apdo, index), ?_, rfl⟩
    rw [List.mem_zipIdx_iff_getElem?, Vector.getElem?_toList]
    exact h

/-- A voltage within the range is within a limit cut to the range if it is within the limit. -/
theorem le_floorMvTo100mv_min {voltageMv maxMv limitMv : ℕ} (h : voltageMv ≤ floorMvTo100mv maxMv) :
    voltageMv ≤ floorMvTo100mv (min maxMv limitMv) ↔ voltageMv ≤ floorMvTo100mv limitMv := by
  unfold floorMvTo100mv at h ⊢
  omega

theorem encodeAutomaticPpsCurrentMa_le (maxMa : ℕ) :
    encodeAutomaticPpsCurrentMa maxMa ≤ maxAutomaticHeaterContractMa := by
  unfold encodeAutomaticPpsCurrentMa
  omega

theorem eq_of_currentSuits {observed : Bool} {maxMa : ℕ}
    (h : currentSuits observed (encodeAutomaticPpsCurrentMa maxMa) = true) :
    encodeAutomaticPpsCurrentMa maxMa = maxAutomaticHeaterContractMa ∨
      encodeAutomaticPpsCurrentMa maxMa = automaticTerminalCurrentMa := by
  have hle := encodeAutomaticPpsCurrentMa_le maxMa
  unfold currentSuits at h
  rcases of_decide_eq_true h with hge | ⟨_, heq⟩
  · exact .inl (Nat.le_antisymm hle hge)
  · exact .inr heq

theorem encode_of_granted {currentMa sourceMa : ℕ}
    (h : currentMa = maxAutomaticHeaterContractMa ∨ currentMa = automaticTerminalCurrentMa)
    (hle : currentMa ≤ sourceMa) :
    encodeAutomaticPpsCurrentMa (min currentMa sourceMa) = currentMa := by
  unfold encodeAutomaticPpsCurrentMa
  rw [Nat.min_eq_left hle]
  rcases h with rfl | rfl
  · rfl
  · rfl

/-- What a request of automatic heating is known to be. -/
structure GrantedOn (reading : AutomaticHeaterReading) (manualPps : ManualPpsState)
    (request : PdContractRequest) (apdo : PpsApdo) (index : ℕ) (wifiStarted : Bool) :
    Prop where
  advertised : (apdo, index) ∈ indexedApdos manualPps
  wifi : reading.wifiStarted = some wifiStarted
  isUsable : reading.resistance.isUsable = true
  range : request.ppsRange = some (rangeOf apdo)
  current : request.operatingCurrentMa = maxAutomaticHeaterContractMa ∨
    request.operatingCurrentMa = automaticTerminalCurrentMa
  current_le : request.operatingCurrentMa ≤ apdo.maxMa.toNat
  minMv_le : candidateMinMv manualPps apdo ≤ request.voltageMv
  le_maxMv : request.voltageMv ≤ floorMvTo100mv (candidateMaxMv manualPps apdo)

variable {voltageMv currentMa : ℕ}

variable {request : PdContractRequest}

theorem eq_of_automaticPps (h : PdContractRequest.automaticPps voltageMv currentMa = .ok request) :
    request.voltageMv = voltageMv ∧ request.operatingCurrentMa = currentMa := by
  unfold PdContractRequest.automaticPps PdContractRequest.ppsWithMinimum at h
  split_ifs at h
  all_goals cases h
  exact ⟨rfl, rfl⟩

variable {model : AutomaticHeaterModel} {previousMv : Option ℕ}

theorem request_cases
    (h : model.automaticHeaterRequestContract manualPps voltageMv currentMa previousMv =
      some request) :
    ∃ candidate apdo,
      model.automaticHeaterPpsCandidate manualPps previousMv = some candidate ∧
      candidate.currentMa = currentMa ∧ candidate.allows voltageMv = true ∧
      manualPps.capabilityApdos[candidate.advertisementIndex]? = some (some apdo) ∧
      request.voltageMv = voltageMv ∧ request.operatingCurrentMa = currentMa ∧
      request.ppsRange = some (rangeOf apdo) ∧ request.isWellFormed = true := by
  obtain ⟨candidate, hbest, hrequest⟩ := Option.bind_eq_some_iff.mp h
  split at hrequest
  · cases hrequest
  · rename_i hasked
    rw [not_or, not_not, not_not] at hasked
    obtain ⟨apdo, hadvertised, hrequest⟩ := Option.bind_eq_some_iff.mp hrequest
    obtain ⟨slot, hslot, hsome⟩ := Option.bind_eq_some_iff.mp hadvertised
    obtain rfl : slot = some apdo := hsome
    split at hrequest
    · cases hrequest
    · rename_i plain hplain
      obtain ⟨hvoltage, hcurrent⟩ := eq_of_automaticPps hplain
      dsimp only at hrequest
      split at hrequest
      · rename_i hwellFormed
        obtain rfl := Option.some.inj hrequest
        exact ⟨candidate, apdo, hbest, hasked.1, hasked.2, hslot, hvoltage, hcurrent, rfl,
          hwellFormed⟩
      · cases hrequest

theorem respectsRange_of_isWellFormed
    (h : request.isWellFormed = true) (hrange : request.ppsRange = some range) :
    request.respectsRange range = true := by
  unfold PdContractRequest.isWellFormed at h
  rw [hrange, Option.all_some, Bool.and_eq_true] at h
  exact h.1

theorem grantedOn_of_request {reading : AutomaticHeaterReading}
    (h : (model.withReading reading).automaticHeaterRequestContract manualPps voltageMv
      currentMa previousMv = some request) :
    ∃ apdo index wifiStarted, GrantedOn reading manualPps request apdo index wifiStarted ∧
      ∃ candidate, candidate.allows request.voltageMv = true ∧
        OfferedBy reading manualPps apdo
          (reading.budgetLookup manualPps apdo apdo.maxMa.toNat previousMv wifiStarted)
          candidate := by
  obtain ⟨candidate, named, hbest, hasked, hallows, hnamed, hvoltage, hcurrent, hrange,
    hwellFormed⟩ := request_cases h
  obtain ⟨⟨apdo, index⟩, hadvertised, hfound⟩ := List.mem_filterMap.mp (Pd.mem_of_selectBest hbest)
  have hcandidate : reading.automaticHeaterPpsForApdo manualPps apdo index apdo.maxMa.toNat
      previousMv = some candidate := hfound
  obtain ⟨wifiStarted, hwifi⟩ := exists_wifiStarted hcandidate
  obtain ⟨hindex, hoffered⟩ := offeredBy_of_candidate hwifi hcandidate
  obtain ⟨limitMv, _, hallowed⟩ := hoffered.limit
  rw [hindex, mem_indexedApdos.mp hadvertised] at hnamed
  obtain rfl : apdo = named := Option.some.inj (Option.some.inj hnamed)
  have hrespects := respectsRange_of_isWellFormed hwellFormed hrange
  unfold PdContractRequest.respectsRange at hrespects
  obtain ⟨_, _, _, hamps⟩ := of_decide_eq_true hrespects
  rw [← hvoltage] at hallows
  have hwithin := hallows
  unfold AutomaticHeaterPpsCandidate.allows at hwithin
  obtain ⟨hmin, hmax⟩ := of_decide_eq_true hwithin
  rw [hoffered.minMv] at hmin
  rw [hallowed] at hmax
  have hsuits := hoffered.suits
  rw [hoffered.currentMa] at hsuits
  refine ⟨apdo, index, wifiStarted, ⟨hadvertised, hwifi, hoffered.isUsable, hrange, ?_, hamps,
    hmin, ?_⟩, candidate, hallows, hoffered⟩
  · rw [hcurrent, ← hasked, hoffered.currentMa]
    exact eq_of_currentSuits hsuits
  · refine hmax.trans (floorMvTo100mv_mono ?_)
    exact Nat.min_le_left _ _

/-! ## The confirmation -/

section

variable {model : AutomaticHeaterModel} {reading : AutomaticHeaterReading}
  {manualPps : ManualPpsState} {request : PdContractRequest} {snapshot : PdServiceSnapshot}
  {apdo : PpsApdo} {index : ℕ} {wifiStarted : Bool}

variable {range : PpsAdjustmentRange} {candidate : AutomaticHeaterPpsCandidate}

/-- The contract that the snapshot shows is looked up on the range of the request. -/
theorem automaticHeaterConfirmedPpsCandidate_of_reports (hreports : Reports snapshot request)
    (hrange : request.ppsRange = some range) :
    model.automaticHeaterConfirmedPpsCandidate manualPps snapshot =
      ((model.automaticHeaterPpsForContract manualPps request.voltageMv
          request.operatingCurrentMa (some range)).or
        (terminalCandidate manualPps range request.voltageMv
          request.operatingCurrentMa)).bind fun candidate =>
        if candidate.allows request.voltageMv then some candidate else none := by
  obtain ⟨observation, hobservation, hpdActive, hkind, hvoltage, hcurrent⟩ := hreports.observed
  obtain ⟨contract, hactive, hmode, hvoltageActive, hcurrentActive, hrangeActive⟩ := hreports.active
  unfold automaticHeaterConfirmedPpsCandidate PdServiceSnapshot.conductingObservation
  rw [hobservation, hactive]
  dsimp only
  rw [if_neg, hrangeActive, hrange, Option.bind_some, hvoltageActive, hcurrentActive]
  rw [hvoltage, hcurrent]
  simp [hpdActive, hkind, hmode, hvoltageActive, hcurrentActive]

/-- The query of the confirmation. -/
def confirmedLookup (reading : AutomaticHeaterReading) (manualPps : ManualPpsState)
    (request : PdContractRequest) (apdo : PpsApdo) (wifiStarted : Bool) : BoundaryQuery :=
  reading.lookup manualPps apdo request.operatingCurrentMa (some request.voltageMv) wifiStarted

namespace GrantedOn

theorem budgetLookup_eq (h : GrantedOn reading manualPps request apdo index wifiStarted) :
    reading.budgetLookup manualPps apdo request.operatingCurrentMa (some request.voltageMv)
        wifiStarted =
      confirmedLookup reading manualPps request apdo wifiStarted := by
  unfold budgetLookup confirmedLookup
  rw [encode_of_granted h.current h.current_le]

theorem minMv_le_maxMv (h : GrantedOn reading manualPps request apdo index wifiStarted) :
    candidateMinMv manualPps apdo ≤ candidateMaxMv manualPps apdo :=
  (h.minMv_le.trans h.le_maxMv).trans (floorMvTo100mv_le _)

theorem within (h : GrantedOn reading manualPps request apdo index wifiStarted) :
    apdo.minMv.toNat ≤ request.voltageMv ∧ request.voltageMv ≤ apdo.maxMv.toNat := by
  have hmin := h.minMv_le
  have hmax := h.le_maxMv.trans (floorMvTo100mv_le _)
  unfold candidateMinMv apdoMinMv at hmin
  unfold candidateMaxMv apdoMaxMv at hmax
  omega

/-- The APDO is the only one with its range, so its candidate is the one that is found. -/
theorem offeredBy_of_forContract (h : GrantedOn reading manualPps request apdo index wifiStarted)
    {candidate : AutomaticHeaterPpsCandidate}
    (hcandidate : (model.withReading reading).automaticHeaterPpsForContract manualPps
      request.voltageMv request.operatingCurrentMa (some (rangeOf apdo)) = some candidate) :
    OfferedBy reading manualPps apdo
      (confirmedLookup reading manualPps request apdo wifiStarted) candidate := by
  obtain ⟨entry, _, hfound⟩ := List.exists_of_findSome?_eq_some hcandidate
  split at hfound
  · cases hfound
  · rename_i hmatches
    rw [not_or, Option.any_some, decide_eq_true_iff, not_not] at hmatches
    obtain rfl : apdo = entry.1 := rangeOf_injective (isRangeOf_iff.mp hmatches.1)
    rw [← h.budgetLookup_eq]
    exact (offeredBy_of_candidate h.wifi hfound).2

/-- Without a candidate, every limit is below the range of the APDO. -/
theorem hasNoCandidate_of_forContract
    (h : GrantedOn reading manualPps request apdo index wifiStarted)
    (hnone : (model.withReading reading).automaticHeaterPpsForContract manualPps
      request.voltageMv request.operatingCurrentMa (some (rangeOf apdo)) = none) :
    HasNoCandidate reading (confirmedLookup reading manualPps request apdo wifiStarted)
      (candidateMinMv manualPps apdo) := by
  intro limitMv hlimit
  by_contra hnot
  rw [← h.budgetLookup_eq] at hlimit
  obtain ⟨candidate, hcandidate⟩ : ∃ candidate, reading.automaticHeaterPpsForApdo manualPps apdo
      index request.operatingCurrentMa (some request.voltageMv) = some candidate :=
    exists_candidate h.wifi h.isUsable h.minMv_le_maxMv hlimit
      ((le_floorMvTo100mv_min (h.minMv_le.trans h.le_maxMv)).mpr (not_lt.mp hnot))
  have hentry := List.findSome?_eq_none_iff.mp hnone (apdo, index) h.advertised
  have hwithin := h.within
  have hamps := h.current_le
  have hmatches : isRangeOf (rangeOf apdo) apdo = true := isRangeOf_iff.mpr rfl
  rw [if_neg] at hentry
  · have hfound : reading.automaticHeaterPpsForApdo manualPps apdo index
        request.operatingCurrentMa (some request.voltageMv) = none := hentry
    rw [hcandidate] at hfound
    cases hfound
  · simp [hmatches, hwithin.1, hwithin.2, hamps]

end GrantedOn

theorem isTerminalPair_of_terminalCandidate
    (h : terminalCandidate manualPps range request.voltageMv request.operatingCurrentMa =
      some candidate) :
    IsTerminalPair manualPps request.voltageMv request.operatingCurrentMa := by
  unfold terminalCandidate at h
  dsimp only at h
  split at h
  · cases h
  · rename_i hpair
    simp only [not_or, not_not, Option.all_eq_true, not_forall, decide_eq_true_iff, not_lt] at hpair
    obtain ⟨hvoltage, hcurrent, ⟨powerMw, hpower, hpowerLe⟩, ⟨envelopeMa, henvelope, hle⟩⟩ := hpair
    exact ⟨hvoltage, hcurrent, ⟨powerMw, hpower, hpowerLe⟩, ⟨envelopeMa, henvelope, hle⟩⟩

theorem allows_terminalCandidate {voltageMv currentMa : ℕ}
    (h : terminalCandidate manualPps range voltageMv currentMa = some candidate) :
    candidate.allows voltageMv = true := by
  unfold terminalCandidate at h
  dsimp only at h
  split at h
  · cases h
  · obtain ⟨entry, _, hfound⟩ := List.exists_of_findSome?_eq_some h
    split at hfound
    · rename_i hcovers
      obtain rfl := Option.some.inj hfound
      unfold AutomaticHeaterPpsCandidate.allows
      exact decide_eq_true ⟨hcovers.2.1, le_refl _⟩
    · cases hfound

/-- The terminal pair is accepted on the APDO it was granted on. -/
theorem exists_terminalCandidate (h : GrantedOn reading manualPps request apdo index wifiStarted)
    (hpair : IsTerminalPair manualPps request.voltageMv request.operatingCurrentMa) :
    ∃ candidate, terminalCandidate manualPps (rangeOf apdo) request.voltageMv
      request.operatingCurrentMa = some candidate := by
  obtain ⟨powerMw, hpower, hpowerLe⟩ := hpair.power
  obtain ⟨envelopeMa, henvelope, henvelopeLe⟩ := hpair.envelope
  have hmin := h.minMv_le
  have hmax := h.le_maxMv.trans (floorMvTo100mv_le _)
  unfold candidateMinMv apdoMinMv at hmin
  unfold candidateMaxMv apdoMaxMv at hmax
  have hupper : request.voltageMv ≤ min apdo.maxMv.toNat manualPps.requestMaxMv.toNat := by
    omega
  unfold terminalCandidate
  dsimp only
  rw [if_neg]
  · apply Option.isSome_iff_exists.mp
    rw [List.findSome?_isSome_iff]
    refine ⟨(apdo, index), h.advertised, ?_⟩
    rw [if_pos]
    · rfl
    · exact ⟨isRangeOf_iff.mpr rfl, hmin, hupper, h.current_le⟩
  · rw [hpower, henvelope, Option.all_some, Option.all_some, decide_eq_true_iff,
      decide_eq_true_iff]
    have hvoltage := hpair.voltage
    have hcurrent := hpair.current
    omega

/-! ## The whole of it -/

/-- The alternatives of `Sustained` on the APDO of the request. -/
theorem sustained_iff (h : GrantedOn reading manualPps request apdo index wifiStarted) :
    Sustained reading manualPps request ↔
      ReachesLimit reading (confirmedLookup reading manualPps request apdo wifiStarted)
          request.voltageMv ∨
        IsTerminalPair manualPps request.voltageMv request.operatingCurrentMa ∧
          HasNoCandidate reading (confirmedLookup reading manualPps request apdo wifiStarted)
            (candidateMinMv manualPps apdo) := by
  constructor
  · rintro ⟨other, otherWifi, hrange, hwifi, hsustained⟩
    obtain rfl := Option.some.inj (h.wifi.symm.trans hwifi)
    obtain rfl := rangeOf_injective (Option.some.inj (h.range.symm.trans hrange))
    exact hsustained
  · intro hsustained
    exact ⟨apdo, wifiStarted, h.range, h.wifi, hsustained⟩

/-- The candidate of the contract decides, where there is one. -/
theorem allows_iff_sustained (h : GrantedOn reading manualPps request apdo index wifiStarted)
    (hoffered : OfferedBy reading manualPps apdo
      (confirmedLookup reading manualPps request apdo wifiStarted) candidate) :
    candidate.allows request.voltageMv = true ↔ Sustained reading manualPps request := by
  obtain ⟨limitMv, hlimit, hallowed⟩ := hoffered.limit
  have hreach : candidate.allows request.voltageMv = true ↔
      request.voltageMv ≤ floorMvTo100mv limitMv := by
    unfold AutomaticHeaterPpsCandidate.allows
    rw [decide_eq_true_iff, hallowed, le_floorMvTo100mv_min h.le_maxMv, hoffered.minMv]
    exact and_iff_right h.minMv_le
  rw [sustained_iff h, hreach]
  constructor
  · intro hle
    exact .inl ⟨limitMv, hlimit, hle⟩
  · rintro (⟨otherMv, hother, hle⟩ | ⟨_, hnone⟩)
    · rw [hlimit.unique hother]
      exact hle
    · -- a limit below the range of the APDO would have given no candidate
      have hbelow := hnone limitMv hlimit
      have hinside := hoffered.minMv_le_allowedMv
      have hcut : floorMvTo100mv (min (candidateMaxMv manualPps apdo) limitMv) ≤
          floorMvTo100mv limitMv := floorMvTo100mv_mono (Nat.min_le_right _ _)
      omega

theorem isTerminalPair_iff_sustained
    (h : GrantedOn reading manualPps request apdo index wifiStarted)
    (hnone : HasNoCandidate reading (confirmedLookup reading manualPps request apdo wifiStarted)
      (candidateMinMv manualPps apdo)) :
    IsTerminalPair manualPps request.voltageMv request.operatingCurrentMa ↔
      Sustained reading manualPps request := by
  rw [sustained_iff h]
  constructor
  · intro hpair
    exact .inr ⟨hpair, hnone⟩
  · rintro (⟨limitMv, hlimit, hle⟩ | ⟨hpair, _⟩)
    · have hbelow := hnone limitMv hlimit
      have hmin := h.minMv_le
      omega
    · exact hpair

theorem isSome_allowed {voltageMv : ℕ} :
    (if candidate.allows voltageMv = true then some candidate else none).isSome = true ↔
      candidate.allows voltageMv = true := by
  split
  · rename_i hallows
    exact iff_of_true rfl hallows
  · rename_i hallows
    exact iff_of_false Bool.false_ne_true hallows

/-- A granted request that the snapshot shows as confirmed is accepted if and only if the
boundary sustains it at its own voltage. -/
theorem accepted_iff_sustained (model : AutomaticHeaterModel)
    (reading : AutomaticHeaterReading) (manualPps : ManualPpsState)
    (voltageMv currentMa : ℕ) (previousMv : Option ℕ) (request : PdContractRequest)
    (snapshot : PdServiceSnapshot)
    (hgranted : (model.withReading reading).automaticHeaterRequestContract manualPps voltageMv
      currentMa previousMv = some request)
    (hreports : Reports snapshot request) :
    ((model.withReading reading).automaticHeaterConfirmedPpsCandidate manualPps
        snapshot).isSome = true ↔
      Sustained reading manualPps request := by
  obtain ⟨apdo, index, wifiStarted, h, _⟩ := grantedOn_of_request hgranted
  rw [automaticHeaterConfirmedPpsCandidate_of_reports hreports h.range]
  cases hcontract : (model.withReading reading).automaticHeaterPpsForContract manualPps
      request.voltageMv request.operatingCurrentMa (some (rangeOf apdo)) with
  | some candidate =>
      rw [Option.some_or, Option.bind_some, isSome_allowed]
      exact allows_iff_sustained h (h.offeredBy_of_forContract hcontract)
  | none =>
      rw [Option.none_or,
        ← isTerminalPair_iff_sustained h (h.hasNoCandidate_of_forContract hcontract)]
      constructor
      · intro hsome
        obtain ⟨accepted, haccepted⟩ := Option.isSome_iff_exists.mp hsome
        obtain ⟨candidate, hterminal, _⟩ := Option.bind_eq_some_iff.mp haccepted
        exact isTerminalPair_of_terminalCandidate hterminal
      · intro hpair
        obtain ⟨candidate, hterminal⟩ := exists_terminalCandidate h hpair
        rw [hterminal, Option.bind_some, isSome_allowed]
        exact allows_terminalCandidate hterminal

end

/-! ## A request below the point it was granted on -/

/-- A plate two degrees below the 11 V point of its boundary, which it held before. -/
def dipReading : AutomaticHeaterReading where
  wifiStarted := some false
  boundary := some
    { adc := ⟨3328, 1800, 3000, 500, 1, 6⟩
      sourceMinMv := 5500
      sourceMaxMv := 21000
      sourceMaxMa := 3000
      advertisedMinMv := 5500
      advertisedMaxMv := 21000
      pointCount := 2
      points := Wire.fillSlots {} Supply.maxBoundaryPoints
        [⟨10000, 1000, 1000, 1000, 1000, 3000, 10000, 0, true⟩,
         ⟨20000, 1100, 1100, 1100, 1100, 3000, 11000, 0, true⟩] }
  temperatureCentiC := 10800
  currentRtdMv := some 1080
  projectTemperature := fun rtdMv => some (rtdMv.toNat * 10)
  resistance :=
    { isUsable := true
      electricalLimitMv := fun budgetMa => 43 * budgetMa / 10
      powerMw := fun allowedMv _ _ => allowedMv * allowedMv / 4300 }

def dipManualPps : ManualPpsState :=
  { requestMinMv := 5500
    capabilityApdos := (Vector.replicate _ none).setIfInBounds 0 (some ⟨5500, 21000, 3000⟩) }

def dipModel : AutomaticHeaterModel where
  ppsForApdo _ _ _ _ _ := none
  voltageResponseMatches _ _ _ _ := true
  fixedRequestWithBoundary _ := none
  pwmPercentForPower _ _ _ := 0
  requestMvFromPower _ floorMv _ := floorMv
  phasePpsRequestMv _ _ _ := none

def dipRequest (voltageMv : ℕ) : PdContractRequest :=
  ⟨.pps, voltageMv, 3000, false, some ⟨5500, 21000, 3000⟩⟩

def dipSnapshot (voltageMv : ℕ) : PdServiceSnapshot where
  observation := some
    { statusRaw := 0
      status := ⟨false, false, false, true, false, false, false⟩
      currentRaw := 0
      currentMa := 3000
      contractVoltageMv := some voltageMv
      contract := ⟨.pps, 2, voltageMv, 3000⟩ }
  active := some ⟨.pps, voltageMv, 3000, some ⟨5500, 21000, 3000⟩, some 0⟩
  transitionPending := false
  serviceAvailable := true
  publishedAtMs := 0

theorem reports_dip (voltageMv : ℕ) : Reports (dipSnapshot voltageMv) (dipRequest voltageMv) where
  observed := ⟨_, rfl, rfl, rfl, rfl, rfl⟩
  active := ⟨_, rfl, rfl, rfl, rfl, rfl⟩

theorem granted_dip :
    (dipModel.withReading dipReading).automaticHeaterRequestContract dipManualPps 10500 3000
      (some 11000) = some (dipRequest 10500) := by
  decide +kernel

/-- The request for the voltage that is held would be sustained. -/
theorem accepted_iff_sustained_dip :
    ((dipModel.withReading dipReading).automaticHeaterConfirmedPpsCandidate dipManualPps
        (dipSnapshot 11000)).isSome = true ↔
      Sustained dipReading dipManualPps (dipRequest 11000) :=
  accepted_iff_sustained dipModel dipReading dipManualPps 11000 3000 (some 11000)
    (dipRequest 11000) (dipSnapshot 11000) (by decide +kernel) (reports_dip 11000)

/-- The 11 V point is held while 11 V are requested, and not for 10.5 V. -/
theorem not_accepted_of_granted :
    ¬ ∀ (model : AutomaticHeaterModel) (reading : AutomaticHeaterReading)
      (manualPps : ManualPpsState) (voltageMv currentMa : ℕ) (previousMv : Option ℕ)
      (request : PdContractRequest) (snapshot : PdServiceSnapshot),
      (model.withReading reading).automaticHeaterRequestContract manualPps voltageMv currentMa
          previousMv = some request →
        Reports snapshot request →
          ((model.withReading reading).automaticHeaterConfirmedPpsCandidate manualPps
            snapshot).isSome = true := by
  intro h
  have haccepted := h dipModel dipReading dipManualPps 10500 3000 (some 11000)
    (dipRequest 10500) (dipSnapshot 10500) granted_dip (reports_dip 10500)
  have hrefused : ((dipModel.withReading dipReading).automaticHeaterConfirmedPpsCandidate
      dipManualPps (dipSnapshot 10500)).isSome = false := by
    decide +kernel
  rw [haccepted] at hrefused
  cases hrefused

end FluxPurr.Heater
